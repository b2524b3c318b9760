import RoadWeather.Proofs.DescriptionForms
import RoadWeather.Proofs.StoredDescriptions

/-!
# The descriptions of a store survive a file

The listing of a store is written as one list of descriptions, and an empty store that takes in the
file has the same descriptions under the same keys. What is written is found again in the text, so
the file gives the very list back; and since no two descriptions of the list share a key, each of
them is the last one with its key when they are stored one after the other.
-/

namespace RoadWeather

open Json

/-! ## Files -/

theorem FileContent.text_toUTF8 (text : String) :
    FileContent.text (.ok text.toUTF8) = .ok text := by
  have hback : String.fromUTF8? text.toUTF8 = some text := by
    unfold String.fromUTF8?
    rw [String.toUTF8_eq_toByteArray, dif_pos text.isValidUTF8]
    rfl
  rw [FileContent.text, hback]

theorem Store.decodeFile_of_spells {α : Type} {decoder : Decoder α} {j : Json} {text : List Char}
    {a : α} (hexact : j.IsExact) (hspells : j.Spells text)
    (hdecoded : decoder (Draft.ofJson j) = .ok a) :
    decodeFile decoder (.ok (String.ofList text).toUTF8) = .ok a := by
  rw [decodeFile, FileContent.text_toUTF8]
  dsimp only
  rw [decode_of_spells hexact hspells, hdecoded]

/-! ## Keys -/

/-- Of descriptions with different keys each is the last one with its key. -/
theorem isLast_iff_of_pairwise {ds : List Description} {key : DescriptionKey} {d : Description}
    (h : ds.Pairwise fun d e ↦ d.key ≠ e.key) : IsLast ds key d ↔ d ∈ ds ∧ d.key = key := by
  constructor
  · exact fun hlast ↦ ⟨hlast.mem, hlast.key_eq⟩
  · rintro ⟨hmem, rfl⟩
    obtain ⟨before, after, rfl⟩ := List.append_of_mem hmem
    have hafter := List.pairwise_append.mp h |>.2.1
    exact ⟨before, after, rfl, rfl, fun e he ↦ (List.rel_of_pairwise_cons hafter he).symm⟩

theorem DescriptionKey.Precedes.ne {a b : DescriptionKey} (h : a.Precedes b) : a ≠ b := by
  rintro rfl
  have hlt : DescriptionKey.order a a = .lt := DescriptionKey.order_eq_lt_iff.mpr h
  have heq : DescriptionKey.order a a = .eq := Std.ReflCmp.compare_self
  rw [heq] at hlt
  cases hlt

namespace Store

/-- Whether a text gives an empty store the descriptions of a store. -/
def Reloads (s : Store) (text : String) : Prop :=
  ∀ path, ∃ loaded, empty.loadDescriptions path (.ok text.toUTF8) = .ok loaded ∧
    loaded.count = s.allDescriptions.length ∧ loaded.store.descriptions = s.descriptions ∧
    loaded.store.allDescriptions = s.allDescriptions

/-- To store the descriptions of a listing again gives the same descriptions. -/
theorem Describes.upsertAll_allDescriptions {s : Store} {ds : List Description}
    (h : s.Describes ds) :
    (empty.upsertAll s.allDescriptions).1.descriptions = s.descriptions := by
  have hagain := describes_empty.upsertAll s.allDescriptions
  rw [List.nil_append] at hagain
  have hdistinct : s.allDescriptions.Pairwise fun d e ↦ d.key ≠ e.key :=
    h.pairwise_allDescriptions.imp fun hlt ↦ hlt.ne
  apply Std.ExtTreeMap.ext_getElem?
  intro key
  refine Option.ext fun d ↦ ?_
  have hleft := hagain.some_iff key d
  have hright := h.some_iff key d
  rw [describing?] at hleft hright
  rw [hleft, hright, isLast_iff_of_pairwise hdistinct, h.mem_allDescriptions]
  constructor
  · rintro ⟨hlast, rfl⟩
    exact hlast
  · intro hlast
    obtain rfl := hlast.key_eq
    exact ⟨hlast, rfl⟩

theorem reloads_of_spells {s : Store} {ds : List Description} {text : List Char}
    (h : s.Describes ds) (hspells : (Description.listToJson s.allDescriptions).Spells text) :
    s.Reloads (String.ofList text) := by
  intro path
  have hfile := decodeFile_of_spells (Description.isExact_listToJson _) hspells
    (Description.listDecoder_listToJson s.allDescriptions)
  have hdescriptions := h.upsertAll_allDescriptions
  refine ⟨_, by rw [loadDescriptions, hfile]; rfl, rfl, hdescriptions, ?_⟩
  rw [allDescriptions, hdescriptions, allDescriptions]

/-- **Descriptions survive a file.** After any history, the listing of the store, written as one
list in the compact form or in the indented one, loads into an empty store: the load succeeds,
counts the descriptions, and leaves the same descriptions under the same keys. No number is lost,
since all numbers in a description are finite and so have a text. -/
theorem reloads_after (operations : List Operation) :
    (after operations).Reloads
      (Description.listToJson (after operations).allDescriptions).toText ∧
    (after operations).Reloads
      (Description.listToJson (after operations).allDescriptions).toIndentedText ∧
    ∀ d ∈ (after operations).allDescriptions, ∀ x ∈ d.config.numbers,
      x.isFinite = true ∧ Json.double x = .number (.double x) :=
  ⟨reloads_of_spells (describes_after operations) (spells_compact _),
    reloads_of_spells (describes_after operations) (spells_indented _ 0),
    fun d _ x hx ↦ ⟨d.isFinite_numbers x hx, double_eq_number (d.isFinite_numbers x hx)⟩⟩

end Store

end RoadWeather
