import RoadWeather.Inputs
import RoadWeather.Proofs.SnapshotFiles

/-!
# What the written inputs say

The inputs of some runs are written as one list, an entry for each run. What an entry says is laid
down here member by member, and by what a reader finds there: an object has exactly the members
named, in their order, and each of their values is read as what it stands for
(`RunInputs.IsEntry`). So much is said of the text, and nothing of the writer.

## The construction

A writer makes a value of its own, a reader sees a draft of the text. The two meet in
`Json.Says j P`: whatever spells the value `j` spells a draft of which `P` holds. It is shown of
the leaves first and put together along lists and objects, as the form of an entry is. A number in
a form need not be one that the reader takes for the same number, since all that is asked of it is
what its text says. A priority of `2 ^ 64` or more is written as well, and is read as a double.

## Main results

* `RunInputs.says_toJson`: the form of the inputs of a run says what an entry says.
* `RunInputs.exists_listToIndentedText`: inputs with timestamps that have a text can be written, and
  what is written lists them.
-/

namespace RoadWeather

namespace Json

open Draft

/-! ## What the text of a value says -/

/-- Whether what spells a value spells a draft with a property. -/
def Says (j : Json) (P : Draft → Prop) : Prop :=
  ∃ d, P d ∧ ∀ s, j.Spells s → d.Spells s

/-- Whether an object has exactly the members of the given names, in their order, and each value
has the property that stands beside the name. -/
def IsObjectOf (forms : List (String × (Draft → Prop))) (d : Draft) : Prop :=
  ∃ members : List (String × Draft), d = .object (.ofList members) ∧
    List.Forall₂ (fun form m ↦ m.1 = form.1 ∧ form.2 m.2) forms members

/-- Whether a draft is a double as it is written: what is read there is the double, or `null` if it
is not finite. -/
def IsDouble (x : Float) (d : Draft) : Prop :=
  if x.isFinite then Decoder.double d = .ok x else d = .null

/-- Whether a draft is what is read in the digits of a number. That is the number itself as long as
it has 64 bits at most (`numberOf_toDigits`), and the nearest double beyond. -/
def IsNatural (n : Nat) (d : Draft) : Prop :=
  d = .number (numberOf false (Nat.toDigits 10 n) none none)

variable {j : Json} {P : Draft → Prop} {α : Type}

theorem says_of_isExact (hexact : j.IsExact) (h : P (ofJson j)) : j.Says P :=
  ⟨ofJson j, h, fun _ ↦ spells_ofJson j hexact⟩

theorem says_string {s : String} (h : P (.string (.ok s))) : (string s).Says P :=
  says_of_isExact trivial h

theorem says_double (x : Float) : (double x).Says (IsDouble x) := by
  refine says_of_isExact (isExact_double x) ?_
  rw [IsDouble]
  by_cases hx : x.isFinite = true
  · rw [if_pos hx]
    exact Decoder.double_ofJson hx
  · rw [if_neg hx, double, if_neg hx]
    rfl

theorem says_natural (n : Nat) : (natural n).Says (IsNatural n) := by
  refine ⟨_, rfl, ?_⟩
  rintro _ rfl
  exact spellsNumber_toDigits false n

theorem says_list {encode : α → Json} {IsForm : α → Draft → Prop} {as : List α}
    (h : ∀ a ∈ as, (encode a).Says (IsForm a)) :
    (array (as.map encode)).Says (IsListOf IsForm as) := by
  suffices hitems : ∃ ds, List.Forall₂ IsForm as ds ∧ ∀ first s,
      SpellsItems first (as.map encode) s → Draft.SpellsItems first (.ofList ds) s by
    obtain ⟨ds, hds, hspells⟩ := hitems
    exact ⟨.array (.ofList ds), ⟨ds, rfl, hds⟩, fun s ⟨rest, hs, hrest⟩ ↦
      ⟨rest, hs, hspells true rest hrest⟩⟩
  induction as with
  | nil => exact ⟨[], .nil, fun _ _ hs ↦ hs⟩
  | cons a as ih =>
    obtain ⟨⟨d, hd, hspells⟩, h⟩ := List.forall_mem_cons.mp h
    obtain ⟨ds, hds, hrest⟩ := ih h
    refine ⟨d :: ds, .cons hd hds, ?_⟩
    rintro first _ ⟨blank, text, rest, hblank, htext, hitems, rfl⟩
    exact ⟨_, blank, text, rest, isSeparator_comma first, hblank, hspells text htext,
      hrest false rest hitems, rfl⟩

theorem says_object {members : List (String × Json)} {forms : List (String × (Draft → Prop))}
    (h : List.Forall₂ (fun m form ↦ m.1 = form.1 ∧ m.2.Says form.2) members forms) :
    (object members).Says (IsObjectOf forms) := by
  suffices hmembers : ∃ ms : List (String × Draft),
      List.Forall₂ (fun form m ↦ m.1 = form.1 ∧ form.2 m.2) forms ms ∧ ∀ first s,
      SpellsMembers first members s → SpellsEntries first (.ofList ms) s by
    obtain ⟨ms, hms, hspells⟩ := hmembers
    exact ⟨.object (.ofList ms), ⟨ms, rfl, hms⟩, fun s ⟨rest, hs, hrest⟩ ↦
      ⟨rest, hs, hspells true rest hrest⟩⟩
  induction h with
  | nil => exact ⟨[], .nil, fun _ _ hs ↦ hs⟩
  | @cons member form members forms hmember _ ih =>
    obtain ⟨key, value⟩ := member
    obtain ⟨hname, d, hd, hspells⟩ := hmember
    obtain ⟨ms, hms, hrest⟩ := ih
    refine ⟨(key, d) :: ms, .cons ⟨hname, hd⟩ hms, ?_⟩
    rintro first _ ⟨blank, blank', text, rest, hblank, hblank', htext, hmembers, rfl⟩
    exact ⟨_, blank, quote key, [], blank', text, rest, isSeparator_comma first, hblank,
      spellsString_quote key, isBlankText_nil, hblank', hspells text htext,
      hrest false rest hmembers, rfl⟩

/-- A mapping is an object with a member for each of its entries. -/
theorem says_mapping {entries : List α} {name : α → String} {encode : α → Json}
    {IsForm : α → Draft → Prop} (h : ∀ a ∈ entries, (encode a).Says (IsForm a)) :
    (object (entries.map fun a ↦ (name a, encode a))).Says
      (IsObjectOf (entries.map fun a ↦ (name a, IsForm a))) := by
  refine says_object ?_
  rw [List.forall₂_map_left_iff, List.forall₂_map_right_iff]
  exact List.forall₂_same.mpr fun a ha ↦ ⟨rfl, h a ha⟩

end Json

open Json

/-! ## Entries -/

/-- Whether a draft is a location as it is written, the elevation being left out if there is
none. -/
def Location.IsEntry (l : Location) : Draft → Prop :=
  IsObjectOf <|
    [("latitude", IsDouble l.latitude), ("longitude", IsDouble l.longitude)] ++
      l.elevation.toList.map fun elevation ↦ ("elevation", IsDouble elevation)

/-- Whether a draft is a source as it is written. -/
def DataSource.IsEntry (s : DataSource) : Draft → Prop :=
  IsObjectOf [("kind", (Decoder.string · = .ok s.kind.name)), ("location", s.location.IsEntry),
    ("parameter", (Decoder.string · = .ok s.parameter)),
    ("source_id", (Decoder.string · = .ok s.sourceId))]

/-- Whether a draft is a resolved input as it is written: its value, its timestamp and its source,
and which of the candidates that was. -/
def ResolvedValue.IsEntry (v : ResolvedValue) : Draft → Prop :=
  IsObjectOf [("value", IsDouble v.value), ("timestamp", (Timestamp.decoder · = .ok v.timestamp)),
    ("source", v.source.IsEntry), ("priority", IsNatural v.priority)]

/-- Whether a draft is the entry of a run: its place and its model, the inputs that were resolved,
and those that are missing with the messages of their reasons, all under the names of their
tags. -/
def RunInputs.IsEntry (i : RunInputs) : Draft → Prop :=
  IsObjectOf [("location", i.location.IsEntry), ("model_id", (Decoder.string · = .ok i.modelId)),
    ("observations", IsObjectOf (i.observations.map fun (tag, v) ↦ (tag.name, v.IsEntry))),
    ("forecasts", IsObjectOf (i.forecasts.map fun (tag, v) ↦ (tag.name, v.IsEntry))),
    ("missing_observations", IsObjectOf <| i.missingObservations.map fun (tag, e) ↦
      (tag.name, (Decoder.string · = .ok e.message))),
    ("missing_forecasts", IsObjectOf <| i.missingForecasts.map fun (tag, e) ↦
      (tag.name, (Decoder.string · = .ok e.message)))]

/-- Whether a text is a list with the entries of some runs, in their order and nothing else. -/
def RunInputs.AreListedIn (runs : List RunInputs) (text : String) : Prop :=
  ∃ d s, IsListOf IsEntry runs d ∧ d.Spells s ∧ text = String.ofList s

theorem Location.says_toJson (l : Location) : l.toJson.Says l.IsEntry := by
  refine says_object (.cons ⟨rfl, says_double _⟩ (.cons ⟨rfl, says_double _⟩ ?_))
  cases l.elevation with
  | none => exact .nil
  | some elevation => exact .cons ⟨rfl, says_double elevation⟩ .nil

theorem DataSource.says_toJson (s : DataSource) : s.toJson.Says s.IsEntry :=
  says_object (.cons ⟨rfl, says_string rfl⟩ (.cons ⟨rfl, s.location.says_toJson⟩
    (.cons ⟨rfl, says_string rfl⟩ (.cons ⟨rfl, says_string rfl⟩ .nil))))

theorem ResolvedValue.says_toJson {v : ResolvedValue} (h : v.timestamp.HasText) :
    v.toJson.Says v.IsEntry := by
  have htime : v.timestamp.toJson.Says (Timestamp.decoder · = .ok v.timestamp) :=
    says_of_isExact trivial (Timestamp.decoder_toJson h)
  exact says_object (.cons ⟨rfl, says_double v.value⟩ (.cons ⟨rfl, htime⟩
    (.cons ⟨rfl, v.source.says_toJson⟩ (.cons ⟨rfl, says_natural v.priority⟩ .nil))))

namespace RunInputs

/-- **The form of the inputs of a run is the entry of the run.** -/
theorem says_toJson {i : RunInputs} (h : ∀ t ∈ i.timestamps, t.HasText) :
    i.toJson.Says i.IsEntry := by
  have hobserved : ∀ o ∈ i.observations, o.2.toJson.Says o.2.IsEntry := fun o ho ↦
    ResolvedValue.says_toJson (h _ (List.mem_append_left _ (List.mem_map.mpr ⟨o, ho, rfl⟩)))
  have hforecasted : ∀ f ∈ i.forecasts, f.2.toJson.Says f.2.IsEntry := fun f hf ↦
    ResolvedValue.says_toJson (h _ (List.mem_append_right _ (List.mem_map.mpr ⟨f, hf, rfl⟩)))
  exact says_object (.cons ⟨rfl, i.location.says_toJson⟩ (.cons ⟨rfl, says_string rfl⟩
    (.cons ⟨rfl, says_mapping hobserved⟩ (.cons ⟨rfl, says_mapping hforecasted⟩
      (.cons ⟨rfl, says_mapping fun _ _ ↦ says_string rfl⟩
        (.cons ⟨rfl, says_mapping fun _ _ ↦ says_string rfl⟩ .nil))))))

/-- **Inputs can be written if all their timestamps can**, and what is written lists the inputs. -/
theorem exists_listToIndentedText {runs : List RunInputs}
    (h : ∀ i ∈ runs, ∀ t ∈ i.timestamps, t.HasText) :
    ∃ text, listToIndentedText runs = .ok text ∧ AreListedIn runs text := by
  have htimes : ∀ t ∈ runs.flatMap timestamps, t.HasText := fun t ht ↦ by
    obtain ⟨i, hi, ht⟩ := List.mem_flatMap.mp ht
    exact h i hi t ht
  obtain ⟨d, hd, hspells⟩ := says_list fun i hi ↦ says_toJson (h i hi)
  exact ⟨_, Timestamp.writing_eq_ok_iff.mpr ⟨htimes, rfl⟩, d, _, hd,
    hspells _ (spells_indented _ 0), rfl⟩

end RunInputs

end RoadWeather
