import RoadWeather.Proofs.ByteOrder
import RoadWeather.Store.History

/-!
# A store keeps the last description of every key

What a store knows of descriptions is determined by what has been stored, and by the order of it:
under a key it has the description with the key after which none with it came (`IsLast`). Two
places share a key if they differ by a fraction of a metre, or in their elevation only. So a
description can take the place of one for another place, and the text of the key does not tell
which of the two is there.

## The invariant

The descriptions at hand are the last ones of all stored so far (`Store.Describes`). One description
keeps it (`Store.Describes.upsert`); files and whole histories follow by induction. Values make no
difference to it, and a file that cannot be decoded adds none.

## The listing

It is read off the invariant, since a tree map lists its entries in the order of their keys. The
order is that of the bytes of the place and then of the model, and it is strict, so every key is
listed once.
-/

namespace RoadWeather

/-! ## The last description

That a description comes last is said by the list of those stored, taken apart at its place. A new
one at the end is the last with its key, and leaves the last ones with other keys as they are. -/

/-- The last of some descriptions that has a key. -/
def IsLast (ds : List Description) (key : DescriptionKey) (d : Description) : Prop :=
  ∃ before after, ds = before ++ d :: after ∧ d.key = key ∧ ∀ d' ∈ after, d'.key ≠ key

variable {ds : List Description} {key : DescriptionKey} {d : Description}

theorem IsLast.mem (h : IsLast ds key d) : d ∈ ds := by
  obtain ⟨before, after, rfl, -⟩ := h
  exact List.mem_append_right _ List.mem_cons_self

theorem IsLast.key_eq (h : IsLast ds key d) : d.key = key := by
  obtain ⟨-, -, -, hkey, -⟩ := h
  exact hkey

/-- A new description is the last with its key, and the last with any other key remains so. -/
theorem isLast_append_singleton {new : Description} :
    IsLast (ds ++ [new]) key d ↔ new.key = key ∧ d = new ∨ new.key ≠ key ∧ IsLast ds key d := by
  constructor
  · rintro ⟨before, after, heq, hkey, hafter⟩
    -- The last is the new description just if nothing comes after it.
    rcases List.eq_nil_or_concat after with rfl | ⟨after, last, rfl⟩
    · obtain ⟨-, rfl⟩ := List.append_singleton_inj.mp heq
      exact Or.inl ⟨hkey, rfl⟩
    · rw [List.concat_eq_append, ← List.cons_append, ← List.append_assoc] at heq
      obtain ⟨rfl, rfl⟩ := List.append_singleton_inj.mp heq
      rw [List.concat_eq_append] at hafter
      have hnew : new.key ≠ key := hafter new (List.mem_append_right _ (List.mem_singleton_self _))
      exact Or.inr ⟨hnew, before, after, rfl, hkey, fun d' hd' ↦
        hafter d' (List.mem_append_left _ hd')⟩
  · rintro (⟨hkey, rfl⟩ | ⟨hnew, before, after, rfl, hkey, hafter⟩)
    · exact ⟨ds, [], rfl, hkey, fun _ hd' ↦ absurd hd' List.not_mem_nil⟩
    · refine ⟨before, after ++ [new], by rw [List.append_assoc, List.cons_append], hkey,
        fun d' hd' ↦ ?_⟩
      rcases List.mem_append.mp hd' with hmem | hmem
      · exact hafter d' hmem
      · obtain rfl := List.mem_singleton.mp hmem
        exact hnew

/-! ## The invariant -/

namespace Store

/-- The descriptions at hand are the last ones: under every key that of the last description with
it, and none just if there is no such description. -/
structure Describes (s : Store) (ds : List Description) : Prop where
  none_iff : ∀ key, s.describing? key = none ↔ ∀ d ∈ ds, d.key ≠ key
  some_iff : ∀ key d, s.describing? key = some d ↔ IsLast ds key d

variable {s t : Store}

theorem describes_empty : empty.Describes [] where
  none_iff key := by simp [describing?, empty]
  some_iff key d := by
    constructor
    · intro h
      simp [describing?, empty] at h
    · intro h
      exact absurd h.mem List.not_mem_nil

theorem Describes.congr (h : s.Describes ds) (heq : t.descriptions = s.descriptions) :
    t.Describes ds := by
  have hsame : ∀ key, t.describing? key = s.describing? key := fun key ↦ by
    rw [describing?, describing?, heq]
  exact ⟨fun key ↦ by rw [hsame, h.none_iff], fun key d ↦ by rw [hsame, h.some_iff]⟩

/-- **One description keeps the descriptions the last ones.** -/
theorem Describes.upsert (h : s.Describes ds) (new : Description) :
    (s.upsert new).Describes (ds ++ [new]) where
  none_iff key := by
    by_cases hkey : new.key = key
    · simp [hkey]
    · simp [hkey, h.none_iff, or_imp, forall_and]
  some_iff key d := by
    rw [isLast_append_singleton]
    by_cases hkey : new.key = key
    · simp [hkey, eq_comm]
    · simp [hkey, h.some_iff]

theorem Describes.upsertAll (h : s.Describes ds) (new : List Description) :
    (s.upsertAll new).1.Describes (ds ++ new) := by
  induction new generalizing s ds with
  | nil =>
    rw [List.append_nil]
    exact h
  | cons d rest ih =>
    have hrest := ih (h.upsert d)
    rw [List.append_assoc] at hrest
    exact hrest

/-- **An operation stores the descriptions that it takes in, and nothing else.** -/
theorem Describes.perform (h : s.Describes ds) (operation : Operation) :
    (s.perform operation).Describes (ds ++ operation.described) := by
  cases operation with
  | recordMeasurement r => exact (List.append_nil ds).symm ▸ h.congr rfl
  | recordForecast r => exact (List.append_nil ds).symm ▸ h.congr rfl
  | insertSnapshot snapshot => exact (List.append_nil ds).symm ▸ h.congr rfl
  | upsert d => exact h.upsert d
  | loadValues path content =>
    rw [Operation.described, List.append_nil, Store.perform, loadValues]
    cases decodeFile Snapshot.decoder content with
    | error e => exact h
    | ok snapshot => exact h.congr rfl
  | loadDescriptions path content =>
    rw [Operation.described, Store.perform, loadDescriptions]
    cases decodeFile Description.listDecoder content with
    | error e => exact (List.append_nil ds).symm ▸ h
    | ok new => exact h.upsertAll new

theorem Describes.performAll (h : s.Describes ds) (operations : List Operation) :
    (s.performAll operations).Describes (ds ++ Operation.descriptions operations) := by
  induction operations generalizing s ds with
  | nil =>
    rw [Operation.descriptions, List.flatMap_nil, List.append_nil]
    exact h
  | cons operation rest ih =>
    rw [Operation.descriptions, List.flatMap_cons, ← List.append_assoc]
    exact ih (h.perform operation)

/-- The descriptions after a history are the last ones of those stored in it. -/
theorem describes_after (operations : List Operation) :
    (after operations).Describes (Operation.descriptions operations) :=
  describes_empty.performAll operations

/-! ## The listing -/

theorem Describes.mem_allDescriptions (h : s.Describes ds) :
    d ∈ s.allDescriptions ↔ IsLast ds d.key d := by
  rw [← h.some_iff, describing?, allDescriptions, List.mem_map]
  constructor
  · rintro ⟨⟨key, d⟩, hmem, rfl⟩
    have hget := Std.ExtTreeMap.mem_toList_iff_getElem?_eq_some.mp hmem
    -- A description is found under no key but its own.
    obtain rfl := ((h.some_iff key d).mp hget).key_eq
    exact hget
  · intro hget
    exact ⟨(d.key, d), Std.ExtTreeMap.mem_toList_iff_getElem?_eq_some.mpr hget, rfl⟩

theorem Describes.pairwise_allDescriptions (h : s.Describes ds) :
    s.allDescriptions.Pairwise fun d e ↦ d.key.Precedes e.key := by
  have hown : ∀ entry ∈ s.descriptions.toList, entry.2.key = entry.1 := by
    rintro ⟨key, d⟩ hmem
    exact ((h.some_iff key d).mp (Std.ExtTreeMap.mem_toList_iff_getElem?_eq_some.mp hmem)).key_eq
  rw [allDescriptions, List.pairwise_map]
  refine Std.ExtTreeMap.ordered_keys_toList.imp_of_mem fun {entry other} hentry hother hlt ↦ ?_
  rw [hown entry hentry, hown other hother]
  exact DescriptionKey.order_eq_lt_iff.mp hlt

/-- **A store keeps the last description of every key.** After any history, what is stored under a
key is valid and has the key. A place and a model have a description just if one was stored under
their key, and it is the last one stored under it. The listing holds these, each once, in the order
of the bytes of their keys. To store a description hands back what the store would have answered
before, and answers differ after it for no other key. -/
theorem description?_after (operations : List Operation) :
    (∀ key d, (after operations).describing? key = some d →
      Description.ofConfig d.config = .ok d ∧ d.key = key) ∧
    (∀ location modelId,
      ((after operations).description? location modelId = none ↔
        ∀ d ∈ Operation.descriptions operations, d.key ≠ ⟨location.key, modelId⟩) ∧
      ∀ d, (after operations).description? location modelId = some d ↔
        IsLast (Operation.descriptions operations) ⟨location.key, modelId⟩ d) ∧
    ((after operations).allDescriptions.Pairwise fun d e ↦ d.key.Precedes e.key) ∧
    (∀ d, d ∈ (after operations).allDescriptions ↔
      IsLast (Operation.descriptions operations) d.key d) ∧
    ∀ d,
      ((after operations).replace d).1 = after (operations ++ [.upsert d]) ∧
      ((after operations).replace d).2 = (after operations).description? d.location d.modelId ∧
      (after (operations ++ [.upsert d])).description? d.location d.modelId = some d ∧
      ∀ key ≠ d.key, (after (operations ++ [.upsert d])).describing? key
        = (after operations).describing? key := by
  have h := describes_after operations
  refine ⟨fun key d hget ↦ ⟨d.ofConfig_config, ((h.some_iff key d).mp hget).key_eq⟩,
    fun location modelId ↦ ⟨h.none_iff _, h.some_iff _⟩, h.pairwise_allDescriptions,
    fun d ↦ h.mem_allDescriptions, fun d ↦ ?_⟩
  have hupsert : after (operations ++ [.upsert d]) = (after operations).upsert d := by
    rw [after, performAll, List.foldl_append]
    rfl
  have hget : ∀ key, ((after operations).upsert d).describing? key
      = if d.key = key then some d else (after operations).describing? key :=
    describing?_upsert (after operations) d
  rw [hupsert]
  exact ⟨rfl, rfl, (hget d.key).trans (if_pos rfl),
    fun key hne ↦ (hget key).trans (if_neg hne.symm)⟩

end Store

end RoadWeather
