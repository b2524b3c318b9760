import Mathlib.Data.List.Induction
import Mathlib.Data.List.Nodup
import RoadWeather.Proofs.Conversion

/-!
# Catalogs are built from consistent lists

A list of parameters becomes a catalog just if it is consistent (`Catalog.Consistent`): every range
is one, parameters feed inputs exactly if they are convertible, and labels are unique. The audit
reports the first parameter that breaks the consistency of those before it (`Parameter.Breaks`), and
of this parameter the first of the three rules that it breaks.

## From the back

All of it is said of a list and one more parameter at its end, since a parameter is held against
those before it and against no others. The audit of the longer list is the audit of the shorter one
and then that of the new parameter (`Catalog.audit_concat`). So the induction is one from the back,
although the audit itself runs from the front and carries the labels that it has seen.

## Tables

The other way to build a catalog is to enter the parameters one by one into a table by their labels,
which fails where a label is taken. Its invariant is that the table holds the parameters so far,
each in the place of its label (`ParameterTable.Holds`). While it lasts, to enter a parameter fails
for the very rule that the audit would report (`ParameterTable.enter_eq_error_iff`). So the two ways
report the same (`ParameterTable.fill_eq_error_iff`) and hold the same parameters in the end.

What is to be said of a catalog that has been built is said from the list alone
(`Catalog.Represents`), without the catalog being opened.
-/

namespace RoadWeather

/-! ## Rules -/

namespace Parameter

/-- The bounds of its range, if it has one, are finite and not inverted. -/
def IsBounded (p : Parameter) : Prop :=
  ∀ min max, p.validity = .range min max → min.isFinite ∧ max.isFinite ∧ min ≤ max

/-- It feeds no input just if it is not convertible. -/
def FeedsIfConvertible (p : Parameter) : Prop := p.feeds = [] ↔ p.policy = .notConvertible

/-- How a parameter breaks the consistency of those before it. A rule counts only if those above it
are kept. -/
inductive Breaks (p : Parameter) (before : List Parameter) : CatalogError → Prop where
  | range {min max : Float} (validity : p.validity = .range min max)
      (unbounded : ¬ (min.isFinite ∧ max.isFinite ∧ min ≤ max)) :
      Breaks p before (.invalidRange p.label min max)
  | feeds (bounded : p.IsBounded) (mismatch : ¬ p.FeedsIfConvertible) :
      Breaks p before (.feedsMismatch p.label)
  | label (bounded : p.IsBounded) (feeds : p.FeedsIfConvertible)
      (taken : ∃ q ∈ before, q.label = p.label) : Breaks p before (.duplicateLabel p.label)

variable {p : Parameter} {before : List Parameter} {e : CatalogError}

theorem fault?_of_unbounded {min max : Float} (validity : p.validity = .range min max)
    (unbounded : ¬ (min.isFinite ∧ max.isFinite ∧ min ≤ max)) :
    p.fault? = some (.invalidRange p.label min max) := by
  rw [fault?, validity]
  simp only [if_neg unbounded]
  rfl

theorem fault?_of_mismatch (bounded : p.IsBounded) (mismatch : ¬ p.FeedsIfConvertible) :
    p.fault? = some (.feedsMismatch p.label) := by
  have hfeeds : p.isConvertible = p.feeds.isEmpty := by
    rw [FeedsIfConvertible, ← isConvertible_eq_false_iff, ← List.isEmpty_iff] at mismatch
    cases hconvertible : p.isConvertible <;> cases hempty : p.feeds.isEmpty <;> simp_all
  rw [fault?, if_pos hfeeds]
  cases hvalidity : p.validity with
  | codes codes => rfl
  | range min max =>
    simp only [if_pos (bounded min max hvalidity)]
    rfl

/-- The rules about a parameter alone come before the one about its label. -/
theorem breaks_iff : p.Breaks before e ↔
    p.fault? = some e ∨
      p.fault? = none ∧ (∃ q ∈ before, q.label = p.label) ∧ e = .duplicateLabel p.label := by
  constructor
  · intro h
    cases h with
    | range validity unbounded => exact Or.inl (fault?_of_unbounded validity unbounded)
    | feeds bounded mismatch => exact Or.inl (fault?_of_mismatch bounded mismatch)
    | label bounded feeds taken =>
      exact Or.inr ⟨p.fault?_eq_none_iff.mpr ⟨bounded, feeds⟩, taken, rfl⟩
  · rintro (hfault | ⟨hnone, taken, rfl⟩)
    · by_cases bounded : p.IsBounded
      · have mismatch : ¬ p.FeedsIfConvertible := by
          intro feeds
          cases hfault.symm.trans (p.fault?_eq_none_iff.mpr ⟨bounded, feeds⟩)
        cases hfault.symm.trans (fault?_of_mismatch bounded mismatch)
        exact .feeds bounded mismatch
      · have hrange := bounded
        simp only [IsBounded, Classical.not_forall] at hrange
        obtain ⟨min, max, validity, unbounded⟩ := hrange
        cases hfault.symm.trans (fault?_of_unbounded validity unbounded)
        exact .range validity unbounded
    · obtain ⟨bounded, feeds⟩ := p.fault?_eq_none_iff.mp hnone
      exact .label bounded feeds taken

theorem forall_not_breaks_iff : (∀ e, ¬ p.Breaks before e) ↔
    p.IsBounded ∧ p.FeedsIfConvertible ∧ ∀ q ∈ before, q.label ≠ p.label := by
  constructor
  · intro h
    cases hfault : p.fault? with
    | some e => exact absurd (breaks_iff.mpr (Or.inl hfault)) (h e)
    | none =>
      obtain ⟨bounded, feeds⟩ := p.fault?_eq_none_iff.mp hfault
      exact ⟨bounded, feeds, fun q hq same ↦ h _ (.label bounded feeds ⟨q, hq, same⟩)⟩
  · rintro ⟨bounded, feeds, free⟩ e h
    cases h with
    | range validity unbounded => exact unbounded (bounded _ _ validity)
    | feeds _ mismatch => exact mismatch feeds
    | label _ _ taken =>
      obtain ⟨q, hq, same⟩ := taken
      exact free q hq same

end Parameter

namespace Catalog

/-- What a list of parameters must be to become a catalog. -/
structure Consistent (parameters : List Parameter) : Prop where
  bounded : ∀ p ∈ parameters, p.IsBounded
  feeds : ∀ p ∈ parameters, p.FeedsIfConvertible
  labels : (parameters.map Parameter.label).Nodup

variable {parameters : List Parameter} {p : Parameter} {e : CatalogError}

theorem consistent_iff : Consistent parameters ↔ audit [] parameters = none := by
  rw [audit_eq_none_iff]
  constructor
  · rintro ⟨bounded, feeds, labels⟩
    refine ⟨fun p hp ↦ p.fault?_eq_none_iff.mpr ⟨bounded p hp, feeds p hp⟩, labels, ?_⟩
    exact fun p _ ↦ List.not_mem_nil
  · rintro ⟨faultless, labels, -⟩
    exact ⟨fun p hp ↦ (p.fault?_eq_none_iff.mp (faultless p hp)).1,
      fun p hp ↦ (p.fault?_eq_none_iff.mp (faultless p hp)).2, labels⟩

theorem consistent_concat_iff :
    Consistent (parameters ++ [p]) ↔ Consistent parameters ∧ ∀ e, ¬ p.Breaks parameters e := by
  rw [Parameter.forall_not_breaks_iff]
  constructor
  · rintro ⟨bounded, feeds, labels⟩
    obtain ⟨bounded, hbounded⟩ := List.forall_mem_append.mp bounded
    obtain ⟨feeds, hfeeds⟩ := List.forall_mem_append.mp feeds
    rw [List.map_append, List.map_singleton, List.nodup_append] at labels
    obtain ⟨labels, -, hfree⟩ := labels
    refine ⟨⟨bounded, feeds, labels⟩, List.forall_mem_singleton.mp hbounded,
      List.forall_mem_singleton.mp hfeeds, fun q hq ↦ ?_⟩
    exact hfree _ (List.mem_map_of_mem hq) _ (List.mem_singleton_self _)
  · rintro ⟨⟨bounded, feeds, labels⟩, hbounded, hfeeds, hfree⟩
    refine ⟨List.forall_mem_append.mpr ⟨bounded, List.forall_mem_singleton.mpr hbounded⟩,
      List.forall_mem_append.mpr ⟨feeds, List.forall_mem_singleton.mpr hfeeds⟩, ?_⟩
    rw [List.map_append, List.map_singleton, List.nodup_append]
    refine ⟨labels, List.nodup_singleton _, fun label hlabel label' hlabel' ↦ ?_⟩
    obtain ⟨q, hq, rfl⟩ := List.mem_map.mp hlabel
    exact List.mem_singleton.mp hlabel' ▸ hfree q hq

/-! ## The audit -/

/-- **The audit of a list and one more parameter** is that of the list, and then that of the
parameter. -/
theorem audit_concat (seen : List String) (parameters : List Parameter) (p : Parameter) :
    audit seen (parameters ++ [p])
      = (audit seen parameters).or
        (audit ((parameters.map Parameter.label).reverse ++ seen) [p]) := by
  induction parameters generalizing seen with
  | nil => rfl
  | cons q rest ih =>
    rw [List.cons_append, audit, audit]
    cases q.fault? with
    | some fault => rfl
    | none =>
      dsimp only
      split
      · rfl
      · rw [ih, List.map_cons, List.reverse_cons, List.append_assoc, List.singleton_append]

/-- The audit of one parameter after others finds the rule that it breaks. -/
theorem audit_singleton_eq_some_iff :
    audit (parameters.map Parameter.label).reverse [p] = some e ↔ p.Breaks parameters e := by
  rw [Parameter.breaks_iff, audit]
  cases p.fault? with
  | some fault => simp
  | none => simp [audit, eq_comm]

theorem audit_concat_eq_some_iff : audit [] (parameters ++ [p]) = some e ↔
    audit [] parameters = some e ∨ Consistent parameters ∧ p.Breaks parameters e := by
  rw [audit_concat, List.append_nil, consistent_iff, ← audit_singleton_eq_some_iff]
  cases audit [] parameters with
  | some fault => simp
  | none => simp

/-- **An audit ends at the first parameter that breaks the consistency of those before it.** -/
theorem audit_eq_some_iff : audit [] parameters = some e ↔
    ∃ before p after, parameters = before ++ p :: after ∧ Consistent before ∧
      p.Breaks before e := by
  induction parameters using List.reverseRecOn with
  | nil =>
    refine iff_of_false (fun h ↦ by cases h) ?_
    rintro ⟨before, p, after, heq, -⟩
    simp at heq
  | append_singleton parameters last ih =>
    rw [audit_concat_eq_some_iff, ih]
    constructor
    · rintro (⟨before, p, after, rfl, consistent, breaks⟩ | ⟨consistent, breaks⟩)
      · exact ⟨before, p, after ++ [last], by simp, consistent, breaks⟩
      · exact ⟨parameters, last, [], rfl, consistent, breaks⟩
    · rintro ⟨before, p, after, heq, consistent, breaks⟩
      -- The parameter is the last one just if nothing comes after it.
      rcases List.eq_nil_or_concat after with rfl | ⟨after, q, rfl⟩
      · obtain ⟨rfl, rfl⟩ := List.append_singleton_inj.mp heq
        exact Or.inr ⟨consistent, breaks⟩
      · rw [List.concat_eq_append, ← List.cons_append, ← List.append_assoc] at heq
        obtain ⟨rfl, rfl⟩ := List.append_singleton_inj.mp heq
        exact Or.inl ⟨before, p, after, rfl, consistent, breaks⟩

/-! ## Building -/

theorem build_eq_error_iff : build parameters = .error e ↔ audit [] parameters = some e := by
  unfold build
  split
  · next h => simp [h]
  · next fault h => simp [h]

theorem exists_build_iff : (∃ c, build parameters = .ok c) ↔ Consistent parameters := by
  rw [consistent_iff]
  constructor
  · rintro ⟨c, hc⟩
    cases haudit : audit [] parameters with
    | none => rfl
    | some e => cases hc.symm.trans (build_eq_error_iff.mpr haudit)
  · intro h
    exact ⟨⟨parameters, h⟩, build_parameters ⟨parameters, h⟩⟩

theorem parameters_of_build {c : Catalog} (h : build parameters = .ok c) :
    c.parameters = parameters := by
  unfold build at h
  split at h
  · cases h
    rfl
  · cases h

variable {c : Catalog} {label : String}

theorem consistent_parameters (c : Catalog) : Consistent c.parameters :=
  consistent_iff.mpr c.consistent

theorem get?_eq_some_iff : c.get? label = some p ↔ p ∈ c.parameters ∧ p.label = label := by
  constructor
  · intro h
    exact ⟨mem_of_get? h, label_of_get? h⟩
  · rintro ⟨hp, rfl⟩
    cases hq : c.get? p.label with
    | none => simpa using List.find?_eq_none.mp hq p hp
    | some q =>
      have hsame : q.label = p.label := label_of_get? hq
      rw [List.inj_on_of_nodup_map c.consistent_parameters.labels (mem_of_get? hq) hp hsame]

theorem get?_eq_none_iff : c.get? label = none ↔ ∀ p ∈ c.parameters, p.label ≠ label := by
  simp [get?]

/-- What there is to say of a catalog from the list that it was built from: every parameter is found
under its label, and a conversion is refused for the label or for the input alone. -/
structure Represents (c : Catalog) (parameters : List Parameter) : Prop where
  size : c.size = parameters.length
  found : ∀ label p, c.get? label = some p ↔ p ∈ parameters ∧ p.label = label
  absent : ∀ label, c.get? label = none ↔ ∀ p ∈ parameters, p.label ≠ label
  unknown : ∀ label tag value label',
    c.convert label tag value = .error (.unknownParameter label') ↔
      label' = label ∧ ∀ p ∈ parameters, p.label ≠ label
  foreign : ∀ label tag value label' tag',
    c.convert label tag value = .error (.notConvertible label' tag') ↔
      label' = label ∧ tag' = tag ∧ ∃ p ∈ parameters, p.label = label ∧ tag ∉ p.feeds
  /-- A parameter that feeds an input never comes to the branch of a policy that refuses all. -/
  convertible : ∀ p ∈ parameters, ∀ tag ∈ p.feeds, p.policy ≠ .notConvertible

theorem represents_parameters (c : Catalog) : c.Represents c.parameters where
  size := rfl
  found label p := get?_eq_some_iff
  absent label := get?_eq_none_iff
  unknown label tag value label' := by
    rw [convert, ← get?_eq_none_iff]
    cases hget : c.get? label with
    | none => simp [eq_comm]
    | some p =>
      rcases p.convert_cases tag value with ⟨x, hx⟩ | ⟨hx, -⟩ | ⟨hx, -⟩
      · simp [hx]
      · simp [hx]
      · simp [hx]
  foreign label tag value label' tag' := by
    rw [convert]
    cases hget : c.get? label with
    | none =>
      refine iff_of_false (by simp) ?_
      rintro ⟨-, -, q, hq, hlabel, -⟩
      exact get?_eq_none_iff.mp hget q hq hlabel
    | some p =>
      -- No other parameter has the label.
      have hsame : (∃ q ∈ c.parameters, q.label = label ∧ tag ∉ q.feeds) ↔ tag ∉ p.feeds := by
        simp only [← and_assoc, ← get?_eq_some_iff, hget, Option.some.injEq, exists_eq_left']
      have hfeed : p.canFeed tag = false ↔ tag ∉ p.feeds := by simp [Parameter.canFeed]
      rw [hsame, ← hfeed, ← label_of_get? hget]
      refine (convert_eq_notConvertible_iff hget).trans ?_
      tauto
  convertible p hp tag htag := by
    intro hpolicy
    rw [(c.consistent_parameters.feeds p hp).mpr hpolicy] at htag
    cases htag

end Catalog

/-! ## Tables

The list and the table are filled side by side. As long as no rule is broken the table holds the
list, so a label is taken in the one just if it is taken in the other. -/

namespace ParameterTable

/-- A table has the parameters of a list, each in the place of its label. -/
structure Holds (t : ParameterTable) (parameters : List Parameter) : Prop where
  size : t.size = parameters.length
  get? : ∀ label, t[label]? = parameters.find? (·.label == label)

variable {t : ParameterTable} {parameters : List Parameter} {p : Parameter} {e : CatalogError}

theorem Holds.mem_iff (h : t.Holds parameters) (label : String) :
    label ∈ t ↔ ∃ q ∈ parameters, q.label = label := by
  rw [← Std.ExtTreeMap.isSome_getElem?_iff_mem, h.get?, List.find?_isSome]
  simp

theorem Holds.contains_eq_false (h : t.Holds parameters)
    (free : ∀ q ∈ parameters, q.label ≠ p.label) : t.contains p.label = false := by
  rw [← Bool.not_eq_true, Std.ExtTreeMap.contains_iff_mem, h.mem_iff]
  exact fun ⟨q, hq, same⟩ ↦ free q hq same

theorem Holds.insert (h : t.Holds parameters) (free : ∀ q ∈ parameters, q.label ≠ p.label) :
    Holds (t.insert p.label p) (parameters ++ [p]) where
  size := by
    rw [Std.ExtTreeMap.size_insert, h.contains_eq_false free, if_neg Bool.false_ne_true, h.size,
      List.length_append, List.length_singleton]
  get? label := by
    rw [Std.ExtTreeMap.getElem?_insert, List.find?_append, h.get?]
    by_cases hlabel : p.label = label
    · subst hlabel
      have hnone : parameters.find? (·.label == p.label) = none := by simpa using free
      simp [hnone]
    · simp [hlabel]

/-- A parameter finds its place in a table unless it breaks the consistency of the parameters that
are there. -/
theorem enter_eq_error_iff (h : t.Holds parameters) :
    t.enter p = .error e ↔ p.Breaks parameters e := by
  rw [Parameter.breaks_iff, enter, ← h.mem_iff, ← Std.ExtTreeMap.contains_iff_mem]
  cases p.fault? with
  | some fault => simp
  | none => cases t.contains p.label <;> simp [eq_comm]

theorem enter_of_not_breaks (h : ∀ e, ¬ p.Breaks parameters e) (holds : t.Holds parameters) :
    t.enter p = .ok (t.insert p.label p) := by
  obtain ⟨bounded, feeds, free⟩ := Parameter.forall_not_breaks_iff.mp h
  have hfault : p.fault? = none := p.fault?_eq_none_iff.mpr ⟨bounded, feeds⟩
  rw [enter, hfault]
  exact if_neg (ne_true_of_eq_false (holds.contains_eq_false free))

theorem exists_fill_of_consistent (h : Catalog.Consistent parameters) :
    ∃ t, fill parameters = .ok t ∧ t.Holds parameters := by
  induction parameters using List.reverseRecOn with
  | nil => exact ⟨∅, rfl, rfl, fun label ↦ rfl⟩
  | append_singleton parameters last ih =>
    obtain ⟨consistent, breaks⟩ := Catalog.consistent_concat_iff.mp h
    obtain ⟨t, hfill, holds⟩ := ih consistent
    refine ⟨t.insert last.label last, ?_, holds.insert ?_⟩
    · rw [fill_concat, hfill]
      exact enter_of_not_breaks breaks holds
    · exact (Parameter.forall_not_breaks_iff.mp breaks).2.2

theorem fill_of_audit (h : Catalog.audit [] parameters = some e) : fill parameters = .error e := by
  induction parameters using List.reverseRecOn with
  | nil => cases h
  | append_singleton parameters last ih =>
    rw [fill_concat]
    rcases Catalog.audit_concat_eq_some_iff.mp h with haudit | ⟨consistent, breaks⟩
    · rw [ih haudit]
      rfl
    · obtain ⟨t, hfill, holds⟩ := exists_fill_of_consistent consistent
      rw [hfill]
      exact (enter_eq_error_iff holds).mpr breaks

/-- A table cannot be filled just if the catalog cannot be built, and for the same reason. -/
theorem fill_eq_error_iff : fill parameters = .error e ↔ Catalog.build parameters = .error e := by
  rw [Catalog.build_eq_error_iff]
  constructor
  · intro hfill
    cases haudit : Catalog.audit [] parameters with
    | none =>
      obtain ⟨t, ht, -⟩ := exists_fill_of_consistent (Catalog.consistent_iff.mpr haudit)
      cases hfill.symm.trans ht
    | some e' =>
      cases hfill.symm.trans (fill_of_audit haudit)
      rfl
  · exact fill_of_audit

end ParameterTable

namespace Catalog

/-- **Exactly the consistent lists become catalogs, and nothing of them is lost.** A list that is
not consistent is refused for the first parameter that breaks the consistency of those before it,
and a catalog represents its list. Filling a table instead comes to the same. -/
theorem build_accepts_consistent (parameters : List Parameter) :
    ((∃ c, build parameters = .ok c) ↔ Consistent parameters) ∧
    (∀ e, build parameters = .error e ↔ ∃ before p after, parameters = before ++ p :: after ∧
      Consistent before ∧ ¬ Consistent (before ++ [p]) ∧ p.Breaks before e) ∧
    (∀ c, build parameters = .ok c → c.Represents parameters) ∧
    (∀ e, ParameterTable.fill parameters = .error e ↔ build parameters = .error e) ∧
    (∀ c, build parameters = .ok c → ∃ t, ParameterTable.fill parameters = .ok t ∧
      t.size = c.size ∧ ∀ label, t[label]? = c.get? label) := by
  refine ⟨exists_build_iff, fun e ↦ ?_, fun c hc ↦ ?_, fun e ↦ ParameterTable.fill_eq_error_iff,
    fun c hc ↦ ?_⟩
  · rw [build_eq_error_iff, audit_eq_some_iff]
    refine exists_congr fun before ↦ exists_congr fun p ↦ exists_congr fun after ↦ ?_
    refine and_congr_right fun _ ↦ and_congr_right fun _ ↦ (and_iff_right_of_imp ?_).symm
    exact fun breaks consistent ↦ (consistent_concat_iff.mp consistent).2 e breaks
  · obtain rfl := parameters_of_build hc
    exact c.represents_parameters
  · obtain rfl := parameters_of_build hc
    obtain ⟨t, hfill, holds⟩ := ParameterTable.exists_fill_of_consistent c.consistent_parameters
    exact ⟨t, hfill, holds.size, holds.get?⟩

/-- A second wind speed with its bounds exchanged is refused for its range and not for its label. -/
theorem build_exchanged_bounds :
    let wind : Parameter :=
      ⟨"Wind speed", .forecasted, .range 0 75, .identity, [.forecast .windSpeed]⟩
    build [wind, { wind with validity := .range 75 0 }]
      = .error (.invalidRange "Wind speed" 75 0) := by
  intro wind
  have unbounded : ¬ ((75 : Float).isFinite ∧ (0 : Float).isFinite ∧ (75 : Float) ≤ 0) := by
    decide +kernel
  have breaks : Parameter.Breaks { wind with validity := .range 75 0 } [wind]
      (.invalidRange "Wind speed" 75 0) := .range rfl unbounded
  exact ((build_accepts_consistent _).2.1 _).mpr ⟨[wind], _, [], rfl,
    consistent_iff.mpr (by decide +kernel),
    fun consistent ↦ (consistent_concat_iff.mp consistent).2 _ breaks, breaks⟩

end Catalog

end RoadWeather
