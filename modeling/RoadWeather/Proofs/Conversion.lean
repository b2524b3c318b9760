import RoadWeather.Catalog

/-!
# Conversions and the audit

A conversion fails in two ways only: the parameter cannot feed the input, or its table has no entry
for the value. The second concerns the value and the first does not, which is what decides between
trying another candidate and giving up.

The audit rules out a third way. A parameter that feeds an input but is not convertible would fail
for every value in the branch of its policy. In a catalog there is none
(`Catalog.canFeed_eq_false`), so whether a parameter feeds an input is the whole question.
-/

namespace RoadWeather

namespace Parameter

variable {p : Parameter} {tag : Tag} {value : Float}

/-! ## How a conversion fails -/

/-- The parameter feeds the input through a table that has no entry for the value. -/
def LacksCode (p : Parameter) (tag : Tag) (value : Float) : Prop :=
  p.canFeed tag = true ∧
    ∃ table, p.policy = .categoricalRemap table ∧ ∀ entry ∈ table, (entry.1 == value) = false

theorem convert_cases (p : Parameter) (tag : Tag) (value : Float) :
    (∃ x, p.convert tag value = .ok x) ∨
    (p.convert tag value = .error (.transformationFailed p.label value) ∧
      p.LacksCode tag value) ∨
    (p.convert tag value = .error (.notConvertible p.label tag) ∧
      (p.canFeed tag = false ∨ p.policy = .notConvertible)) := by
  cases hfeed : p.canFeed tag with
  | false => exact Or.inr (Or.inr ⟨convert_of_not_canFeed hfeed value, Or.inl rfl⟩)
  | true =>
    rw [convert, hfeed]
    cases hpolicy : p.policy with
    | identity => exact Or.inl ⟨_, rfl⟩
    | unitScale factor => exact Or.inl ⟨_, rfl⟩
    | thresholdToIndicator => exact Or.inl ⟨_, rfl⟩
    | notConvertible => exact Or.inr (Or.inr ⟨rfl, Or.inr rfl⟩)
    | categoricalRemap table =>
      cases hfind : table.find? (·.1 == value) with
      | some entry => exact Or.inl ⟨entry.2, by simp [hfind]⟩
      | none =>
        refine Or.inr (Or.inl ⟨by simp [hfind], hfeed, table, hpolicy, fun entry hentry ↦ ?_⟩)
        simpa using List.find?_eq_none.mp hfind entry hentry

theorem convert_of_lacksCode (h : p.LacksCode tag value) :
    p.convert tag value = .error (.transformationFailed p.label value) := by
  obtain ⟨hfeed, table, hpolicy, hnone⟩ := h
  have hfind : table.find? (·.1 == value) = none :=
    List.find?_eq_none.mpr fun entry hentry ↦ by simp [hnone entry hentry]
  simp [convert, hfeed, hpolicy, hfind]

/-! ## The audit -/

theorem isConvertible_eq_false_iff : p.isConvertible = false ↔ p.policy = .notConvertible := by
  rw [isConvertible]
  cases p.policy <;> simp [ConversionPolicy.isConvertible]

/-- A parameter is sound by itself if its range is one and it feeds inputs exactly if it is
convertible. -/
theorem fault?_eq_none_iff (p : Parameter) :
    p.fault? = none ↔
      (∀ min max, p.validity = .range min max → min.isFinite ∧ max.isFinite ∧ min ≤ max) ∧
        (p.feeds = [] ↔ p.policy = .notConvertible) := by
  have hfeeds : (p.isConvertible = p.feeds.isEmpty) ↔
      ¬ (p.feeds = [] ↔ p.policy = .notConvertible) := by
    rw [← isConvertible_eq_false_iff, ← List.isEmpty_iff]
    cases p.isConvertible <;> cases p.feeds.isEmpty <;> simp
  rw [fault?, Option.orElse_eq_orElse, Option.orElse_eq_or, Option.or_eq_none_iff]
  refine and_congr ?_ ?_
  · cases hvalidity : p.validity with
    | codes codes => simp
    | range min max => simp [imp_and, forall_and]
  · simp [hfeeds]

end Parameter

namespace Catalog

theorem audit_eq_none_iff {seen : List String} {parameters : List Parameter} :
    audit seen parameters = none ↔
      (∀ p ∈ parameters, p.fault? = none) ∧ (parameters.map Parameter.label).Nodup ∧
        ∀ p ∈ parameters, p.label ∉ seen := by
  induction parameters generalizing seen with
  | nil => simp [audit]
  | cons p rest ih =>
    rw [audit]
    cases hfault : p.fault? with
    | some fault => simp [hfault]
    | none =>
      by_cases hseen : p.label ∈ seen
      · simp [hseen]
      · simp only [List.contains_eq_mem, hseen, decide_false, Bool.false_eq_true, if_false, ih]
        grind

variable {c : Catalog} {label : String} {p : Parameter}

theorem build_parameters (c : Catalog) : build c.parameters = .ok c := by
  rw [build]
  split
  · rfl
  · next h => rw [c.consistent] at h; cases h

theorem fault?_of_get? (h : c.get? label = some p) : p.fault? = none :=
  (audit_eq_none_iff.mp c.consistent).1 p (mem_of_get? h)

theorem canFeed_eq_false (h : c.get? label = some p) (hpolicy : p.policy = .notConvertible)
    (tag : Tag) : p.canFeed tag = false := by
  have hnil : p.feeds = [] := ((p.fault?_eq_none_iff.mp (fault?_of_get? h)).2).mpr hpolicy
  rw [Parameter.canFeed, hnil]
  rfl

/-- In a catalog, a conversion to an input that the parameter does not feed fails, and no other one
fails for that reason. -/
theorem convert_eq_notConvertible_iff (h : c.get? label = some p) {tag : Tag} {value : Float}
    {label' : String} {tag' : Tag} :
    p.convert tag value = .error (.notConvertible label' tag') ↔
      p.canFeed tag = false ∧ label' = p.label ∧ tag' = tag := by
  constructor
  · intro hconvert
    rcases p.convert_cases tag value with ⟨x, hx⟩ | ⟨hx, -⟩ | ⟨hx, hcause⟩
    · rw [hconvert] at hx
      cases hx
    · rw [hconvert] at hx
      cases hx
    · rw [hconvert] at hx
      cases hx
      exact ⟨hcause.elim id fun hpolicy ↦ canFeed_eq_false h hpolicy tag, rfl, rfl⟩
  · rintro ⟨hfeed, rfl, rfl⟩
    exact Parameter.convert_of_not_canFeed hfeed value

end Catalog

end RoadWeather
