import RoadWeather.Proofs.FiniteInputs
import RoadWeather.Proofs.RoundingOrder

/-!
# The ranges of inputs

A METRo run expects each of its inputs in a range (`Tag.range`), and a plausible value of a standard
parameter becomes an input in the range of the tag. Only the two states of a sensor that no SSI code
corresponds to become none.

## The audit

It is made once for each parameter and tag that it feeds (`Parameter.landsIn`), and it looks at
nothing but the ends of the plausible values. For a scale this is enough because rounding keeps the
order of the products (`Binary64.mul_le_mul_of_le`), so no value between the ends gets past what
they become. For a table it looks at every code that has an entry, of which there are few.

The audit is about doubles and its outcome about numbers. A range is given by whole numbers, and
these are doubles, so a comparison of doubles is one of numbers (`Binary64.between_iff`).

## Codes

A value of a parameter with codes is plausible if it compares as equal to one of them. It need not
be that code: a negative zero is plausible where zero is. So what is said of codes is said up to
comparison, and a range of codes admits what compares as equal to a double that it admits
(`InputRange.admits_of_beq`).
-/

namespace RoadWeather

open Binary64

/-! ## Ranges -/

/-- The numbers that an input may be: those between two whole numbers, or some of these only. -/
inductive InputRange where
  | between (low high : Int)
  | oneOf (codes : List Int)

namespace InputRange

/-- A number is in the range. -/
def Holds : InputRange → ℚ → Prop
  | between low high, y => low ≤ y ∧ y ≤ high
  | oneOf codes, y => ∃ code ∈ codes, y = (code : ℤ)

/-- The whole numbers that a range is given by. -/
def numbers : InputRange → List Int
  | between low high => [low, high]
  | oneOf codes => codes

/-- Whether a double is in the range, by comparisons of doubles. -/
def admits : InputRange → Float → Bool
  | between low high, x => decide (ofInt low ≤ x ∧ x ≤ ofInt high)
  | oneOf codes, x => codes.any fun code ↦ ofInt code == x

/-- Whether the range has no gaps. -/
def isInterval : InputRange → Bool
  | between _ _ => true
  | oneOf _ => false

variable {r : InputRange} {low high x y : Float}

theorem holds_of_admits (hr : ∀ n ∈ r.numbers, n.natAbs < 2 ^ 53) (h : r.admits x = true) :
    x.isFinite = true ∧ r.Holds (exact x) := by
  cases r with
  | between low high =>
    rw [admits, decide_eq_true_iff, between_iff (hr low List.mem_cons_self)
      (hr high (List.mem_cons_of_mem _ List.mem_cons_self))] at h
    exact h
  | oneOf codes =>
    -- A code is between itself and itself.
    obtain ⟨code, hcode, heq⟩ := List.any_eq_true.mp h
    obtain ⟨hx, hlow, hhigh⟩ :=
      (between_iff (hr code hcode) (hr code hcode) x).mp (le_of_beq heq)
    exact ⟨hx, code, hcode, le_antisymm hhigh hlow⟩

theorem admits_of_beq (hinterval : r.isInterval = false) (hx : r.admits x = true)
    (h : (x == y) = true) : r.admits y = true := by
  cases r with
  | between low high => cases hinterval
  | oneOf codes =>
    obtain ⟨code, hcode, heq⟩ := List.any_eq_true.mp hx
    exact List.any_eq_true.mpr ⟨code, hcode, (beq_congr h _).symm.trans heq⟩

theorem admits_of_between (hinterval : r.isInterval = true)
    (hr : ∀ n ∈ r.numbers, n.natAbs < 2 ^ 53) (hlow : r.admits low = true)
    (hhigh : r.admits high = true) (hle : low ≤ x) (hge : x ≤ high) : r.admits x = true := by
  have hlowFinite := (holds_of_admits hr hlow).1
  have hhighFinite := (holds_of_admits hr hhigh).1
  have hx := isFinite_of_le_of_le hlowFinite hhighFinite hle hge
  cases r with
  | oneOf codes => cases hinterval
  | between least greatest =>
    have hleast := isFinite_ofInt (hr least List.mem_cons_self)
    have hgreatest := isFinite_ofInt (hr greatest (List.mem_cons_of_mem _ List.mem_cons_self))
    exact decide_eq_true
      ⟨le_trans_of_isFinite hleast hlowFinite hx (of_decide_eq_true hlow).1 hle,
        le_trans_of_isFinite hx hhighFinite hgreatest hge (of_decide_eq_true hhigh).2⟩

end InputRange

/-- The range of an input. -/
def Tag.range : Tag → InputRange
  | .observation .airTemperature => .between (-60) 60
  | .observation .dewPoint => .between (-60) 60
  | .observation .precipitationPresence => .oneOf [0, 1]
  | .observation .windSpeed => .between 0 270
  | .observation .roadCondition => .oneOf [33, 34, 35, 36, 37, 38, 39, 40, 41, 42, 43]
  | .observation .surfaceTemperature => .between (-60) 80
  | .observation .subSurfaceTemperature => .between (-60) 60
  | .forecast .airTemperature => .between (-90) 60
  | .forecast .dewPoint => .between (-90) 60
  | .forecast .rainAccumulation => .between 0 500
  | .forecast .snowAccumulation => .between 0 500
  | .forecast .windSpeed => .between 0 270
  | .forecast .pressure => .between 300 1100
  | .forecast .cloudCover => .between 0 8
  | .forecast .solarFlux => .between 0 1500
  | .forecast .infraredFlux => .between 0 1000
  | .forecast .anthropogenicFlux => .between 0 1000

theorem Tag.natAbs_lt_of_mem_range (tag : Tag) : ∀ n ∈ tag.range.numbers, n.natAbs < 2 ^ 53 := by
  cases tag with
  | observation tag => cases tag <;> decide
  | forecast tag => cases tag <;> decide

/-! ## The audit -/

namespace Parameter

variable {p : Parameter} {r : InputRange} {tag : Tag} {value x : Float}

def hasCodes (p : Parameter) : Bool :=
  match p.validity with
  | .codes _ => true
  | .range _ _ => false

/-- Whether plausible values become inputs in a range, from the ends of the plausible values. -/
def landsIn (r : InputRange) (p : Parameter) : Bool :=
  match p.policy with
  | .identity => p.ends.all r.admits && (p.hasCodes || r.isInterval)
  | .unitScale factor =>
    r.isInterval && factor.isFinite && decide (0 ≤ factor) &&
      p.ends.all fun x ↦ x.isFinite && decide (0 ≤ x) && r.admits (x * factor)
  | .thresholdToIndicator => r.admits 1 && r.admits 0
  | .categoricalRemap table => table.all fun entry ↦ r.admits entry.2
  | .notConvertible => true

/-- A plausible value of a parameter with codes is one of them. -/
theorem exists_beq_of_check (hcodes : p.hasCodes = true) (h : p.check value = .ok ()) :
    ∃ code ∈ p.ends, (code == value) = true := by
  rw [check] at h
  rw [ends]
  rw [hasCodes] at hcodes
  cases hvalidity : p.validity with
  | range min max =>
    rw [hvalidity] at hcodes
    cases hcodes
  | codes codes =>
    rw [hvalidity] at h
    dsimp only at h
    split at h
    · next hany => exact List.any_eq_true.mp hany
    · cases h

theorem admits_of_check (hr : ∀ n ∈ r.numbers, n.natAbs < 2 ^ 53)
    (hshape : (p.hasCodes || r.isInterval) = true) (hends : ∀ x ∈ p.ends, r.admits x = true)
    (hcheck : p.check value = .ok ()) : r.admits value = true := by
  cases hinterval : r.isInterval with
  | true =>
    obtain ⟨low, hlow, high, hhigh, hle, hge⟩ := exists_between_of_check hcheck
    exact InputRange.admits_of_between hinterval hr (hends low hlow) (hends high hhigh) hle hge
  | false =>
    rw [hinterval, Bool.or_false] at hshape
    obtain ⟨code, hcode, heq⟩ := exists_beq_of_check hshape hcheck
    exact InputRange.admits_of_beq hinterval (hends code hcode) heq

/-- The product with a factor keeps the order, so it stays between those of the ends. -/
theorem admits_mul_of_check {factor : Float} (hr : ∀ n ∈ r.numbers, n.natAbs < 2 ^ 53)
    (hinterval : r.isInterval = true) (hfactor : factor.isFinite = true) (hfactor0 : 0 ≤ factor)
    (hends : ∀ x ∈ p.ends, (x.isFinite = true ∧ 0 ≤ x) ∧ r.admits (x * factor) = true)
    (hcheck : p.check value = .ok ()) : r.admits (value * factor) = true := by
  obtain ⟨low, hlow, high, hhigh, hle, hge⟩ := exists_between_of_check hcheck
  obtain ⟨⟨hlowFinite, hlow0⟩, hlowProduct⟩ := hends low hlow
  obtain ⟨⟨hhighFinite, hhigh0⟩, hhighProduct⟩ := hends high hhigh
  have hvalue := isFinite_of_le_of_le hlowFinite hhighFinite hle hge
  have hvalue0 : 0 ≤ value := le_trans_of_isFinite (by rfl) hlowFinite hvalue hlow0 hle
  have hfiniteHigh := (InputRange.holds_of_admits hr hhighProduct).1
  have hfinite : (value * factor).isFinite = true :=
    isFinite_mul_of_between hlowFinite hhighFinite hfactor
      (InputRange.holds_of_admits hr hlowProduct).1 hfiniteHigh hle hge
  exact InputRange.admits_of_between hinterval hr hlowProduct hhighProduct
    (mul_le_mul_of_le hlowFinite hvalue hfactor hfinite hlow0 hfactor0 hle)
    (mul_le_mul_of_le hvalue hhighFinite hfactor hfiniteHigh hvalue0 hfactor0 hge)

/-- **What a plausible value becomes is in the range**, if the audit says so. -/
theorem admits_of_convert (hr : ∀ n ∈ r.numbers, n.natAbs < 2 ^ 53)
    (hlands : p.landsIn r = true) (hcheck : p.check value = .ok ())
    (hconvert : p.convert tag value = .ok x) : r.admits x = true := by
  have hfeed := canFeed_of_convert hconvert
  rw [convert, hfeed] at hconvert
  rw [landsIn] at hlands
  cases hpolicy : p.policy with
  | identity =>
    rw [hpolicy] at hconvert hlands
    cases hconvert
    obtain ⟨hends, hshape⟩ := Bool.and_eq_true_iff.mp hlands
    exact admits_of_check hr hshape (List.all_eq_true.mp hends) hcheck
  | unitScale factor =>
    rw [hpolicy] at hconvert hlands
    cases hconvert
    simp only [Bool.and_eq_true, decide_eq_true_eq, List.all_eq_true] at hlands
    obtain ⟨⟨⟨hinterval, hfactor⟩, hfactor0⟩, hends⟩ := hlands
    exact admits_mul_of_check hr hinterval hfactor hfactor0 hends hcheck
  | thresholdToIndicator =>
    rw [hpolicy] at hconvert hlands
    cases hconvert
    obtain ⟨hone, hzero⟩ := Bool.and_eq_true_iff.mp hlands
    split
    · exact hone
    · exact hzero
  | categoricalRemap table =>
    rw [hpolicy] at hconvert hlands
    cases hfind : table.find? (·.1 == value) with
    | none => simp [hfind] at hconvert
    | some entry =>
      have hx : entry.2 = x := by simpa [hfind] using hconvert
      exact hx ▸ List.all_eq_true.mp hlands entry (List.mem_of_find?_eq_some hfind)
  | notConvertible =>
    rw [hpolicy] at hconvert
    cases hconvert

/-! ## Codes without an entry

The table of a parameter need not have an entry for each of its codes. A plausible value whose code
has none is no input, and it is told apart from one that does not feed the input at all. -/

/-- The plausible codes that the table of a parameter has no entry for. -/
def unmappedCodes (p : Parameter) : List Float :=
  match p.policy with
  | .categoricalRemap table => p.ends.filter fun code ↦ table.all fun entry ↦ !(entry.1 == code)
  | .identity | .unitScale _ | .thresholdToIndicator | .notConvertible => []

def looksUpCodes (p : Parameter) : Bool :=
  match p.policy with
  | .categoricalRemap _ => p.hasCodes
  | .identity | .unitScale _ | .thresholdToIndicator | .notConvertible => true

theorem lacksCode_iff (hlooks : p.looksUpCodes = true) (hfeed : p.canFeed tag = true)
    (hcheck : p.check value = .ok ()) :
    p.LacksCode tag value ↔ ∃ code ∈ p.unmappedCodes, (code == value) = true := by
  rw [LacksCode, and_iff_right hfeed, unmappedCodes]
  rw [looksUpCodes] at hlooks
  cases hpolicy : p.policy with
  | categoricalRemap table =>
    rw [hpolicy] at hlooks
    simp only [ConversionPolicy.categoricalRemap.injEq, exists_eq_left', List.mem_filter,
      List.all_eq_true, Bool.not_eq_true']
    constructor
    · intro hnone
      obtain ⟨code, hcode, heq⟩ := exists_beq_of_check hlooks hcheck
      exact ⟨code, ⟨hcode, fun entry hentry ↦ (beq_congr heq _).trans (hnone entry hentry)⟩, heq⟩
    · rintro ⟨code, ⟨-, hnone⟩, heq⟩ entry hentry
      exact (beq_congr heq _).symm.trans (hnone entry hentry)
  | identity => simp
  | unitScale factor => simp
  | thresholdToIndicator => simp
  | notConvertible => simp

end Parameter

/-! ## The standard catalog -/

namespace Catalog

/-- The parameter that is converted by looking up codes. -/
def sensorLabel : String := "Road condition code (sensor)"

/-- What a plausible value of a standard parameter becomes is in the range of every tag that the
parameter feeds. -/
theorem landsIn_standard :
    ∀ p ∈ standard.parameters, ∀ tag ∈ p.feeds, p.landsIn tag.range = true := by
  decide +kernel

theorem looksUpCodes_standard : ∀ p ∈ standard.parameters, p.looksUpCodes = true := by
  decide +kernel

/-- Only the error and the unknown state of a sensor have no entry. -/
theorem unmappedCodes_standard :
    ∀ p ∈ standard.parameters, p.unmappedCodes = if p.label = sensorLabel then [0, 99] else [] := by
  decide +kernel

variable {tag : Tag} {x value : Float} {label : String} {p : Parameter}

theorem Gives.inRange (h : standard.Gives tag x) :
    x.isFinite = true ∧ tag.range.Holds (exact x) := by
  obtain ⟨p, hp, value, hcheck, hconvert⟩ := h
  have hfeed : tag ∈ p.feeds := List.contains_iff_mem.mp (Parameter.canFeed_of_convert hconvert)
  exact InputRange.holds_of_admits tag.natAbs_lt_of_mem_range
    (Parameter.admits_of_convert tag.natAbs_lt_of_mem_range (landsIn_standard p hp tag hfeed) hcheck
      hconvert)

theorem lacksCode_standard_iff (hp : p ∈ standard.parameters) (hfeed : p.canFeed tag = true)
    (hcheck : p.check value = .ok ()) :
    p.LacksCode tag value ↔
      p.label = sensorLabel ∧ ((value == 0) = true ∨ (value == 99) = true) := by
  rw [Parameter.lacksCode_iff (looksUpCodes_standard p hp) hfeed hcheck,
    unmappedCodes_standard p hp]
  by_cases hlabel : p.label = sensorLabel
  · simp [hlabel, beq_comm value]
  · simp [hlabel]

end Catalog

/-- **Plausible values become inputs in range.** For a tag that a standard parameter feeds, every
plausible value is converted to a finite number in the range of the tag, unless it is the code `0`
or `99` of the road condition sensor, and the conversion of these two fails. So every value that an
input is resolved to is in the range of the input, whatever the descriptions, the store and the
timeout are, and also if the store changes between the turns of a search. -/
theorem Catalog.inputs_in_range :
    (∀ label p tag value, standard.get? label = some p → p.canFeed tag = true →
      standard.check label value = .ok () →
      (standard.convert label tag value = .error (.transformationFailed label value) ∧
        label = sensorLabel ∧ ((value == 0) = true ∨ (value == 99) = true)) ∨
      (∃ x, standard.convert label tag value = .ok x ∧ x.isFinite = true ∧
        tag.range.Holds (exact x) ∧
        ¬ (label = sensorLabel ∧ ((value == 0) = true ∨ (value == 99) = true)))) ∧
    ∀ r : Resolver, r.catalog = standard → ∀ tag v,
      ((∃ d, (r.resolve d tag).result = .ok v) ∨
        (∃ location modelId, (r.resolveAt location modelId tag).result = .ok v) ∨
        ∃ sources stores,
          ((Search.start tag sources).turns r tag stores).1.result? = some (.ok v)) →
      v.value.isFinite = true ∧ tag.range.Holds (exact v.value) := by
  refine ⟨fun label p tag value hknown hfeed hcheck ↦ ?_, fun r hr tag v hv ↦ ?_⟩
  · have hp := mem_of_get? hknown
    obtain rfl := label_of_get? hknown
    rw [check, hknown] at hcheck
    rw [convert, hknown]
    dsimp only at hcheck ⊢
    have hlacks := lacksCode_standard_iff hp hfeed hcheck
    rcases p.convert_cases tag value with ⟨x, hx⟩ | ⟨hfails, hcode⟩ | ⟨-, hmisfit⟩
    · have hrange := Gives.inRange ⟨p, hp, value, hcheck, hx⟩
      refine Or.inr ⟨x, hx, hrange.1, hrange.2, fun hcode ↦ ?_⟩
      rw [Parameter.convert_of_lacksCode (hlacks.mpr hcode)] at hx
      cases hx
    · exact Or.inl ⟨hfails, hlacks.mp hcode⟩
    · rcases hmisfit with hmisfit | hpolicy
      · rw [hmisfit] at hfeed
        cases hfeed
      · rw [canFeed_eq_false hknown hpolicy] at hfeed
        cases hfeed
  · have hgives : standard.Gives tag v.value := by
      rw [← hr]
      rcases hv with ⟨d, hd⟩ | ⟨location, modelId, hat⟩ | ⟨sources, stores, hturns⟩
      · exact Resolver.gives_of_resolve hd
      · rw [Resolver.resolveAt] at hat
        cases hdescription : r.description location modelId with
        | error e =>
          rw [hdescription] at hat
          cases hat
        | ok d =>
          rw [hdescription] at hat
          exact Resolver.gives_of_resolve hat
      · exact (Search.sound_start r.catalog tag sources).turns stores v hturns
    exact hgives.inRange

/-- The greatest wind and the deepest snow stay within their ranges, although neither of the two
scales is a double. A sensor that is out of order has no code, whatever the sign of its zero. And a
station whose road is moist, found by its place, has the observation of a wet road. -/
theorem Catalog.extremes_in_range :
    (∃ x, standard.convert "Wind speed in [m/s] @ 10m above ground" (.observation .windSpeed) 75
        = .ok x ∧ x.isFinite = true ∧ (Tag.observation .windSpeed).range.Holds (exact x)) ∧
      (∃ x, standard.convert "Forecasted snow accumulation in [mm] over 1h"
        (.forecast .snowAccumulation) 5000 = .ok x ∧ x.isFinite = true ∧
          (Tag.forecast .snowAccumulation).range.Holds (exact x)) ∧
      standard.convert sensorLabel (.observation .roadCondition) (-0)
        = .error (.transformationFailed sensorLabel (-0)) ∧
      ∃ v, (Station.resolver.resolveAt Station.place "metro" (.observation .roadCondition)).result
          = .ok v ∧ v.value = 34 ∧ v.value.isFinite = true ∧
        (Tag.observation .roadCondition).range.Holds (exact v.value) := by
  obtain ⟨hconverts, hresolves⟩ := inputs_in_range
  refine ⟨?_, ?_, ?_, ?_⟩
  · rcases hconverts "Wind speed in [m/s] @ 10m above ground" _ (.observation .windSpeed) 75 rfl
      (by decide) (by rfl) with ⟨-, hlabel, -⟩ | ⟨x, hx, hfinite, hrange, -⟩
    · exact absurd hlabel (by decide)
    · exact ⟨x, hx, hfinite, hrange⟩
  · rcases hconverts "Forecasted snow accumulation in [mm] over 1h" _
      (.forecast .snowAccumulation) 5000 rfl (by decide) (by rfl) with
      ⟨-, hlabel, -⟩ | ⟨x, hx, hfinite, hrange, -⟩
    · exact absurd hlabel (by decide)
    · exact ⟨x, hx, hfinite, hrange⟩
  · rcases hconverts sensorLabel _ (.observation .roadCondition) (-0) rfl (by decide) (by rfl) with
      ⟨hfails, -⟩ | ⟨x, -, -, -, hcode⟩
    · exact hfails
    · exact absurd ⟨rfl, Or.inl (by decide +kernel)⟩ hcode
  · have hresult : (Station.resolver.resolveAt Station.place "metro"
        (.observation .roadCondition)).result
        = .ok ⟨34, Station.noon, Station.sensor sensorLabel "road", 0⟩ := by
      rfl
    exact ⟨_, hresult, rfl, hresolves Station.resolver rfl _ _ (Or.inr (Or.inl ⟨_, _, hresult⟩))⟩

end RoadWeather
