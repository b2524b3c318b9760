import RoadWeather.Proofs.Assembly
import RoadWeather.Proofs.FirstUsable
import RoadWeather.Proofs.Products

/-!
# The numbers handed to a run

A value becomes an input only after it was found plausible, and what the ends of the plausible
values are converted to decides about all of them (`Parameter.keepsFinite`). The standard catalog is
audited for this once. Every observation of a run is then finite, and every forecast before its
correction, whatever the store answers.

## The invariant

A search that has ended with a value has ended with one that the catalog gives (`Search.Sound`). It
holds before the first turn, every turn keeps it, and it makes no assumption about the store. So it
holds of searches that take turns with a changing store as well, and what is collected from them
consists of such values (`areNumbers_collect`).

## Corrections

The correction of a flux is a product with a factor of the description, which is checked for being a
finite number that is not negative, and for nothing else (`Description.factor_spec`). So a corrected
flux is not negative and never a NaN, and it is finite as long as the exact product is below the
overflow. Beyond that it is infinite.

The fluxes of the standard catalog are at most 1500 watts per square metre. The greatest one has a
finite product with `1e305`, and then so have all fluxes with all factors up to that
(`Binary64.isFinite_mul_of_between`). The bound is one for factors that somebody might set, and it
is a long way above any that is meant.
-/

namespace RoadWeather

open Binary64

/-! ## Plausible values

A range without gaps is decided by its two ends, and a list of codes by all of its members. Either
way there are few doubles to look at. -/

namespace Parameter

variable {p : Parameter} {tag : Tag} {value x : Float}

/-- The bounds of the plausible values, or the codes. -/
def ends (p : Parameter) : List Float :=
  match p.validity with
  | .range min max => [min, max]
  | .codes codes => codes

/-- Every plausible value is between two ends, which are the same for a code. -/
theorem exists_between_of_check (h : p.check value = .ok ()) :
    ∃ low ∈ p.ends, ∃ high ∈ p.ends, low ≤ value ∧ value ≤ high := by
  rw [check] at h
  rw [ends]
  cases hvalidity : p.validity with
  | range min max =>
    rw [hvalidity] at h
    dsimp only at h
    split at h
    · next hbetween =>
      exact ⟨min, List.mem_cons_self, max, List.mem_cons_of_mem _ List.mem_cons_self, hbetween⟩
    · cases h
  | codes codes =>
    rw [hvalidity] at h
    dsimp only at h
    split at h
    · next hany =>
      obtain ⟨code, hcode, heq⟩ := List.any_eq_true.mp hany
      exact ⟨code, hcode, code, hcode, le_of_beq heq⟩
    · cases h

/-- The ends of the plausible values and what the policy makes of them are finite. -/
def keepsFinite (p : Parameter) : Bool :=
  p.ends.all Float.isFinite &&
    match p.policy with
    | .unitScale factor => factor.isFinite && p.ends.all fun x ↦ (x * factor).isFinite
    | .categoricalRemap table => table.all fun entry ↦ entry.2.isFinite
    | .identity | .thresholdToIndicator | .notConvertible => true

/-- The plausible values lie between two bounds, and become inputs as they are. -/
def keepsWithin (low high : Float) (p : Parameter) : Bool :=
  p.ends.all (fun x ↦ decide (low ≤ x ∧ x ≤ high)) &&
    match p.policy with
    | .identity => true
    | .unitScale _ | .thresholdToIndicator | .categoricalRemap _ | .notConvertible => false

theorem isFinite_of_check (hp : p.keepsFinite = true) (h : p.check value = .ok ()) :
    value.isFinite = true := by
  obtain ⟨hends, -⟩ := Bool.and_eq_true_iff.mp hp
  obtain ⟨low, hlow, high, hhigh, hle, hge⟩ := exists_between_of_check h
  exact isFinite_of_le_of_le (List.all_eq_true.mp hends low hlow)
    (List.all_eq_true.mp hends high hhigh) hle hge

theorem canFeed_of_convert (h : p.convert tag value = .ok x) : p.canFeed tag = true := by
  cases hfeed : p.canFeed tag with
  | true => rfl
  | false =>
    rw [convert_of_not_canFeed hfeed] at h
    cases h

/-- **What a plausible value becomes is finite**, if that is so at the ends. -/
theorem isFinite_of_convert (hp : p.keepsFinite = true) (hcheck : p.check value = .ok ())
    (hconvert : p.convert tag value = .ok x) : x.isFinite = true := by
  have hvalue := isFinite_of_check hp hcheck
  have hfeed := canFeed_of_convert hconvert
  obtain ⟨hends, hpolicy⟩ := Bool.and_eq_true_iff.mp hp
  rw [convert, hfeed] at hconvert
  cases h : p.policy with
  | identity =>
    rw [h] at hconvert
    cases hconvert
    exact hvalue
  | thresholdToIndicator =>
    rw [h] at hconvert
    cases hconvert
    split <;> decide
  | notConvertible =>
    rw [h] at hconvert
    cases hconvert
  | unitScale factor =>
    rw [h] at hconvert hpolicy
    cases hconvert
    obtain ⟨hfactor, hproducts⟩ := Bool.and_eq_true_iff.mp hpolicy
    obtain ⟨low, hlow, high, hhigh, hle, hge⟩ := exists_between_of_check hcheck
    rw [List.all_eq_true] at hends hproducts
    exact isFinite_mul_of_between (hends low hlow) (hends high hhigh) hfactor (hproducts low hlow)
      (hproducts high hhigh) hle hge
  | categoricalRemap table =>
    rw [h] at hconvert hpolicy
    cases hfind : table.find? (·.1 == value) with
    | none => simp [hfind] at hconvert
    | some entry =>
      have hx : entry.2 = x := by simpa [hfind] using hconvert
      exact hx ▸ List.all_eq_true.mp hpolicy entry (List.mem_of_find?_eq_some hfind)

/-- What a plausible value becomes lies between two bounds, if it is kept as it is and the ends lie
between them. -/
theorem between_of_convert {low high : Float} (hlow : low.isFinite = true)
    (hhigh : high.isFinite = true) (hp : p.keepsFinite = true)
    (hwithin : p.keepsWithin low high = true) (hcheck : p.check value = .ok ())
    (hconvert : p.convert tag value = .ok x) : low ≤ x ∧ x ≤ high := by
  have hvalue := isFinite_of_check hp hcheck
  have hfeed := canFeed_of_convert hconvert
  obtain ⟨hends, -⟩ := Bool.and_eq_true_iff.mp hp
  obtain ⟨hbounds, hpolicy⟩ := Bool.and_eq_true_iff.mp hwithin
  have hx : value = x := by
    rw [convert, hfeed] at hconvert
    cases h : p.policy with
    | identity =>
      rw [h] at hconvert
      cases hconvert
      rfl
    | _ =>
      rw [h] at hpolicy
      cases hpolicy
  subst hx
  obtain ⟨least, hleast, greatest, hgreatest, hle, hge⟩ := exists_between_of_check hcheck
  rw [List.all_eq_true] at hends hbounds
  exact ⟨le_trans_of_isFinite hlow (hends least hleast) hvalue
      (of_decide_eq_true (hbounds least hleast)).1 hle,
    le_trans_of_isFinite hvalue (hends greatest hgreatest) hhigh hge
      (of_decide_eq_true (hbounds greatest hgreatest)).2⟩

end Parameter

/-! ## The standard catalog -/

/-- A catalog can make an input of this value: it is what a plausible value of a parameter
becomes. -/
def Catalog.Gives (c : Catalog) (tag : Tag) (x : Float) : Prop :=
  ∃ p ∈ c.parameters, ∃ value, p.check value = .ok () ∧ p.convert tag value = .ok x

theorem Catalog.keepsFinite_standard :
    ∀ p ∈ standard.parameters, p.keepsFinite = true := by
  decide +kernel

theorem Catalog.keepsWithin_standard :
    ∀ p ∈ standard.parameters, ∀ tag ∈ [ForecastTag.solarFlux, .infraredFlux, .anthropogenicFlux],
      p.canFeed (.forecast tag) = true → p.keepsWithin 0 1500 = true := by
  decide +kernel

theorem Catalog.Gives.isFinite {tag : Tag} {x : Float} (h : standard.Gives tag x) :
    x.isFinite = true := by
  obtain ⟨p, hp, value, hcheck, hconvert⟩ := h
  exact Parameter.isFinite_of_convert (keepsFinite_standard p hp) hcheck hconvert

theorem FluxCorrections.mem_fluxes {c : FluxCorrections} {tag : ForecastTag} {factor : Float}
    (h : c.factor? tag = some factor) :
    tag ∈ [ForecastTag.solarFlux, .infraredFlux, .anthropogenicFlux] := by
  cases tag <;> first | decide | cases h

theorem Catalog.Gives.between {c : FluxCorrections} {tag : ForecastTag} {x factor : Float}
    (h : standard.Gives (.forecast tag) x) (hfactor : c.factor? tag = some factor) :
    0 ≤ x ∧ x ≤ 1500 := by
  obtain ⟨p, hp, value, hcheck, hconvert⟩ := h
  exact Parameter.between_of_convert (by rfl) (by rfl) (keepsFinite_standard p hp)
    (keepsWithin_standard p hp tag (FluxCorrections.mem_fluxes hfactor)
      (Parameter.canFeed_of_convert hconvert)) hcheck hconvert

/-! ## Searches -/

/-- A search that has ended with a value has ended with one that the catalog gives. -/
def Search.Sound (c : Catalog) (tag : Tag) (search : Search) : Prop :=
  ∀ v, search.result? = some (.ok v) → c.Gives tag v.value

namespace Search

variable {r : Resolver} {tag : Tag} {search : Search}

theorem sound_start (c : Catalog) (tag : Tag) (sources : Option (List DataSource)) :
    (start tag sources).Sound c tag := by
  intro v hv
  cases sources <;> cases hv

theorem Sound.turn (h : search.Sound r.catalog tag) :
    (search.turn r tag).1.Sound r.catalog tag := by
  cases search with
  | ended result => exact h
  | trying skipped rest =>
    intro v hv
    cases rest with
    | nil => cases hv
    | cons s rest =>
      rw [Search.turn] at hv
      cases houtcome : r.outcome tag s with
      | misconfigured e =>
        rw [houtcome] at hv
        cases hv
      | skipped failure =>
        rw [houtcome] at hv
        cases hv
      | usable timed value =>
        rw [houtcome] at hv
        cases hv
        obtain ⟨p, hoffers, hconvert⟩ :=
          (Resolver.outcome_eq_iff (o := .usable timed value)).mp houtcome
        exact ⟨p, Catalog.mem_of_get? hoffers.known, timed.value, hoffers.accepted, hconvert⟩

theorem Sound.turns (h : search.Sound r.catalog tag) (stores : List ValueStore) :
    (search.turns r tag stores).1.Sound r.catalog tag := by
  induction stores generalizing search with
  | nil => exact h
  | cons values later ih => exact ih (turn (r := { r with values }) h)

end Search

theorem Resolver.gives_of_resolve {r : Resolver} {d : Description} {tag : Tag} {v : ResolvedValue}
    (h : (r.resolve d tag).result = .ok v) : r.catalog.Gives tag v.value :=
  (Search.sound_start r.catalog tag (d.sources? tag)).turns
    (List.replicate (Search.start tag (d.sources? tag)).turnsLeft r.values) v
    ((Search.result?_turns_replicate r d tag).trans (congrArg some h))

theorem Searches.gives_of_settled? {τ : Type} {r : Resolver} {d : Description} {turns : List Turn}
    {input : τ → Tag} {tags : List τ} {results : List (τ × Resolution.Result)}
    (h : ((start d (tags.map input)).run r turns).settled? input tags = some results) {tag : τ}
    {v : ResolvedValue} (hv : (tag, .ok v) ∈ results) : r.catalog.Gives (input tag) v.value := by
  obtain ⟨htags, hentries⟩ := of_settled?_eq_some h
  have hmem : input tag ∈ tags.map input := List.mem_map_of_mem (htags ▸ List.mem_map_of_mem hv)
  have hresult := hentries _ hv
  rw [(result?_run_start r turns hmem).1] at hresult
  exact (Search.sound_start r.catalog (input tag) _).turns _ v hresult

/-! ## Corrections -/

theorem FluxCorrections.mem_named {c : FluxCorrections} {tag : ForecastTag} {factor : Float}
    (h : c.factor? tag = some factor) : ∃ name, (name, factor) ∈ c.named := by
  cases tag with
  | solarFlux =>
    cases h
    exact ⟨"solar", by simp [named]⟩
  | infraredFlux =>
    cases h
    exact ⟨"infrared", by simp [named]⟩
  | anthropogenicFlux =>
    cases h
    exact ⟨"anthropogenic", by simp [named]⟩
  | _ => cases h

theorem Description.factor_spec (d : Description) {tag : ForecastTag} {factor : Float}
    (h : d.config.corrections.factor? tag = some factor) :
    factor.isFinite = true ∧ 0 ≤ factor := by
  have hvalid := d.valid
  simp only [DescriptionConfig.fault?, Option.orElse_eq_orElse, Option.orElse_eq_or,
    Option.or_eq_none_iff, List.findSome?_eq_none_iff] at hvalid
  obtain ⟨-, -, -, -, -, hfactors, -⟩ := hvalid
  obtain ⟨name, hname⟩ := FluxCorrections.mem_named h
  have hfactor := hfactors (name, factor) hname
  dsimp only [DescriptionConfig.factorFault?] at hfactor
  split at hfactor
  · next hgood =>
    obtain ⟨hfinite, hsign⟩ := Bool.and_eq_true_iff.mp hgood
    exact ⟨hfinite, zero_le_of_not_lt hfinite (by simpa using hsign)⟩
  · cases hfactor

theorem isFinite_mul_of_le {x factor : Float} (hx : x.isFinite = true)
    (hfactor : factor.isFinite = true) (hx0 : 0 ≤ x) (hfactor0 : 0 ≤ factor) (hxle : x ≤ 1500)
    (hfactorle : factor ≤ 1e305) : (x * factor).isFinite = true := by
  have hlimit : Float.isFinite 1e305 = true := by decide +kernel
  have hgreatest : |exact 1500 * exact 1e305| < overflow :=
    (isFinite_mul_iff (by rfl) hlimit).mp (by decide +kernel)
  rw [isFinite_mul_iff hx hfactor]
  rw [zero_le_iff hx] at hx0
  rw [zero_le_iff hfactor] at hfactor0
  have hxle' := (le_iff hx (by rfl)).mp hxle
  have hfactorle' := (le_iff hfactor hlimit).mp hfactorle
  refine lt_of_le_of_lt ?_ hgreatest
  rw [abs_of_nonneg (mul_nonneg hx0 hfactor0),
    abs_of_nonneg (mul_nonneg (hx0.trans hxle') (hfactor0.trans hfactorle'))]
  exact mul_le_mul hxle' hfactorle' hfactor0 (hx0.trans hxle')

/-! ## Inputs -/

/-- What can be said of the numbers among the inputs of a run. -/
structure RunInputs.AreNumbers (d : Description) (i : RunInputs) : Prop where
  observation : ∀ tag v, (tag, v) ∈ i.observations → v.value.isFinite = true
  /-- A forecast that is no flux. -/
  uncorrected : ∀ tag w, (tag, w) ∈ i.forecasts → d.config.corrections.factor? tag = none →
    w.value.isFinite = true
  /-- A flux is a product with the factor of the description, which is finite and not negative. -/
  corrected : ∀ tag w factor, (tag, w) ∈ i.forecasts →
    d.config.corrections.factor? tag = some factor →
      factor.isFinite = true ∧ 0 ≤ factor ∧ ∃ x,
        Catalog.standard.Gives (.forecast tag) x ∧ x.isFinite = true ∧ 0 ≤ x ∧
        w.value = x * factor ∧ 0 ≤ w.value ∧
        (w.value.isFinite = true ↔ |exact x * exact factor| < overflow)
  /-- With factors up to this size all forecasts are finite. -/
  bounded : (∀ tag factor, d.config.corrections.factor? tag = some factor → factor ≤ 1e305) →
    ∀ tag w, (tag, w) ∈ i.forecasts → w.value.isFinite = true

namespace RunInputs

variable {d : Description} {observations : List (ObservationTag × Resolution.Result)}
  {forecasts : List (ForecastTag × Resolution.Result)}

/-- Of values that the standard catalog gives, inputs are collected that are numbers. -/
theorem areNumbers_collect
    (hobservations : ∀ tag v, (tag, .ok v) ∈ observations →
      Catalog.standard.Gives (.observation tag) v.value)
    (hforecasts : ∀ tag v, (tag, .ok v) ∈ forecasts →
      Catalog.standard.Gives (.forecast tag) v.value) :
    (collect d observations forecasts).AreNumbers d := by
  -- Every forecast comes from a value that the catalog gives.
  have hgiven : ∀ tag w, (tag, w) ∈ (collect d observations forecasts).forecasts →
      ∃ x, Catalog.standard.Gives (.forecast tag) x ∧
        w.value = d.config.corrections.apply tag x := by
    intro tag w hw
    obtain ⟨⟨tag', v⟩, hv, heq⟩ := List.mem_map.mp hw
    cases heq
    exact ⟨v.value, hforecasts tag v (mem_resolved.mp hv), rfl⟩
  refine ⟨fun tag v hv ↦ ?_, fun tag w hw hfactor ↦ ?_, fun tag w factor hw hfactor ↦ ?_,
    fun hbound tag w hw ↦ ?_⟩
  · exact (hobservations tag v (mem_resolved.mp hv)).isFinite
  · obtain ⟨x, hx, hvalue⟩ := hgiven tag w hw
    rw [hvalue, FluxCorrections.apply, hfactor]
    exact hx.isFinite
  · obtain ⟨x, hx, hvalue⟩ := hgiven tag w hw
    obtain ⟨hfinite, hsign⟩ := d.factor_spec hfactor
    have hbetween := hx.between hfactor
    rw [FluxCorrections.apply, hfactor] at hvalue
    refine ⟨hfinite, hsign, x, hx, hx.isFinite, hbetween.1, hvalue, ?_, ?_⟩
    · rw [hvalue]
      exact zero_le_mul hx.isFinite hfinite hbetween.1 hsign
    · rw [hvalue]
      exact isFinite_mul_iff hx.isFinite hfinite
  · obtain ⟨x, hx, hvalue⟩ := hgiven tag w hw
    rw [hvalue, FluxCorrections.apply]
    cases hfactor : d.config.corrections.factor? tag with
    | none => exact hx.isFinite
    | some factor =>
      obtain ⟨hfinite, hsign⟩ := d.factor_spec hfactor
      obtain ⟨hlow, hhigh⟩ := hx.between hfactor
      exact isFinite_mul_of_le hx.isFinite hfinite hlow hsign hhigh (hbound tag factor hfactor)

end RunInputs

namespace Resolver

variable {r : Resolver}

/-- **Inputs are numbers up to the overflow of corrections.** With the standard catalog, every
observation and every forecast without a correction is finite, whatever the store answers. A
corrected flux is the product of a finite flux that is not negative and a factor that is neither; it
is not negative, and it is finite just if the exact product is below the overflow. The same holds
of inputs that are searched for in turns, with any stores. -/
theorem assemble_areNumbers (r : Resolver) (d : Description) (standard : r.catalog = .standard) :
    (r.assemble d).inputs.AreNumbers d ∧
    ∀ observing forecasting i trace, r.assembleInTurns d observing forecasting = some (i, trace) →
      i.AreNumbers d := by
  constructor
  · rw [assemble, List.map_map, List.map_map]
    refine RunInputs.areNumbers_collect (fun tag v hv ↦ ?_) fun tag v hv ↦ ?_
    · obtain ⟨tag', -, heq⟩ := List.mem_map.mp hv
      obtain ⟨rfl, hresult⟩ := Prod.mk.inj heq
      exact standard ▸ gives_of_resolve hresult
    · obtain ⟨tag', -, heq⟩ := List.mem_map.mp hv
      obtain ⟨rfl, hresult⟩ := Prod.mk.inj heq
      exact standard ▸ gives_of_resolve hresult
  · intro observing forecasting i trace h
    obtain ⟨observations, forecasts, hobservations, hforecasts, rfl, -⟩ :=
      assembleInTurns_eq_some_iff.mp h
    rw [observationSearches] at hobservations
    rw [forecastSearches] at hforecasts
    refine RunInputs.areNumbers_collect (fun tag v hv ↦ ?_) fun tag v hv ↦ ?_
    · exact standard ▸ Searches.gives_of_settled? hobservations hv
    · exact standard ▸ Searches.gives_of_settled? hforecasts hv

end Resolver

/-! ## Corrections of a station -/

namespace Station

/-- With its corrections, all forecasts of the station are finite. -/
theorem isFinite_forecasts : resolver.catalog = .standard ∧
    ∀ tag w, (tag, w) ∈ (resolver.assemble description).inputs.forecasts →
      w.value.isFinite = true := by
  have hnumbers := Resolver.assemble_areNumbers resolver description rfl
  refine ⟨rfl, hnumbers.1.bounded fun tag factor hfactor ↦ ?_⟩
  have hfactors : ∀ tag ∈ ForecastTag.all,
      (description.config.corrections.factor? tag).all (fun x ↦ decide (x ≤ 1e305)) = true := by
    decide +kernel
  have hall := hfactors tag tag.mem_all
  rw [hfactor] at hall
  exact of_decide_eq_true hall

/-- The station with a correction of the solar flux that is a valid factor. -/
def amplified : Description :=
  ⟨{ config with corrections := { solar := 1e308 } }, by decide +kernel⟩

/-- The sun gives a thousand watts per square metre. -/
def sunny : Resolver := { resolver with values := fun _ ↦ ⟨0, .ok (some ⟨noon, 1000⟩)⟩ }

/-- **A correction can make a flux infinite.** A plausible flux, corrected by a factor that a
description may have, is more than any finite double. -/
theorem amplified_flux_infinite :
    sunny.catalog = .standard ∧
      ∃ w, (ForecastTag.solarFlux, w) ∈ (sunny.assemble amplified).inputs.forecasts ∧
        w.value = 1000 * 1e308 ∧ w.value.isFinite = false := by
  have hresult : (sunny.resolve amplified (.forecast .solarFlux)).result
      = .ok ⟨1000, noon, forecast "Forecasted downward shortwave radiation flux in [W/m2]", 0⟩ := by
    rfl
  refine ⟨rfl, _, ((RunInputs.assemble_agrees sunny amplified).forecast .solarFlux _).mpr
    ⟨by rfl, _, hresult, RunInputs.corrects_corrected amplified .solarFlux _⟩, rfl, ?_⟩
  change (1000 * 1e308 : Float).isFinite = false
  decide +kernel

end Station

end RoadWeather
