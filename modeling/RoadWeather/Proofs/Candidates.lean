import RoadWeather.Proofs.Conversion
import RoadWeather.Resolution

/-!
# What can come of a candidate

A candidate is usable, skipped or refused. The three are said here of the catalog, the store and the
clock alone: which conditions hold together, and not in which order they are looked at. Each belongs
to an outcome (`Resolver.outcome_eq_iff`), so one of them holds and they exclude each other.
-/

namespace RoadWeather

namespace Resolver

variable {r : Resolver} {tag : Tag} {s : DataSource}

/-! ## The three verdicts -/

/-- The reply to the query takes no longer than it may. -/
def InTime (r : Resolver) (s : DataSource) : Prop :=
  ∀ limit, r.timeout = some limit → (r.values s.query).delay ≤ limit

/-- The store answers in time, and with a value. -/
def Answers (r : Resolver) (s : DataSource) (timed : TimedValue) : Prop :=
  r.InTime s ∧ (r.values s.query).answer = .ok (some timed)

/-- The store answers with a value that is plausible for the parameter of the candidate. -/
structure Offers (r : Resolver) (s : DataSource) (p : Parameter) (timed : TimedValue) : Prop where
  known : r.catalog.get? s.parameter = some p
  answers : r.Answers s timed
  accepted : p.check timed.value = .ok ()

/-- The candidate gives the input a value. -/
def Usable (r : Resolver) (tag : Tag) (s : DataSource) (timed : TimedValue) (value : Float) :
    Prop :=
  ∃ p, r.Offers s p timed ∧ p.convert tag timed.value = .ok value

/-- The candidate gives the input no value, for a reason that another one need not share. -/
inductive Skips (r : Resolver) (tag : Tag) (s : DataSource) : CandidateFailure → Prop where
  | timedOut {p : Parameter} {limit : Nat} (known : r.catalog.get? s.parameter = some p)
      (bound : r.timeout = some limit) (late : limit < (r.values s.query).delay) :
      Skips r tag s (.timedOut limit)
  | unavailable {p : Parameter} (known : r.catalog.get? s.parameter = some p)
      (inTime : r.InTime s) (answer : (r.values s.query).answer = .ok none) :
      Skips r tag s .unavailable
  | store {p : Parameter} {message : String} (known : r.catalog.get? s.parameter = some p)
      (inTime : r.InTime s) (answer : (r.values s.query).answer = .error message) :
      Skips r tag s (.store message)
  | invalid {p : Parameter} {timed : TimedValue} {e : InvalidValue}
      (known : r.catalog.get? s.parameter = some p) (answers : r.Answers s timed)
      (rejected : p.check timed.value = .error e) : Skips r tag s (.invalid e)
  | noCode {p : Parameter} {timed : TimedValue} (offers : r.Offers s p timed)
      (lacks : p.LacksCode tag timed.value) : Skips r tag s (.noCode timed.value)

/-- The catalog cannot make sense of the candidate. For a parameter that does not feed the input
this shows only once there is a plausible value to convert. -/
inductive Refuses (r : Resolver) (tag : Tag) (s : DataSource) : ConversionError → Prop where
  | unknown (unknown : r.catalog.get? s.parameter = none) :
      Refuses r tag s (.unknownParameter s.parameter)
  | foreign {p : Parameter} {timed : TimedValue} (offers : r.Offers s p timed)
      (feeds : p.canFeed tag = false) : Refuses r tag s (.notConvertible s.parameter tag)

/-! ## Fetching -/

theorem fetch_eq_of_late {limit : Nat} (bound : r.timeout = some limit)
    (late : limit < (r.values s.query).delay) : r.fetch s = .error (.timedOut limit) := by
  simp [fetch, bound, late]

theorem fetch_eq_of_inTime (h : r.InTime s) :
    r.fetch s =
      match (r.values s.query).answer with
      | .ok (some timed) => .ok timed
      | .ok none => .error .unavailable
      | .error message => .error (.store message) := by
  rw [fetch]
  cases hlimit : r.timeout with
  | none => rfl
  | some limit => exact if_neg (Nat.not_lt.mpr (h limit hlimit))

theorem late_or_inTime (r : Resolver) (s : DataSource) :
    (∃ limit, r.timeout = some limit ∧ limit < (r.values s.query).delay) ∨ r.InTime s := by
  cases hlimit : r.timeout with
  | none => exact Or.inr fun limit h ↦ by rw [hlimit] at h; cases h
  | some limit =>
    rcases Nat.lt_or_ge limit (r.values s.query).delay with hlate | hle
    · exact Or.inl ⟨limit, rfl, hlate⟩
    · refine Or.inr fun other h ↦ ?_
      rw [hlimit] at h
      cases h
      exact hle

/-! ## Verdicts and outcomes -/

theorem outcome_of_offers {p : Parameter} {timed : TimedValue} (h : r.Offers s p timed) :
    r.outcome tag s = judge p tag timed := by
  have hfetch : r.fetch s = .ok timed := by
    rw [fetch_eq_of_inTime h.answers.1, h.answers.2]
  simp [outcome, h.known, hfetch]

theorem outcome_of_usable {timed : TimedValue} {value : Float} (h : r.Usable tag s timed value) :
    r.outcome tag s = .usable timed value := by
  obtain ⟨p, hoffers, hconvert⟩ := h
  simp [outcome_of_offers hoffers, judge, hoffers.accepted, hconvert]

theorem outcome_of_skips {failure : CandidateFailure} (h : r.Skips tag s failure) :
    r.outcome tag s = .skipped failure := by
  cases h with
  | timedOut known bound late => simp [outcome, known, fetch_eq_of_late bound late]
  | unavailable known inTime answer =>
    simp [outcome, known, fetch_eq_of_inTime inTime, answer]
  | store known inTime answer => simp [outcome, known, fetch_eq_of_inTime inTime, answer]
  | invalid known answers rejected =>
    simp [outcome, known, fetch_eq_of_inTime answers.1, answers.2, judge, rejected]
  | noCode offers lacks =>
    simp [outcome_of_offers offers, judge, offers.accepted, Parameter.convert_of_lacksCode lacks]

theorem outcome_of_refuses {e : ConversionError} (h : r.Refuses tag s e) :
    r.outcome tag s = .misconfigured e := by
  cases h with
  | unknown unknown => simp [outcome, unknown]
  | foreign offers feeds =>
    simp [outcome_of_offers offers, judge, offers.accepted,
      Parameter.convert_of_not_canFeed feeds, Catalog.label_of_get? offers.known]

/-- What an outcome says of a candidate. -/
def Verdict (r : Resolver) (tag : Tag) (s : DataSource) : Outcome → Prop
  | .usable timed value => r.Usable tag s timed value
  | .skipped failure => r.Skips tag s failure
  | .misconfigured e => r.Refuses tag s e

theorem outcome_of_verdict {o : Outcome} (h : r.Verdict tag s o) : r.outcome tag s = o := by
  cases o with
  | usable timed value => exact outcome_of_usable h
  | skipped failure => exact outcome_of_skips h
  | misconfigured e => exact outcome_of_refuses h

theorem exists_verdict (r : Resolver) (tag : Tag) (s : DataSource) : ∃ o, r.Verdict tag s o := by
  cases hknown : r.catalog.get? s.parameter with
  | none => exact ⟨.misconfigured _, .unknown hknown⟩
  | some p =>
    rcases r.late_or_inTime s with ⟨limit, bound, late⟩ | htime
    · exact ⟨.skipped _, .timedOut hknown bound late⟩
    cases hanswer : (r.values s.query).answer with
    | error message => exact ⟨.skipped _, .store hknown htime hanswer⟩
    | ok found =>
      cases found with
      | none => exact ⟨.skipped _, .unavailable hknown htime hanswer⟩
      | some timed =>
        cases hcheck : p.check timed.value with
        | error e => exact ⟨.skipped _, .invalid hknown ⟨htime, hanswer⟩ hcheck⟩
        | ok _ =>
          have hoffers : r.Offers s p timed := ⟨hknown, ⟨htime, hanswer⟩, hcheck⟩
          rcases p.convert_cases tag timed.value with ⟨x, hx⟩ | ⟨-, hlacks⟩ | ⟨hx, -⟩
          · exact ⟨.usable timed x, p, hoffers, hx⟩
          · exact ⟨.skipped _, .noCode hoffers hlacks⟩
          · have hfeed := ((Catalog.convert_eq_notConvertible_iff hknown).mp hx).1
            exact ⟨.misconfigured _, .foreign hoffers hfeed⟩

/-- **The outcome of a candidate is the one verdict that holds of it.** -/
theorem outcome_eq_iff {o : Outcome} : r.outcome tag s = o ↔ r.Verdict tag s o := by
  refine ⟨fun h ↦ ?_, outcome_of_verdict⟩
  obtain ⟨o', ho'⟩ := r.exists_verdict tag s
  rw [outcome_of_verdict ho'] at h
  exact h ▸ ho'

/-! ## Queries -/

/-- Whether the catalog knows the parameter of a candidate, so that it can be asked for a value. -/
def knows (r : Resolver) (s : DataSource) : Bool := (r.catalog.get? s.parameter).isSome

theorem knows_of_skips {failure : CandidateFailure} (h : r.Skips tag s failure) :
    r.knows s = true := by
  rw [knows]
  cases h with
  | timedOut known => rw [known]; rfl
  | unavailable known => rw [known]; rfl
  | store known => rw [known]; rfl
  | invalid known => rw [known]; rfl
  | noCode offers => rw [offers.known]; rfl

end Resolver

end RoadWeather
