import RoadWeather.Proofs.FirstUsable
import RoadWeather.Proofs.Renaming

/-!
# A timeout is the same as no data

A reply that takes longer than a query may take is as good as none. The store that is *cut off* at a
limit says so at once: it answers everything without delay, and late replies are answers without a
value (`ValueStore.cutOff`). To resolve against it without a limit is to resolve against the
original with the limit, up to what the failures of late candidates are called
(`Resolver.renames_cutOff`).

## The argument

It is about one candidate. If its reply is late, it is skipped either way, and the two failures are
the ones exchanged by the renaming. If it is in time, the replies have the same answer, and then the
outcomes are the same. The rest is about renaming in general, which carries over to every search,
whenever the store changes, and to all inputs of a run.

Which failures were renamed is said as well: just those of candidates whose replies are late
(`Resolver.TimesOutLate`). So nothing is called a timeout that was merely without a value.

Without a limit no reply is late, and delays are of no account (`Resolver.sameAnswers_delayed`).
-/

namespace RoadWeather

/-! ## Stores without delays -/

namespace ValueStore

/-- The store that replies at once, and without a value where the reply would exceed a limit. -/
def cutOff (limit : Nat) (values : ValueStore) : ValueStore := fun query ↦
  { delay := 0, answer := if limit < (values query).delay then .ok none else (values query).answer }

def delayed (delay : Query → Nat) (values : ValueStore) : ValueStore := fun query ↦
  { delay := delay query, answer := (values query).answer }

end ValueStore

/-- What a late reply is called where it is cut off. -/
def CandidateFailure.cutOff : CandidateFailure → CandidateFailure
  | timedOut _ => unavailable
  | failure => failure

namespace Resolver

def limited (r : Resolver) (limit : Nat) : Resolver := { r with timeout := some limit }

def unlimited (r : Resolver) : Resolver := { r with timeout := none }

/-- The resolver without such a limit, its store being cut off there. -/
def cutOff (r : Resolver) (limit : Nat) : Resolver :=
  { r with values := r.values.cutOff limit, timeout := none }

/-! ## Candidates -/

section Candidates

variable {r : Resolver} {limit : Nat} {tag : Tag} {s : DataSource}

theorem inTime_of_timeout_eq_none (h : r.timeout = none) (s : DataSource) : r.InTime s := by
  intro limit hlimit
  rw [h] at hlimit
  cases hlimit

theorem answer_cutOff_of_late (late : limit < (r.values s.query).delay) :
    ((r.cutOff limit).values s.query).answer = .ok none := if_pos late

theorem answer_cutOff_of_inTime (h : (r.limited limit).InTime s) :
    ((r.cutOff limit).values s.query).answer = (r.values s.query).answer :=
  if_neg (Nat.not_lt.mpr (h limit rfl))

theorem Answers.cutOff {timed : TimedValue} (h : (r.limited limit).Answers s timed) :
    (r.cutOff limit).Answers s timed :=
  ⟨inTime_of_timeout_eq_none rfl s, (answer_cutOff_of_inTime h.1).trans h.2⟩

theorem Offers.cutOff {p : Parameter} {timed : TimedValue}
    (h : (r.limited limit).Offers s p timed) : (r.cutOff limit).Offers s p timed where
  known := h.known
  answers := h.answers.cutOff
  accepted := h.accepted

/-- What is skipped under a limit is skipped where the store is cut off, and for the same reason
unless it is late. -/
theorem Skips.cutOff {failure : CandidateFailure} (h : (r.limited limit).Skips tag s failure) :
    (r.cutOff limit).Skips tag s failure.cutOff := by
  have hinTime : (r.cutOff limit).InTime s := inTime_of_timeout_eq_none rfl s
  cases h with
  | timedOut known bound late =>
    cases bound
    exact .unavailable known hinTime (answer_cutOff_of_late late)
  | unavailable known inTime answer =>
    exact .unavailable known hinTime ((answer_cutOff_of_inTime inTime).trans answer)
  | store known inTime answer =>
    exact .store known hinTime ((answer_cutOff_of_inTime inTime).trans answer)
  | invalid known answers rejected => exact .invalid known answers.cutOff rejected
  | noCode offers lacks => exact .noCode offers.cutOff lacks

theorem Refuses.cutOff {e : ConversionError} (h : (r.limited limit).Refuses tag s e) :
    (r.cutOff limit).Refuses tag s e := by
  cases h with
  | unknown unknown => exact .unknown unknown
  | foreign offers feeds => exact .foreign offers.cutOff feeds

/-- **To cut a store off is to limit the time of queries**, up to the name of the failure. -/
theorem renames_cutOff (r : Resolver) (limit : Nat) :
    Renames CandidateFailure.cutOff (r.limited limit) (r.cutOff limit) where
  catalog := rfl
  outcome tag s := by
    obtain ⟨o, ho⟩ := (r.limited limit).exists_verdict tag s
    rw [outcome_of_verdict ho]
    cases o with
    | usable timed value =>
      obtain ⟨p, hoffers, hconvert⟩ := ho
      exact outcome_of_usable ⟨p, hoffers.cutOff, hconvert⟩
    | skipped failure => exact outcome_of_skips (Skips.cutOff ho)
    | misconfigured e => exact outcome_of_refuses (Refuses.cutOff ho)

/-- Under a limit, a candidate is skipped for its delay just if its reply is late. -/
theorem skips_timedOut_iff {failure : CandidateFailure}
    (h : (r.limited limit).Skips tag s failure) (bound : Nat) :
    failure = .timedOut bound ↔ bound = limit ∧ limit < (r.values s.query).delay := by
  constructor
  · rintro rfl
    cases h with
    | timedOut known hbound late =>
      cases hbound
      exact ⟨rfl, late⟩
  · rintro ⟨rfl, late⟩
    obtain ⟨p, known⟩ := Option.isSome_iff_exists.mp (knows_of_skips h)
    have htimedOut : (r.limited bound).Skips tag s (.timedOut bound) := .timedOut known rfl late
    cases (outcome_of_skips h).symm.trans (outcome_of_skips htimedOut)
    rfl

theorem sameAnswers_delayed (r : Resolver) (delay : Query → Nat) :
    Resolver.SameAnswers { r.unlimited with values := r.values.delayed delay } r.unlimited where
  catalog := rfl
  fetch _ := rfl

end Candidates

/-! ## Resolutions and runs -/

/-- The failures of candidates in a result that was found under a limit: just those of late replies
are for the delay. -/
def TimesOutLate (r : Resolver) (limit : Nat) (result : Resolution.Result) : Prop :=
  ∀ tag attempts, result = .error (.exhausted tag attempts) → ∀ a ∈ attempts, ∀ bound,
    a.failure = .timedOut bound ↔ bound = limit ∧ limit < (r.values a.source.query).delay

theorem timesOutLate_resolve (r : Resolver) (limit : Nat) (d : Description) (tag : Tag) :
    r.TimesOutLate limit ((r.limited limit).resolve d tag).result := by
  intro tag' attempts hresult a ha bound
  cases hsources : d.sources? tag with
  | none =>
    rw [resolve, hsources] at hresult
    cases hresult
  | some sources =>
    rw [resolve, hsources] at hresult
    have hfirst := (r.limited limit).firstUsable_resolveSources tag sources
    obtain ⟨-, -, haccounts⟩ := (hfirst.exhausted_iff tag' attempts).mp hresult
    obtain ⟨j, hj⟩ := List.mem_iff_getElem?.mp ha
    obtain ⟨-, -, hskips⟩ := haccounts j a hj
    exact skips_timedOut_iff (r := r) hskips bound

/-- **A timeout is the same as no data.** Under a limit, everything is resolved as it is without one
against the store that is cut off there: with the same result and the same queries, but that the
failure of a candidate whose reply is late, and of no other, is called otherwise. This holds of the
inputs of a run, also when they are searched for in turns and the store changes. Without a limit,
other delays make no difference. -/
theorem resolve_cutOff (r : Resolver) (limit : Nat) (d : Description) :
    (∀ tag,
      ((r.cutOff limit).resolve d tag).result
          = Resolution.Result.rename CandidateFailure.cutOff
            ((r.limited limit).resolve d tag).result ∧
        ((r.cutOff limit).resolve d tag).queries = ((r.limited limit).resolve d tag).queries ∧
        r.TimesOutLate limit ((r.limited limit).resolve d tag).result) ∧
    ((r.cutOff limit).assemble d).inputs
      = ((r.limited limit).assemble d).inputs.rename CandidateFailure.cutOff ∧
    (∀ observing forecasting : List Turn,
      r.unlimited.assembleInTurns d
          (observing.map fun t ↦ { t with values := t.values.cutOff limit })
          (forecasting.map fun t ↦ { t with values := t.values.cutOff limit })
        = ((r.limited limit).assembleInTurns d observing forecasting).map
          (Prod.map (RunInputs.rename CandidateFailure.cutOff) id)) ∧
    ∀ delay : Query → Nat,
      let other : Resolver := { r.unlimited with values := r.values.delayed delay }
      (∀ tag, (other.resolve d tag).result = (r.unlimited.resolve d tag).result) ∧
        (other.assemble d).inputs = (r.unlimited.assemble d).inputs := by
  refine ⟨fun tag ↦ ?_, (r.renames_cutOff limit).inputs_assemble d,
    fun observing forecasting ↦ ?_, fun delay ↦ ?_⟩
  · obtain ⟨hresult, hqueries⟩ := (r.renames_cutOff limit).resolve_eq d tag
    exact ⟨hresult, hqueries, r.timesOutLate_resolve limit d tag⟩
  · have hturn : ∀ t ∈ observing ++ forecasting, Renames CandidateFailure.cutOff
        { r.limited limit with values := t.values }
        { r.unlimited with values := t.values.cutOff limit } := by
      intro t _
      exact renames_cutOff { r with values := t.values } limit
    exact assembleInTurns_rename hturn d
  · have hsame := r.sameAnswers_delayed delay
    exact ⟨fun tag ↦ hsame.result_resolve d tag, hsame.inputs_assemble d⟩

end Resolver

end RoadWeather
