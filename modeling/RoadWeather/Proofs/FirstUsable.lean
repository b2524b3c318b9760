import RoadWeather.Proofs.Candidates
import RoadWeather.Proofs.Turns

/-!
# The first usable candidate wins

A search goes through its candidates in order, one in a turn, and the first one that is not skipped
decides it. What becomes of each candidate is said by its verdict, which is a statement about the
catalog, the store and the clock. The search itself does not occur in it.

## Changing stores

The store may change from turn to turn. What holds of a candidate is therefore said with the store
as it is in its turn (`Resolver.inTurn`), and positions in the list of candidates count the turns as
well. A resolution is the case of a store that stays as it is.

## The invariant

`Search.Follows` says how far a search has come. Before the end, the attempts account for the
candidates so far, and the queries are those of these candidates. At the end, everything before the
deciding candidate has been skipped, and the queries are those of the candidates up to it. A turn
keeps this up (`Search.Follows.turn`): it tries the next candidate, and one of the three verdicts on
that candidate holds.

## From the invariant to equivalences

There is one position at which a search can end and one way in which it can do so
(`Resolver.EndsAt.unique`). The candidate at the least position that is not skipped is determined,
so are the attempts before it, and so is the verdict on it. That turns every statement about a
result into an equivalence (`Resolver.FirstUsable`): the search ends with a value just if there is
such a candidate that is usable, and likewise for the two ways to fail.
-/

namespace RoadWeather

namespace Resolver

/-- The resolver with the store as it is in a turn. -/
def inTurn (r : Resolver) (stores : Nat → ValueStore) (n : Nat) : Resolver :=
  { r with values := stores n }

section Ends

variable (r : Resolver) (stores : Nat → ValueStore) (tag : Tag) (sources : List DataSource)

/-- All candidates before a position are skipped, each in its turn. -/
def SkippedBefore (n : Nat) : Prop :=
  ∀ j < n, ∃ s failure, sources[j]? = some s ∧ (r.inTurn stores j).Skips tag s failure

/-- Attempts that account for the first candidates: the one at each position is skipped in its turn,
for the reason that stands there. -/
def Accounts (attempts : List Attempt) : Prop :=
  ∀ (j : Nat) (a : Attempt), attempts[j]? = some a →
    a.priority = j ∧ sources[j]? = some a.source ∧
      (r.inTurn stores j).Skips tag a.source a.failure

/-- The ways in which a search ends at a position. -/
inductive EndsAt : Nat → Resolution.Result → Prop where
  | used {n : Nat} {s : DataSource} {timed : TimedValue} {value : Float}
      (candidate : sources[n]? = some s) (usable : (r.inTurn stores n).Usable tag s timed value) :
      EndsAt n (.ok ⟨value, timed.timestamp, s, n⟩)
  | refused {n : Nat} {s : DataSource} {e : ConversionError} (candidate : sources[n]? = some s)
      (refuses : (r.inTurn stores n).Refuses tag s e) :
      EndsAt n (.error (.misconfigured tag s e))
  | exhausted {attempts : List Attempt} (count : attempts.length = sources.length)
      (accounts : Accounts r stores tag sources attempts) :
      EndsAt sources.length (.error (.exhausted tag attempts))

end Ends

/-! ## There is one end -/

variable {r : Resolver} {stores : Nat → ValueStore} {tag : Tag} {s : DataSource}
  {sources : List DataSource} {attempts attempts' : List Attempt} {n m : Nat}
  {result result' : Resolution.Result}

theorem Accounts.skippedBefore (h : r.Accounts stores tag sources attempts) :
    r.SkippedBefore stores tag sources attempts.length := by
  intro j hj
  obtain ⟨-, hsource, hskips⟩ := h j _ (List.getElem?_eq_getElem hj)
  exact ⟨_, _, hsource, hskips⟩

theorem Accounts.length_le (h : r.Accounts stores tag sources attempts) :
    attempts.length ≤ sources.length := by
  refine Nat.not_lt.mp fun hlt ↦ ?_
  obtain ⟨-, hsource, -⟩ := h _ _ (List.getElem?_eq_getElem hlt)
  rw [List.getElem?_eq_none (Nat.le_refl _)] at hsource
  cases hsource

/-- An account is one of all candidates, or there is a candidate that comes next. -/
theorem Accounts.drop_cases (h : r.Accounts stores tag sources attempts) :
    attempts.length = sources.length ∧ sources.drop attempts.length = [] ∨
      ∃ s, sources[attempts.length]? = some s ∧
        sources.drop attempts.length = s :: sources.drop (attempts.length + 1) := by
  rcases Nat.lt_or_eq_of_le h.length_le with hlt | heq
  · exact .inr ⟨_, List.getElem?_eq_getElem hlt, List.drop_eq_getElem_cons hlt⟩
  · exact .inl ⟨heq, List.drop_eq_nil_of_le (Nat.le_of_eq heq.symm)⟩

theorem Accounts.concat (h : r.Accounts stores tag sources attempts) {failure : CandidateFailure}
    (candidate : sources[attempts.length]? = some s)
    (hskips : (r.inTurn stores attempts.length).Skips tag s failure) :
    r.Accounts stores tag sources (attempts ++ [⟨attempts.length, s, failure⟩]) := by
  intro j a ha
  rw [List.getElem?_append] at ha
  split at ha
  · exact h j a ha
  · next hge =>
    obtain ⟨hlt, rfl⟩ := List.getElem?_eq_some_iff.mp ha
    obtain rfl : j = attempts.length := by
      rw [List.length_singleton] at hlt
      omega
    rw [List.getElem_singleton]
    exact ⟨rfl, candidate, hskips⟩

theorem Accounts.unique (h : r.Accounts stores tag sources attempts)
    (h' : r.Accounts stores tag sources attempts') (hlength : attempts.length = attempts'.length) :
    attempts = attempts' := by
  refine List.ext_getElem hlength fun j hj hj' ↦ ?_
  obtain ⟨hpriority, hsource, hskips⟩ := h j _ (List.getElem?_eq_getElem hj)
  obtain ⟨hpriority', hsource', hskips'⟩ := h' j _ (List.getElem?_eq_getElem hj')
  generalize attempts[j] = a at *
  generalize attempts'[j] = a' at *
  obtain ⟨priority, source, failure⟩ := a
  obtain ⟨priority', source', failure'⟩ := a'
  obtain rfl : source = source' := Option.some.inj (hsource.symm.trans hsource')
  obtain rfl : priority = priority' := hpriority.trans hpriority'.symm
  cases (outcome_of_skips hskips).symm.trans (outcome_of_skips hskips')
  rfl

theorem getElem?_length_ne_some : sources[sources.length]? ≠ some s := by
  intro hs
  rw [List.getElem?_eq_none (Nat.le_refl _)] at hs
  cases hs

theorem EndsAt.not_skips {failure : CandidateFailure} (h : r.EndsAt stores tag sources n result)
    (hs : sources[n]? = some s) : ¬ (r.inTurn stores n).Skips tag s failure := by
  intro hskips
  cases h with
  | used candidate usable =>
    obtain rfl := Option.some.inj (hs.symm.trans candidate)
    cases (outcome_of_skips hskips).symm.trans (outcome_of_usable usable)
  | refused candidate refuses =>
    obtain rfl := Option.some.inj (hs.symm.trans candidate)
    cases (outcome_of_skips hskips).symm.trans (outcome_of_refuses refuses)
  | exhausted => exact getElem?_length_ne_some hs

theorem EndsAt.le (h : r.EndsAt stores tag sources n result)
    (hm : r.SkippedBefore stores tag sources m) : m ≤ n := by
  refine Nat.not_lt.mp fun hlt ↦ ?_
  obtain ⟨s, failure, hs, hskips⟩ := hm n hlt
  exact h.not_skips hs hskips

/-- **A search ends at one position and in one way.** -/
theorem EndsAt.unique (hn : r.SkippedBefore stores tag sources n)
    (h : r.EndsAt stores tag sources n result) (hm : r.SkippedBefore stores tag sources m)
    (h' : r.EndsAt stores tag sources m result') : n = m ∧ result = result' := by
  obtain rfl : n = m := Nat.le_antisymm (h'.le hn) (h.le hm)
  refine ⟨rfl, ?_⟩
  -- Both ends are about the same candidate now, which has one outcome only.
  cases h with
  | used candidate usable =>
    cases h' with
    | used candidate' usable' =>
      obtain rfl := Option.some.inj (candidate.symm.trans candidate')
      cases (outcome_of_usable usable).symm.trans (outcome_of_usable usable')
      rfl
    | refused candidate' refuses =>
      obtain rfl := Option.some.inj (candidate.symm.trans candidate')
      cases (outcome_of_usable usable).symm.trans (outcome_of_refuses refuses)
    | exhausted => exact absurd candidate getElem?_length_ne_some
  | refused candidate refuses =>
    cases h' with
    | used candidate' usable =>
      obtain rfl := Option.some.inj (candidate.symm.trans candidate')
      cases (outcome_of_refuses refuses).symm.trans (outcome_of_usable usable)
    | refused candidate' refuses' =>
      obtain rfl := Option.some.inj (candidate.symm.trans candidate')
      cases (outcome_of_refuses refuses).symm.trans (outcome_of_refuses refuses')
      rfl
    | exhausted => exact absurd candidate getElem?_length_ne_some
  | exhausted count accounts =>
    cases h' with
    | used candidate => exact absurd candidate getElem?_length_ne_some
    | refused candidate => exact absurd candidate getElem?_length_ne_some
    | exhausted count' accounts' => rw [accounts.unique accounts' (count.trans count'.symm)]

/-! ## Queries

A candidate with a parameter that the catalog does not know is not asked for a value. It ends the
search, so it can only be the last one, and a candidate that is skipped has always been asked. -/

/-- The queries of the candidates whose parameters the catalog knows. -/
def queriesOf (r : Resolver) (sources : List DataSource) : List Query :=
  (sources.filter r.knows).map DataSource.query

@[simp] theorem queriesOf_append (r : Resolver) (earlier later : List DataSource) :
    r.queriesOf (earlier ++ later) = r.queriesOf earlier ++ r.queriesOf later := by
  rw [queriesOf, List.filter_append, List.map_append]
  rfl

/-- Of candidates that are skipped, every one is asked. -/
theorem SkippedBefore.queriesOf_take (h : r.SkippedBefore stores tag sources n) :
    r.queriesOf (sources.take n) = (sources.take n).map DataSource.query := by
  rw [queriesOf, List.filter_eq_self.mpr]
  intro s hs
  obtain ⟨j, hj⟩ := List.mem_iff_getElem?.mp hs
  obtain ⟨hlt, -⟩ := List.getElem?_eq_some_iff.mp hj
  have hjn : j < n := Nat.lt_of_lt_of_le hlt (List.length_take_le n sources)
  obtain ⟨s', failure, hs', hskips⟩ := h j hjn
  rw [List.getElem?_take_of_lt hjn] at hj
  obtain rfl := Option.some.inj (hj.symm.trans hs')
  exact knows_of_skips (r := r.inTurn stores j) hskips

@[simp] theorem queriesOf_singleton (r : Resolver) (s : DataSource) :
    r.queriesOf [s] = r.queries s := by
  rw [queriesOf, queries, List.filter_cons, knows]
  split <;> rfl

end Resolver

/-! ## What a search keeps up -/

/-- How a search goes through its candidates. So far it has passed over one in each turn; or it has
ended at the first that is not skipped. The queries are those of the candidates up to that. -/
inductive Search.Follows (r : Resolver) (stores : Nat → ValueStore) (tag : Tag)
    (sources : List DataSource) : Nat → Search → List Query → Prop where
  | trying {skipped : List Attempt} (accounts : r.Accounts stores tag sources skipped) :
      Follows r stores tag sources skipped.length (.trying skipped (sources.drop skipped.length))
        (r.queriesOf (sources.take skipped.length))
  | ended {n k : Nat} {result : Resolution.Result}
      (before : r.SkippedBefore stores tag sources n)
      (ends : r.EndsAt stores tag sources n result) :
      Follows r stores tag sources k (.ended result) (r.queriesOf (sources.take (n + 1)))

namespace Search.Follows

variable {r : Resolver} {stores : Nat → ValueStore} {tag : Tag} {sources : List DataSource}
  {k : Nat} {search : Search} {queries : List Query}

theorem start (r : Resolver) (stores : Nat → ValueStore) (tag : Tag) (sources : List DataSource) :
    Follows r stores tag sources 0 (.start tag (some sources)) [] :=
  @trying r stores tag sources [] fun _ _ ha ↦ nomatch ha

/-- **A turn keeps it up.** -/
theorem turn (h : Follows r stores tag sources k search queries) :
    Follows r stores tag sources (k + 1) (search.turn (r.inTurn stores k) tag).1
      (queries ++ (search.turn (r.inTurn stores k) tag).2) := by
  cases h with
  | ended before ends => simpa using .ended before ends
  | @trying skipped accounts =>
    rcases accounts.drop_cases with ⟨hlength, hrest⟩ | ⟨s, hcandidate, hrest⟩
    · -- Nothing is left to try, so the attempts are an account of all candidates.
      have htake : sources.take skipped.length = sources.take (sources.length + 1) := by
        rw [List.take_of_length_le (Nat.le_of_eq hlength.symm),
          List.take_of_length_le (Nat.le_succ _)]
      rw [hrest, Search.turn, List.append_nil, htake]
      exact .ended (hlength ▸ accounts.skippedBefore) (.exhausted hlength accounts)
    · have hqueries : r.queriesOf (sources.take (skipped.length + 1))
          = r.queriesOf (sources.take skipped.length) ++ r.queries s := by
        simp [List.take_add_one, hcandidate]
      -- The verdict is one about the store of this turn; the queries depend on the catalog alone.
      obtain ⟨o, ho⟩ := (r.inTurn stores skipped.length).exists_verdict tag s
      rw [hrest, Search.turn, Resolver.outcome_of_verdict ho]
      cases o with
      | usable timed value =>
        exact hqueries ▸ .ended accounts.skippedBefore (.used hcandidate ho)
      | misconfigured e =>
        exact hqueries ▸ .ended accounts.skippedBefore (.refused hcandidate ho)
      | skipped failure =>
        have hnext := trying (accounts.concat hcandidate ho)
        rw [List.length_append, List.length_singleton, hqueries] at hnext
        exact hnext

theorem turns (h : Follows r stores tag sources k search queries) {later : List ValueStore}
    (hlater : ∀ j values, later[j]? = some values → values = stores (k + j)) :
    Follows r stores tag sources (k + later.length) (search.turns r tag later).1
      (queries ++ (search.turns r tag later).2) := by
  induction later generalizing k search queries with
  | nil => simpa using h
  | cons values later ih =>
    obtain rfl := hlater 0 values rfl
    have hrest := ih h.turn fun j values' hj ↦ by
      rw [hlater (j + 1) values' hj, Nat.add_assoc, Nat.add_comm 1 j]
    rw [turns_cons, ← List.append_assoc, List.length_cons, Nat.add_comm later.length 1,
      ← Nat.add_assoc]
    exact hrest

end Search.Follows

/-! ## Results -/

/-- What the first usable candidate has to do with a result, and with the queries made for it. -/
structure Resolver.FirstUsable (r : Resolver) (stores : Nat → ValueStore) (tag : Tag)
    (sources : List DataSource) (result : Resolution.Result) (queries : List Query) : Prop where
  /-- A value is the result just if its source stands at its priority and gives it, and all
  candidates before are skipped. -/
  ok_iff : ∀ v, result = .ok v ↔
    r.SkippedBefore stores tag sources v.priority ∧ sources[v.priority]? = some v.source ∧
      ∃ timed, (r.inTurn stores v.priority).Usable tag v.source timed v.value ∧
        timed.timestamp = v.timestamp
  /-- The candidates are exhausted just if the attempts account for every one of them. -/
  exhausted_iff : ∀ tag' attempts, result = .error (.exhausted tag' attempts) ↔
    tag' = tag ∧ attempts.length = sources.length ∧ r.Accounts stores tag sources attempts
  /-- A source is reported just if it is the first one not skipped and the catalog refuses it. -/
  misconfigured_iff : ∀ tag' s e, result = .error (.misconfigured tag' s e) ↔
    tag' = tag ∧ ∃ n, r.SkippedBefore stores tag sources n ∧ sources[n]? = some s ∧
      (r.inTurn stores n).Refuses tag s e
  /-- The search ends at the first candidate not skipped, or after the last one. Those before are
  asked in their order, each once, and then this one if the catalog knows its parameter. -/
  decided : ∃ n, r.SkippedBefore stores tag sources n ∧
    (∀ s failure, sources[n]? = some s → ¬ (r.inTurn stores n).Skips tag s failure) ∧
    r.EndsAt stores tag sources n result ∧
    queries = (sources.take n).map DataSource.query ++
      (sources[n]?.toList.filter r.knows).map DataSource.query

namespace Resolver

variable {r : Resolver} {stores : Nat → ValueStore} {tag : Tag} {sources : List DataSource}
  {n : Nat} {result : Resolution.Result}

theorem EndsAt.eq_iff (hn : r.SkippedBefore stores tag sources n)
    (h : r.EndsAt stores tag sources n result) {result' : Resolution.Result} :
    result = result' ↔
      ∃ m, r.SkippedBefore stores tag sources m ∧ r.EndsAt stores tag sources m result' := by
  constructor
  · rintro rfl
    exact ⟨n, hn, h⟩
  · rintro ⟨m, hm, h'⟩
    exact (h.unique hn hm h').2

theorem EndsAt.firstUsable (hn : r.SkippedBefore stores tag sources n)
    (h : r.EndsAt stores tag sources n result) :
    r.FirstUsable stores tag sources result (r.queriesOf (sources.take (n + 1))) where
  ok_iff v := by
    rw [h.eq_iff hn]
    constructor
    · rintro ⟨m, hbefore, hends⟩
      cases hends with
      | used candidate usable => exact ⟨hbefore, candidate, _, usable, rfl⟩
    · obtain ⟨value, timestamp, source, priority⟩ := v
      rintro ⟨hbefore, candidate, timed, usable, rfl⟩
      exact ⟨priority, hbefore, .used candidate usable⟩
  exhausted_iff tag' attempts := by
    rw [h.eq_iff hn]
    constructor
    · rintro ⟨m, -, hends⟩
      cases hends with
      | exhausted count accounts => exact ⟨rfl, count, accounts⟩
    · rintro ⟨rfl, count, accounts⟩
      exact ⟨_, count ▸ accounts.skippedBefore, .exhausted count accounts⟩
  misconfigured_iff tag' s e := by
    rw [h.eq_iff hn]
    constructor
    · rintro ⟨m, hbefore, hends⟩
      cases hends with
      | refused candidate refuses => exact ⟨rfl, m, hbefore, candidate, refuses⟩
    · rintro ⟨rfl, m, hbefore, candidate, refuses⟩
      exact ⟨m, hbefore, .refused candidate refuses⟩
  decided := by
    refine ⟨n, hn, fun _ _ hs ↦ h.not_skips hs, h, ?_⟩
    rw [List.take_add_one, queriesOf_append, hn.queriesOf_take]
    rfl

/-- A search that has ended has done so at the first usable candidate. -/
theorem firstUsable_of_turns {turns : List ValueStore} {queries : List Query}
    (hturns : ∀ j values, turns[j]? = some values → values = stores j)
    (hend : (Search.start tag (some sources)).turns r tag turns = (.ended result, queries)) :
    r.FirstUsable stores tag sources result queries := by
  have hlater : ∀ j values, turns[j]? = some values → values = stores (0 + j) := by
    intro j values hj
    rw [Nat.zero_add]
    exact hturns j values hj
  have hfollows := (Search.Follows.start r stores tag sources).turns hlater
  rw [hend, List.nil_append] at hfollows
  generalize 0 + turns.length = k at hfollows
  cases hfollows with
  | ended before ends => exact ends.firstUsable before

theorem firstUsable_resolveSources (r : Resolver) (tag : Tag) (sources : List DataSource) :
    r.FirstUsable (fun _ ↦ r.values) tag sources (r.resolveSources tag (some sources)).result
      (r.resolveSources tag (some sources)).queries :=
  firstUsable_of_turns (fun _ _ hj ↦ List.eq_of_mem_replicate (List.mem_of_getElem? hj))
    (Search.turns_replicate r tag (some sources))

theorem firstUsable_of_ended {count : Nat} {queries : List Query}
    (hend : (Search.start tag (some sources)).turns r tag ((List.range count).map stores)
      = (.ended result, queries)) : r.FirstUsable stores tag sources result queries := by
  refine firstUsable_of_turns (fun j values hj ↦ ?_) hend
  obtain ⟨hlt, rfl⟩ := List.getElem?_eq_some_iff.mp hj
  rw [List.getElem_map, List.getElem_range]

/-- A search that has a turn more than candidates ends at its first usable candidate. -/
theorem exists_firstUsable_of_turns (r : Resolver) (tag : Tag) (stores : Nat → ValueStore)
    {count : Nat} (hcount : sources.length < count) :
    ∃ result queries, (Search.start tag (some sources)).turns r tag ((List.range count).map stores)
      = (.ended result, queries) ∧ r.FirstUsable stores tag sources result queries := by
  obtain ⟨result, queries, hend⟩ := Search.exists_turns_eq_ended r tag stores hcount
  exact ⟨result, queries, hend, firstUsable_of_ended hend⟩

end Resolver

end RoadWeather
