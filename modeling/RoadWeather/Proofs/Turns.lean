import RoadWeather.Inputs.Turns

/-!
# What turns come to

Searches that take turns do not disturb each other: each is where it would be after its own turns
alone, having made the same queries (`Searches.run_eq`). Everything about several searches is
therefore a statement about one of them.

## The invariant

It is one of a single search, and it needs a store that stays as it is. The resolution that the
search still has before it, `Search.remainder`, has the same result after every turn, and the
queries made in a turn are the first ones of it. So a search that has ended has come to what the
resolution comes to, and has asked the same (`Search.eq_of_result?_turns`).

## Enough turns

A turn either ends a search or takes a candidate from it (`Search.turnsLeft_turn_le`), and one more
is needed to give up. With one turn more than candidates a search has ended
(`Search.exists_turns_eq_ended`), whatever the stores were, and turns after that change nothing. For
searches at the same time it is enough that each of them has so many turns (`Searches.Suffice`),
wherever these stand in between the turns of the others.
-/

namespace RoadWeather

namespace Search

variable (r : Resolver) (tag : Tag)

/-! ## The resolution that a search has before it -/

/-- What a search still does if the store stays as it is. -/
def remainder : Search → Resolution
  | trying skipped rest => r.tryFrom tag skipped rest
  | ended result => { result }

@[simp] theorem remainder_start (sources : Option (List DataSource)) :
    (start tag sources).remainder r tag = r.resolveSources tag sources := by
  cases sources <;> rfl

theorem result_remainder_turn (search : Search) :
    ((search.turn r tag).1.remainder r tag).result = (search.remainder r tag).result := by
  cases search with
  | ended result => rfl
  | trying skipped rest =>
    cases rest with
    | nil => rfl
    | cons s rest =>
      rw [remainder, turn, Resolver.tryFrom]
      cases r.outcome tag s <;> rfl

theorem queries_remainder_turn (search : Search) :
    (search.turn r tag).2 ++ ((search.turn r tag).1.remainder r tag).queries
      = (search.remainder r tag).queries := by
  cases search with
  | ended result => rfl
  | trying skipped rest =>
    cases rest with
    | nil => rfl
    | cons s rest =>
      rw [remainder, turn, Resolver.tryFrom]
      cases r.outcome tag s with
      | skipped failure => rfl
      | usable timed value => exact List.append_nil _
      | misconfigured e => exact List.append_nil _

/-! ## Turns while the store stays as it is -/

variable {r}

theorem result_remainder_turns {stores : List ValueStore} (h : ∀ v ∈ stores, v = r.values)
    (search : Search) :
    ((search.turns r tag stores).1.remainder r tag).result
      = (search.remainder r tag).result := by
  induction stores generalizing search with
  | nil => rfl
  | cons v later ih =>
    obtain rfl := h v List.mem_cons_self
    simpa [ih fun v hv ↦ h v (List.mem_cons_of_mem _ hv)] using result_remainder_turn r tag search

theorem queries_remainder_turns {stores : List ValueStore} (h : ∀ v ∈ stores, v = r.values)
    (search : Search) :
    (search.turns r tag stores).2 ++ ((search.turns r tag stores).1.remainder r tag).queries
      = (search.remainder r tag).queries := by
  induction stores generalizing search with
  | nil => rfl
  | cons v later ih =>
    obtain rfl := h v List.mem_cons_self
    simpa [ih fun v hv ↦ h v (List.mem_cons_of_mem _ hv)] using queries_remainder_turn r tag search

variable {tag}

/-! ## Turns until the end

Every turn of a search that is under way leaves it one candidate less. So the number of candidates
bounds the turns, whatever the stores are. -/

theorem turns_ended (r : Resolver) (tag : Tag) (stores : List ValueStore)
    (result : Resolution.Result) :
    (ended result).turns r tag stores = (ended result, []) := by
  induction stores with
  | nil => rfl
  | cons v later ih => simp [ih]

/-- How many turns a search has at most before it. -/
def turnsLeft : Search → Nat
  | trying _ rest => rest.length + 1
  | ended _ => 0

theorem turnsLeft_turn_le (r : Resolver) (tag : Tag) (search : Search) :
    (search.turn r tag).1.turnsLeft ≤ search.turnsLeft - 1 := by
  cases search with
  | ended result => exact Nat.le_refl _
  | trying skipped rest =>
    cases rest with
    | nil => exact Nat.le_refl _
    | cons s rest =>
      rw [turn]
      cases r.outcome tag s with
      | skipped failure => exact Nat.le_refl _
      | usable timed value => exact Nat.zero_le _
      | misconfigured e => exact Nat.zero_le _

theorem turnsLeft_turns_le (r : Resolver) (tag : Tag) (stores : List ValueStore)
    (search : Search) :
    (search.turns r tag stores).1.turnsLeft ≤ search.turnsLeft - stores.length := by
  induction stores generalizing search with
  | nil => exact Nat.le_refl _
  | cons v later ih =>
    have hfirst := turnsLeft_turn_le { r with values := v } tag search
    refine Nat.le_trans (ih (search.turn { r with values := v } tag).1) ?_
    rw [List.length_cons]
    omega

theorem eq_ended_of_result? {search : Search} {result : Resolution.Result}
    (h : search.result? = some result) : search = ended result := by
  cases search with
  | trying skipped rest => cases h
  | ended result' => rw [Option.some.inj h]

theorem isSome_result?_of_turnsLeft {search : Search} (h : search.turnsLeft = 0) :
    search.result?.isSome := by
  cases search with
  | ended result => rfl
  | trying skipped rest => cases h

/-- A search with enough turns has ended, whatever the stores were. -/
theorem isSome_result?_turns (r : Resolver) (tag : Tag) {stores : List ValueStore} {search : Search}
    (h : search.turnsLeft ≤ stores.length) :
    (search.turns r tag stores).1.result?.isSome := by
  refine isSome_result?_of_turnsLeft ?_
  have := turnsLeft_turns_le r tag stores search
  omega

theorem exists_turns_eq_ended (r : Resolver) (tag : Tag) (stores : Nat → ValueStore)
    {sources : List DataSource} {count : Nat} (hcount : sources.length < count) :
    ∃ result queries, (start tag (some sources)).turns r tag ((List.range count).map stores)
      = (ended result, queries) := by
  have hlength : (start tag (some sources)).turnsLeft ≤ ((List.range count).map stores).length := by
    rw [List.length_map, List.length_range]
    exact hcount
  obtain ⟨result, hresult⟩ := Option.isSome_iff_exists.mp (isSome_result?_turns r tag hlength)
  exact ⟨result, _, Prod.ext (eq_ended_of_result? hresult) rfl⟩

/-- **A search comes to what the resolution comes to**, however its turns fall, as long as the store
stays as it is. -/
theorem eq_of_result?_turns {stores : List ValueStore} (h : ∀ v ∈ stores, v = r.values)
    {search : Search} {result : Resolution.Result}
    (hend : (search.turns r tag stores).1.result? = some result) :
    result = (search.remainder r tag).result ∧
      (search.turns r tag stores).2 = (search.remainder r tag).queries := by
  have hresult := result_remainder_turns tag h search
  have hqueries := queries_remainder_turns tag h search
  rw [eq_ended_of_result? hend] at hresult hqueries
  exact ⟨hresult, (List.append_nil _).symm.trans hqueries⟩

/-- A resolution is what enough turns come to while the store stays as it is. -/
theorem turns_replicate (r : Resolver) (tag : Tag) (sources : Option (List DataSource)) :
    (start tag sources).turns r tag (List.replicate (start tag sources).turnsLeft r.values)
      = (ended (r.resolveSources tag sources).result,
        (r.resolveSources tag sources).queries) := by
  have hlength : (start tag sources).turnsLeft
      ≤ (List.replicate (start tag sources).turnsLeft r.values).length :=
    Nat.le_of_eq List.length_replicate.symm
  obtain ⟨result, hresult⟩ := Option.isSome_iff_exists.mp
    (isSome_result?_turns r tag hlength)
  obtain ⟨hsame, hqueries⟩ :=
    eq_of_result?_turns (fun v hv ↦ List.eq_of_mem_replicate hv) hresult
  rw [remainder_start] at hsame hqueries
  exact Prod.ext (by rw [eq_ended_of_result? hresult, hsame]) hqueries

theorem result?_turns_replicate (r : Resolver) (d : Description) (tag : Tag) :
    ((start tag (d.sources? tag)).turns r tag
      (List.replicate (start tag (d.sources? tag)).turnsLeft r.values)).1.result?
      = some (r.resolve d tag).result := by
  rw [turns_replicate]
  rfl

end Search

namespace Searches

variable {r : Resolver}

/-! ## Searches do not disturb each other

A turn of one search leaves all others where they are. To follow a single one, it is enough to keep
its own turns, in their order and with the stores that they had. -/

/-- The states of the store in the turns of an input. -/
def storesOf (tag : Tag) (turns : List Turn) : List ValueStore :=
  (turns.filter (·.tag = tag)).map Turn.values

@[simp] theorem storesOf_cons (tag : Tag) (t : Turn) (turns : List Turn) :
    storesOf tag (t :: turns)
      = if t.tag = tag then t.values :: storesOf tag turns else storesOf tag turns := by
  by_cases h : t.tag = tag <;> simp [storesOf, h]

theorem take_eq {searches : Searches} {t : Turn} {search : Search}
    (h : searches.search? t.tag = some search) :
    searches.take r t =
      { search? := fun tag ↦
          if tag = t.tag then some (search.turn { r with values := t.values } t.tag).1
          else searches.search? tag
        queries := searches.queries ++
          (search.turn { r with values := t.values } t.tag).2.map (t.tag, ·) } := by
  rw [take, h]

theorem queriesFor_append (searches : Searches) (tag other : Tag) (queries : List Query)
    (search? : Tag → Option Search) :
    (⟨search?, searches.queries ++ queries.map (other, ·)⟩ : Searches).queriesFor tag
      = searches.queriesFor tag ++ if other = tag then queries else [] := by
  rw [queriesFor, queriesFor, queriesIn, queriesIn, List.filter_append, List.map_append,
    List.filter_map, List.map_map]
  by_cases h : other = tag <;> simp [h, Function.comp_def]

/-- A search is where its own turns bring it, and has made its own queries. -/
theorem run_eq (turns : List Turn) {searches : Searches} {tag : Tag} {search : Search}
    (h : searches.search? tag = some search) :
    (searches.run r turns).search? tag = some (search.turns r tag (storesOf tag turns)).1 ∧
      (searches.run r turns).queriesFor tag
        = searches.queriesFor tag ++ (search.turns r tag (storesOf tag turns)).2 := by
  -- Every turn leaves searches behind that have made queries, so the start is any such searches.
  induction turns generalizing searches search with
  | nil => exact ⟨h, (List.append_nil _).symm⟩
  | cons t turns ih =>
    rw [run, List.foldl_cons, ← run, storesOf_cons]
    by_cases htag : t.tag = tag
    · subst htag
      have hfound : (searches.take r t).search? t.tag
          = some (search.turn { r with values := t.values } t.tag).1 := by
        rw [take_eq h]
        exact if_pos rfl
      have hnext := ih hfound
      rw [take_eq h, queriesFor_append, if_pos rfl] at hnext
      rw [take_eq h, if_pos rfl]
      exact ⟨hnext.1, by rw [hnext.2, List.append_assoc]; rfl⟩
    · rw [if_neg htag]
      cases hother : searches.search? t.tag with
      | none =>
        have : searches.take r t = searches := by rw [take, hother]
        rw [this]
        exact ih h
      | some other =>
        have hfound : (searches.take r t).search? tag = some search := by
          rw [take_eq hother]
          exact (if_neg (Ne.symm htag)).trans h
        have hnext := ih hfound
        rw [take_eq hother, queriesFor_append, if_neg htag, List.append_nil] at hnext
        rw [take_eq hother]
        exact hnext

theorem queriesFor_run_of_none (turns : List Turn) {searches : Searches} {tag : Tag}
    (h : searches.search? tag = none) :
    (searches.run r turns).search? tag = none ∧
      (searches.run r turns).queriesFor tag = searches.queriesFor tag := by
  induction turns generalizing searches with
  | nil => exact ⟨h, rfl⟩
  | cons t turns ih =>
    rw [run, List.foldl_cons, ← run]
    cases hother : searches.search? t.tag with
    | none =>
      have : searches.take r t = searches := by rw [take, hother]
      rw [this]
      exact ih h
    | some other =>
      have htag : t.tag ≠ tag := fun htag ↦ by
        rw [htag, h] at hother
        cases hother
      have hnotFound : (searches.take r t).search? tag = none := by
        rw [take_eq hother]
        exact (if_neg (Ne.symm htag)).trans h
      have hnext := ih hnotFound
      rw [take_eq hother, queriesFor_append, if_neg htag, List.append_nil] at hnext
      rw [take_eq hother]
      exact hnext

/-! ## The searches for the inputs of a description -/

/-- Turns that let every search try all its candidates, and give up after the last. -/
def Suffice (d : Description) (tags : List Tag) (turns : List Turn) : Prop :=
  ∀ tag ∈ tags, (d.sources? tag).elim 0 (·.length + 1) ≤ (storesOf tag turns).length

variable {d : Description} {tags : List Tag} {turns : List Turn} {tag : Tag}

theorem result?_run_start (r : Resolver) (turns : List Turn) (htag : tag ∈ tags) :
    ((start d tags).run r turns).result? tag
        = ((Search.start tag (d.sources? tag)).turns r tag (storesOf tag turns)).1.result? ∧
      ((start d tags).run r turns).queriesFor tag
        = ((Search.start tag (d.sources? tag)).turns r tag (storesOf tag turns)).2 := by
  have hstart : (start d tags).search? tag = some (.start tag (d.sources? tag)) := if_pos htag
  obtain ⟨hsearch, hqueries⟩ := run_eq (r := r) turns hstart
  exact ⟨by rw [result?, hsearch]; rfl, hqueries⟩

theorem queriesFor_run_start_eq_nil (r : Resolver) (turns : List Turn) (htag : tag ∉ tags) :
    ((start d tags).run r turns).queriesFor tag = [] := by
  have hstart : (start d tags).search? tag = none := if_neg htag
  exact (queriesFor_run_of_none turns hstart).2

theorem isSome_result?_run (r : Resolver) (htag : tag ∈ tags) (h : Suffice d tags turns) :
    (((start d tags).run r turns).result? tag).isSome := by
  rw [(result?_run_start r turns htag).1]
  refine Search.isSome_result?_turns r tag (Nat.le_trans (Nat.le_of_eq ?_) (h tag htag))
  cases d.sources? tag <;> rfl

/-- **Interleaved searches come to what single resolutions come to**, and ask the same, as long as
the store stays as it is. -/
theorem eq_of_result?_run (steady : ∀ t ∈ turns, t.values = r.values) (htag : tag ∈ tags)
    {result : Resolution.Result}
    (hend : ((start d tags).run r turns).result? tag = some result) :
    result = (r.resolve d tag).result ∧
      ((start d tags).run r turns).queriesFor tag = (r.resolve d tag).queries := by
  have hstores : ∀ v ∈ storesOf tag turns, v = r.values := by
    intro v hv
    obtain ⟨t, ht, rfl⟩ := List.mem_map.mp hv
    exact steady t (List.mem_filter.mp ht).1
  obtain ⟨hresult, hqueries⟩ := result?_run_start (d := d) r turns htag
  rw [hresult] at hend
  rw [hqueries, Resolver.resolve, ← Search.remainder_start]
  exact Search.eq_of_result?_turns hstores hend

end Searches

end RoadWeather
