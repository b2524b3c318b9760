import RoadWeather.Proofs.CheckedSources
import RoadWeather.Proofs.FirstUsable

/-!
# More data never hurts

A resolver covers another one for an input if every candidate that the other one could use, it can
use as well (`Resolver.Covers`). It need not get the same values, and it may be able to use more.
This is weaker than to have all of the same data: a value may be replaced by any other one that is
plausible and can be converted.

## The argument

Whatever the first usable candidate was, the covering resolver does not get past it
(`Resolver.SkippedBefore.le_of_canUse`). It could stop before for a candidate that it refuses, which
is how new data can do harm: a candidate that cannot feed the input goes unnoticed only as long as
there is no value for it. Where the catalog has nothing to say against the sources there is no such
candidate (`Resolver.not_refuses`), so the covering resolver stops for a value, and at no later
candidate (`Resolver.FirstUsable.exists_priority_le`).

Only the second resolver has to have the catalog of the check. The first one may have any other, and
find less or more wrong with the sources.
-/

namespace RoadWeather

namespace Resolver

/-! ## What can be used -/

/-- The candidate gives the input some value. -/
def CanUse (r : Resolver) (tag : Tag) (s : DataSource) : Prop :=
  ∃ timed value, r.Usable tag s timed value

/-- What another resolver can use for an input of a description, this one can use. -/
def Covers (r other : Resolver) (d : Description) (tag : Tag) : Prop :=
  ∀ sources, d.sources? tag = some sources → ∀ s ∈ sources, other.CanUse tag s → r.CanUse tag s

variable {r r' : Resolver} {d : Description} {tag : Tag} {s : DataSource}
  {stores stores' : Nat → ValueStore} {sources : List DataSource} {n m : Nat}
  {result : Resolution.Result} {queries queries' : List Query}

theorem covers_of_kept {values : ValueStore} (kept : ∀ q timed,
    (r.values q).answer = .ok (some timed) → values q = r.values q) :
    { r with values }.Covers r d tag := by
  rintro sources - s - ⟨timed, value, p, ⟨known, ⟨inTime, answer⟩, accepted⟩, convert⟩
  have hkept : values s.query = r.values s.query := kept s.query timed answer
  refine ⟨timed, value, p, ⟨known, ⟨fun limit hlimit ↦ ?_, ?_⟩, accepted⟩, convert⟩
  · exact Nat.le_trans (Nat.le_of_eq (congrArg Reply.delay hkept)) (inTime limit hlimit)
  · exact (congrArg Reply.answer hkept).trans answer

/-! ## Where a search ends -/

/-- A search does not get past a candidate that it can use. -/
theorem SkippedBefore.le_of_canUse (h : r.SkippedBefore stores tag sources m)
    (candidate : sources[n]? = some s) (usable : (r.inTurn stores n).CanUse tag s) : m ≤ n := by
  refine Nat.not_lt.mp fun hlt ↦ ?_
  obtain ⟨s', failure, candidate', skips⟩ := h n hlt
  obtain rfl := Option.some.inj (candidate.symm.trans candidate')
  obtain ⟨timed, value, usable⟩ := usable
  cases (outcome_of_skips skips).symm.trans (outcome_of_usable usable)

/-- A search that the catalog has nothing to say against ends with a value or after all of its
candidates. -/
theorem EndsAt.exists_ok (h : r.EndsAt stores tag sources n result)
    (fits : ∀ s ∈ sources, Description.mismatch? r.catalog tag s = none)
    (hn : n < sources.length) : ∃ v, result = .ok v ∧ v.priority = n := by
  cases h with
  | used candidate usable => exact ⟨_, rfl, rfl⟩
  | refused candidate refuses =>
    have hfits := fits _ (List.mem_of_getElem? candidate)
    exact absurd refuses (not_refuses (r := r.inTurn stores n) hfits _)
  | exhausted => exact absurd hn (Nat.lt_irrefl _)

/-- **A search that can use what another one could ends no later.** -/
theorem FirstUsable.exists_priority_le {v : ResolvedValue}
    (h : r.FirstUsable stores tag sources (.ok v) queries)
    (h' : r'.FirstUsable stores' tag sources result queries')
    (fits : ∀ s ∈ sources, Description.mismatch? r'.catalog tag s = none)
    (covers : ∀ n s, sources[n]? = some s → (r.inTurn stores n).CanUse tag s →
      (r'.inTurn stores' n).CanUse tag s) :
    ∃ v', result = .ok v' ∧ v'.priority ≤ v.priority := by
  obtain ⟨-, candidate, timed, usable, -⟩ := (h.ok_iff v).mp rfl
  obtain ⟨n, hbefore, -, hends, -⟩ := h'.decided
  have hle : n ≤ v.priority :=
    hbefore.le_of_canUse candidate (covers _ _ candidate ⟨timed, v.value, usable⟩)
  obtain ⟨hlength, -⟩ := List.getElem?_eq_some_iff.mp candidate
  obtain ⟨v', rfl, rfl⟩ := hends.exists_ok fits (Nat.lt_of_le_of_lt hle hlength)
  exact ⟨v', rfl, hle⟩

theorem exists_priority_le_of_resolve (checked : d.checkSources r'.catalog = .ok ())
    (covers : r'.Covers r d tag) {v : ResolvedValue} (h : (r.resolve d tag).result = .ok v) :
    ∃ v', (r'.resolve d tag).result = .ok v' ∧ v'.priority ≤ v.priority := by
  rw [resolve] at h ⊢
  cases hsources : d.sources? tag with
  | none =>
    rw [hsources] at h
    cases h
  | some sources =>
    rw [hsources] at h
    have hfirst := r.firstUsable_resolveSources tag sources
    rw [h] at hfirst
    exact hfirst.exists_priority_le (r'.firstUsable_resolveSources tag sources)
      (fun s hs ↦ Description.mismatch?_of_checkSources checked hsources hs)
      fun n s candidate ↦ covers sources hsources s (List.mem_of_getElem? candidate)

theorem isComplete_assemble_of_covers (checked : d.checkSources r'.catalog = .ok ())
    (covers : ∀ tag, d.Needs tag → r'.Covers r d tag)
    (h : (r.assemble d).inputs.isComplete = true) :
    (r'.assemble d).inputs.isComplete = true := by
  have resolves : ∀ tag, d.Needs tag → (∃ v, (r.resolve d tag).result = .ok v) →
      ∃ v, (r'.resolve d tag).result = .ok v := by
    rintro tag needs ⟨v, hv⟩
    obtain ⟨v', hv', -⟩ := exists_priority_le_of_resolve checked (covers tag needs) hv
    exact ⟨v', hv'⟩
  obtain ⟨hobservations, hforecasts⟩ := (RunInputs.assemble_agrees r d).complete.mp h
  exact (RunInputs.assemble_agrees r' d).complete.mpr
    ⟨fun tag ↦ resolves (.observation tag) trivial (hobservations tag),
      fun tag hrequires ↦ resolves (.forecast tag) hrequires (hforecasts tag hrequires)⟩

/-- **More data never hurts a checked description.** Take two resolvers, the second one with the
catalog of the check. If the second can use every candidate for an input that the first can use, and
the first resolves the input, then so does the second, with a candidate that is no later in the
list. The same holds of searches while the stores change, what can be used being said of each
candidate in its turn. If it is so for everything that a run needs, inputs that are complete with
the first are complete with the second. -/
theorem priority_le_of_covers (r r' : Resolver) (d : Description)
    (checked : d.checkSources r'.catalog = .ok ()) :
    (∀ tag v, r'.Covers r d tag → (r.resolve d tag).result = .ok v →
      ∃ v', (r'.resolve d tag).result = .ok v' ∧ v'.priority ≤ v.priority) ∧
    (∀ tag sources (stores stores' : Nat → ValueStore) count v queries,
      d.sources? tag = some sources →
      (∀ n s, sources[n]? = some s → (r.inTurn stores n).CanUse tag s →
        (r'.inTurn stores' n).CanUse tag s) →
      sources.length < count →
      (Search.start tag (some sources)).turns r tag ((List.range count).map stores)
        = (.ended (.ok v), queries) →
      ∃ v' queries', (Search.start tag (some sources)).turns r' tag
          ((List.range count).map stores') = (.ended (.ok v'), queries') ∧
        v'.priority ≤ v.priority) ∧
    ((∀ tag, d.Needs tag → r'.Covers r d tag) → (r.assemble d).inputs.isComplete = true →
      (r'.assemble d).inputs.isComplete = true) := by
  refine ⟨fun tag v covers h ↦ exists_priority_le_of_resolve checked covers h, ?_,
    isComplete_assemble_of_covers checked⟩
  intro tag sources stores stores' count v queries hsources covers hcount hend
  obtain ⟨result, _, hfirst, h⟩ := r.exists_firstUsable_of_turns tag stores hcount
  cases hfirst.symm.trans hend
  obtain ⟨result', queries', hsecond, h'⟩ := r'.exists_firstUsable_of_turns tag stores' hcount
  obtain ⟨v', rfl, hle⟩ := h.exists_priority_le h'
    (fun s hs ↦ Description.mismatch?_of_checkSources checked hsources hs) covers
  exact ⟨v', queries', hsecond, hle⟩

end Resolver

/-! ## The mast repaired -/

namespace Station

/-- Where there has been an error there is a measurement, and else nothing changes. -/
def repaired : ValueStore := fun q ↦
  match (values q).answer with
  | .error _ => ⟨5, .ok (some ⟨noon, 3⟩)⟩
  | .ok _ => values q

theorem covers_repaired (tag : Tag) :
    { resolver with values := repaired }.Covers resolver description tag := by
  refine Resolver.covers_of_kept fun q timed answer ↦ ?_
  rw [repaired, show (values q).answer = .ok (some timed) from answer]
  rfl

/-- With the mast down the air temperature is that of the spare thermometer. With the mast repaired
it is one that comes no later in the list, and is in fact that of the mast. -/
theorem airTemperature_repaired :
    description.checkSources resolver.catalog = .ok () ∧
      (resolver.resolve description (.observation .airTemperature)).result
        = .ok ⟨2, noon, sensor "Temperature in [deg C] @ 150cm above ground" "spare", 1⟩ ∧
      (∃ v, ({ resolver with values := repaired }.resolve description
        (.observation .airTemperature)).result = .ok v ∧ v.priority ≤ 1) ∧
      ({ resolver with values := repaired }.resolve description
        (.observation .airTemperature)).result
        = .ok ⟨3, noon, sensor "Temperature in [deg C] @ 200cm above ground" "mast", 0⟩ := by
  have hspare : (resolver.resolve description (.observation .airTemperature)).result
      = .ok ⟨2, noon, sensor "Temperature in [deg C] @ 150cm above ground" "spare", 1⟩ := by
    rfl
  have hcovers := Resolver.priority_le_of_covers resolver { resolver with values := repaired }
    description checkSources_standard
  exact ⟨checkSources_standard, hspare, hcovers.1 _ _ (covers_repaired _) hspare, by rfl⟩

end Station

end RoadWeather
