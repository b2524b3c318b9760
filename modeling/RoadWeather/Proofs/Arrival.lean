import RoadWeather.Proofs.Calendar
import RoadWeather.Proofs.LatestValues
import RoadWeather.Store.Filling

/-!
# Values do not depend on the order of their arrival

A store keeps the latest of the values that it takes in, so it comes to the same in whatever order
they arrive, how often they do, and how tasks interleave that take them in. One thing must not
happen: two values with one key and one instant that differ, since of these the last one counts
(`Consistent`). Two values may well denote one instant on different clocks. They are then different
values, and a store would keep the one that came last.

## The construction

What arrives is taken apart into writes, each of which is made under one lock. An operation is its
writes (`Store.perform_eq_writeAll`), and tasks that run at the same time are lists of writes of
which any turn makes the first one of some task (`Filling.turn`). Nothing fixes the turns. So the
statement quantifies over all lists of turns, those included in which a task comes to its end long
before another one begins.

## The argument

It is one about single records. Two of them can trade places (`LatestValues.record_comm`), and one
that is taken in twice counts once (`LatestValues.record_idem`). Both come down to the later of two
values, where only a tie would make a difference. Lists of records then come to the same if they
have the same members (`LatestValues.recordAll_eq_of_mem_iff`), which is all that is ever used: it
covers other orders and repetitions alike.

## The invariant

Any turns make some of the writes and leave the others (`Filling.Splits`). One turn moves one write
from those left to those made (`Filling.exists_splits_turn`), so once all tasks are done the writes
made are all of them, in some order. Nothing is lost and nothing is added. On the way a store only
gains: an answer that is there stays there, and is replaced by none that is earlier
(`Filling.turn_grows`).
-/

namespace RoadWeather

/-! ## Two records

Of two values the later one is kept, so only a tie could depend on the order. Records with one key
that tie agree in all that is kept of them. -/

/-- Two records of one key and one instant are alike in everything that is kept of them. -/
def ValueRecord.Agrees (r r' : ValueRecord) : Prop :=
  r.key = r'.key → r.instant = r'.instant →
    r.timed.timestamp.offset = r'.timed.timestamp.offset ∧ r.timed.value = r'.timed.value

/-- Records of which no two with a key and an instant differ. -/
def Consistent (records : List ValueRecord) : Prop :=
  ∀ r ∈ records, ∀ r' ∈ records, r.Agrees r'

theorem ValueRecord.Agrees.timed_eq {r r' : ValueRecord} (h : r.Agrees r') (hkey : r.key = r'.key)
    (hinstant : r.instant = r'.instant) : r.timed = r'.timed := by
  obtain ⟨hoffset, hvalue⟩ := h hkey hinstant
  have htimestamp : r.timed.timestamp = r'.timed.timestamp :=
    Timestamp.eq_of_instant_eq hinstant hoffset
  calc r.timed = ⟨r.timed.timestamp, r.timed.value⟩ := rfl
    _ = r'.timed := by rw [htimestamp, hvalue]

namespace TimedValue

@[simp] theorem later_some (new old : TimedValue) :
    new.later (some old) = if old.timestamp.instant ≤ new.timestamp.instant then new else old := rfl

/-- The latest of three values does not depend on the order of two that do not tie. -/
theorem later_later_comm {v w : TimedValue}
    (h : v.timestamp.instant = w.timestamp.instant → v = w) (old : Option TimedValue) :
    w.later (some (v.later old)) = v.later (some (w.later old)) := by
  cases old with
  | none =>
    rw [later, later, later_some, later_some]
    split <;> split
    · exact (h (by omega)).symm
    · rfl
    · rfl
    · omega
  | some old =>
    simp only [later_some]
    by_cases hv : old.timestamp.instant ≤ v.timestamp.instant
    · by_cases hw : old.timestamp.instant ≤ w.timestamp.instant
      · rw [if_pos hv, if_pos hw]
        split <;> split
        · exact (h (by omega)).symm
        · rfl
        · rfl
        · omega
      · rw [if_pos hv, if_neg hw, if_neg (by omega), if_pos hv]
    · by_cases hw : old.timestamp.instant ≤ w.timestamp.instant
      · rw [if_neg hv, if_pos hw, if_neg (by omega)]
      · rw [if_neg hv, if_neg hw, if_neg hv]

theorem later_later_self (v : TimedValue) (old : Option TimedValue) :
    v.later (some (v.later old)) = v.later old := by
  cases old with
  | none => exact if_pos (Int.le_refl _)
  | some old =>
    rw [later_some v old]
    split
    · exact if_pos (Int.le_refl _)
    · next hlt => exact if_neg hlt

theorem instant_le_later (v old : TimedValue) :
    old.timestamp.instant ≤ (v.later (some old)).timestamp.instant := by
  rw [later_some]
  split
  · assumption
  · exact Int.le_refl _

end TimedValue

/-! ## Lists of records -/

namespace LatestValues

variable {values : LatestValues} {r r' : ValueRecord} {records others : List ValueRecord}

/-- **Two records that do not contradict each other can trade places.** -/
theorem record_comm (h : r.Agrees r') (values : LatestValues) :
    (values.record r).record r' = (values.record r').record r := by
  refine Std.ExtTreeMap.ext_getElem? fun key ↦ ?_
  simp only [getElem?_record]
  by_cases hkey : r.key = key
  · by_cases hkey' : r'.key = key
    · subst hkey
      rw [if_pos hkey', if_pos hkey'.symm, if_pos hkey', if_pos rfl, hkey']
      exact congrArg some (TimedValue.later_later_comm (h.timed_eq hkey'.symm) _)
    · rw [if_neg hkey', if_pos hkey, if_pos hkey, if_neg (fun heq ↦ hkey' (heq.trans hkey))]
  · by_cases hkey' : r'.key = key
    · rw [if_pos hkey', if_neg hkey, if_pos hkey', if_neg (fun heq ↦ hkey (heq.trans hkey'))]
    · rw [if_neg hkey', if_neg hkey, if_neg hkey, if_neg hkey']

/-- **A record that is taken in twice counts once.** -/
theorem record_idem (values : LatestValues) (r : ValueRecord) :
    (values.record r).record r = values.record r := by
  refine Std.ExtTreeMap.ext_getElem? fun key ↦ ?_
  simp only [getElem?_record]
  by_cases hkey : r.key = key
  · subst hkey
    rw [if_pos rfl, if_pos rfl]
    exact congrArg some (TimedValue.later_later_self _ _)
  · rw [if_neg hkey, if_neg hkey]

theorem recordAll_append (values : LatestValues) (records others : List ValueRecord) :
    values.recordAll (records ++ others) = (values.recordAll records).recordAll others :=
  List.foldl_append

theorem recordAll_perm (consistent : Consistent records) (h : records.Perm others) :
    values.recordAll records = values.recordAll others :=
  h.foldl_eq' (fun r hr r' hr' values ↦ record_comm (consistent r hr r' hr') values) values

/-- A record that has been taken in can be taken in again. -/
theorem record_recordAll (consistent : Consistent records) (hr : r ∈ records) :
    (values.recordAll records).record r = values.recordAll records := by
  obtain ⟨before, after, rfl⟩ := List.append_of_mem hr
  have hlast : (before ++ r :: after).Perm ((before ++ after) ++ [r]) :=
    List.perm_middle.trans (List.perm_append_singleton r _).symm
  rw [recordAll_perm consistent hlast, recordAll_append]
  exact record_idem _ r

theorem recordAll_recordAll (consistent : Consistent records) (h : ∀ r ∈ others, r ∈ records) :
    (values.recordAll records).recordAll others = values.recordAll records := by
  induction others with
  | nil => rfl
  | cons r rest ih =>
    have hrest : ∀ r ∈ rest, r ∈ records := fun r hr ↦ h r (List.mem_cons_of_mem _ hr)
    calc (values.recordAll records).recordAll (r :: rest)
        = ((values.recordAll records).record r).recordAll rest := rfl
      _ = (values.recordAll records).recordAll rest := by
        rw [record_recordAll consistent (h r List.mem_cons_self)]
      _ = values.recordAll records := ih hrest

/-- **Lists with the same members come to the same.** -/
theorem recordAll_eq_of_mem_iff (consistent : Consistent records)
    (h : ∀ r, r ∈ others ↔ r ∈ records) : values.recordAll others = values.recordAll records := by
  have hothers : Consistent others := fun r hr r' hr' ↦
    consistent r ((h r).mp hr) r' ((h r').mp hr')
  have hboth : Consistent (others ++ records) := fun r hr r' hr' ↦ by
    have hmem : ∀ r ∈ others ++ records, r ∈ records := fun r hr ↦
      (List.mem_append.mp hr).elim (h r).mp id
    exact consistent r (hmem r hr) r' (hmem r' hr')
  calc values.recordAll others
      = (values.recordAll others).recordAll records :=
        (recordAll_recordAll hothers fun r hr ↦ (h r).mpr hr).symm
    _ = values.recordAll (others ++ records) := (recordAll_append _ _ _).symm
    _ = values.recordAll (records ++ others) := recordAll_perm hboth List.perm_append_comm
    _ = (values.recordAll records).recordAll others := recordAll_append _ _ _
    _ = values.recordAll records := recordAll_recordAll consistent fun r hr ↦ (h r).mp hr

theorem record_grows {key : ValueKey} {v : TimedValue} (h : values[key]? = some v) :
    ∃ w, (values.record r)[key]? = some w ∧ v.timestamp.instant ≤ w.timestamp.instant := by
  rw [getElem?_record]
  by_cases hkey : r.key = key
  · rw [if_pos hkey, hkey, h]
    exact ⟨_, rfl, TimedValue.instant_le_later _ _⟩
  · rw [if_neg hkey]
    exact ⟨v, h, Int.le_refl _⟩

end LatestValues

/-! ## Writes -/

namespace Store

@[simp] theorem writeAll_append (s : Store) (ws others : List Write) :
    s.writeAll (ws ++ others) = (s.writeAll ws).writeAll others :=
  List.foldl_append

theorem writeAll_values (s : Store) (ws : List Write) :
    (s.writeAll ws).measurements = s.measurements.recordAll (ws.filterMap Write.measurement?) ∧
      (s.writeAll ws).forecasts = s.forecasts.recordAll (ws.filterMap Write.forecast?) := by
  induction ws generalizing s with
  | nil => exact ⟨rfl, rfl⟩
  | cons w rest ih =>
    cases w with
    | measurement r => exact ih (s.recordMeasurement r)
    | forecast r => exact ih (s.recordForecast r)
    | description d => exact ih (s.upsert d)

theorem write_grows (s : Store) (w : Write) {query : Query} {v : TimedValue}
    (h : s.latest? query = some v) :
    ∃ v', (s.write w).latest? query = some v' ∧ v.timestamp.instant ≤ v'.timestamp.instant := by
  cases w with
  | measurement r =>
    cases query with
    | latestMeasurement parameter sensorId location => exact LatestValues.record_grows h
    | latestForecast parameter location modelId => exact ⟨v, h, Int.le_refl _⟩
  | forecast r =>
    cases query with
    | latestMeasurement parameter sensorId location => exact ⟨v, h, Int.le_refl _⟩
    | latestForecast parameter location modelId => exact LatestValues.record_grows h
  | description d => exact ⟨v, by cases query <;> exact h, Int.le_refl _⟩

end Store

/-! ## Operations -/

theorem Operation.writes_values (o : Operation) :
    o.writes.filterMap Write.measurement? = o.recorded.measurements ∧
      o.writes.filterMap Write.forecast? = o.recorded.forecasts := by
  have hnone {α : Type} (as : List α) : as.filterMap (fun _ ↦ (none : Option ValueRecord)) = [] :=
    List.filterMap_eq_nil_iff.mpr fun _ _ ↦ rfl
  simp [writes, List.filterMap_append, List.filterMap_map, Function.comp_def,
    Write.measurement?, Write.forecast?, hnone]

theorem Operation.flatMap_writes_values (operations : List Operation) :
    (operations.flatMap writes).filterMap Write.measurement? = measurements operations ∧
      (operations.flatMap writes).filterMap Write.forecast? = forecasts operations := by
  simp only [measurements, forecasts, List.filterMap_flatMap, fun o ↦ (writes_values o).1,
    fun o ↦ (writes_values o).2, and_self]

namespace Store

theorem writeAll_measurements (s : Store) (rs : List ValueRecord) :
    s.writeAll (rs.map .measurement)
      = { s with measurements := s.measurements.recordAll rs } := by
  induction rs generalizing s with
  | nil => rfl
  | cons r rest ih => exact ih (s.recordMeasurement r)

theorem writeAll_forecasts (s : Store) (rs : List ValueRecord) :
    s.writeAll (rs.map .forecast) = { s with forecasts := s.forecasts.recordAll rs } := by
  induction rs generalizing s with
  | nil => rfl
  | cons r rest ih => exact ih (s.recordForecast r)

theorem writeAll_descriptions (s : Store) (ds : List Description) :
    s.writeAll (ds.map .description) = (s.upsertAll ds).1 := by
  induction ds generalizing s with
  | nil => rfl
  | cons d rest ih => exact ih (s.upsert d)

/-- **An operation is its writes**, if nothing else is written in between. -/
theorem perform_eq_writeAll (s : Store) (o : Operation) : s.perform o = s.writeAll o.writes := by
  rw [Operation.writes, writeAll_append, writeAll_append, writeAll_measurements,
    writeAll_forecasts, writeAll_descriptions]
  cases o with
  | recordMeasurement r => rfl
  | recordForecast r => rfl
  | insertSnapshot snapshot => rfl
  | upsert d => rfl
  | loadValues path content =>
    rw [perform, loadValues, Operation.recorded]
    cases decodeFile Snapshot.decoder content with
    | error e => rfl
    | ok snapshot => rfl
  | loadDescriptions path content =>
    rw [perform, loadDescriptions, Operation.described]
    cases decodeFile Description.listDecoder content with
    | error e => rfl
    | ok ds => rfl

end Store

/-! ## Turns

A turn takes the first write off one task. What holds of one turn is carried to any list of turns by
composition of the splits, and not by looking at the tasks again. -/

namespace Filling

variable {f g h : Filling} {made later : List Write}

/-- What comes of some turns: some of the writes have been made, and the others are left. -/
structure Splits (f g : Filling) (made : List Write) : Prop where
  store : g.store = f.store.writeAll made
  perm : (made ++ g.tasks.flatten).Perm f.tasks.flatten

theorem Splits.refl (f : Filling) : f.Splits f [] := ⟨rfl, .refl _⟩

theorem Splits.trans (hfg : f.Splits g made) (hgh : g.Splits h later) :
    f.Splits h (made ++ later) where
  store := by rw [hgh.store, hfg.store, Store.writeAll_append]
  perm := by
    rw [List.append_assoc]
    exact (hgh.perm.append_left made).trans hfg.perm

theorem cons_flatten_set_perm {tasks : List (List Write)} {position : Nat} {w : Write}
    {rest : List Write} (htask : tasks[position]? = some (w :: rest)) :
    (w :: (tasks.set position rest).flatten).Perm tasks.flatten := by
  induction tasks generalizing position with
  | nil => cases htask
  | cons task tasks ih =>
    cases position with
    | zero =>
      obtain rfl := Option.some.inj htask
      exact .refl _
    | succ position =>
      rw [List.set_cons_succ, List.flatten_cons, List.flatten_cons]
      exact List.perm_middle.symm.trans ((ih htask).append_left task)

/-- **One turn makes one write of one task, or none.** -/
theorem exists_splits_turn (f : Filling) (position : Nat) :
    ∃ made, f.Splits (f.turn position) made := by
  rw [turn]
  split
  · next w rest htask => exact ⟨[w], rfl, cons_flatten_set_perm htask⟩
  · exact ⟨[], Splits.refl f⟩
  · exact ⟨[], Splits.refl f⟩

theorem exists_splits_run (f : Filling) (turns : List Nat) :
    ∃ made, f.Splits (f.run turns) made := by
  induction turns generalizing f with
  | nil => exact ⟨[], Splits.refl f⟩
  | cons position rest ih =>
    obtain ⟨made, hturn⟩ := f.exists_splits_turn position
    obtain ⟨later, hrest⟩ := ih (f.turn position)
    exact ⟨made ++ later, hturn.trans hrest⟩

theorem run_append (f : Filling) (earlier later : List Nat) :
    f.run (earlier ++ later) = (f.run earlier).run later :=
  List.foldl_append

theorem getElem?_tasks_turn (f : Filling) (first position : Nat) :
    (f.turn first).tasks[position]?
      = f.tasks[position]?.map fun task ↦ if first = position then task.tail else task := by
  have hother (tasks : List (List Write)) (rest : List Write) (hne : first ≠ position) :
      (tasks.set first rest)[position]? = tasks[position]? := List.getElem?_set_ne hne
  rw [turn]
  by_cases hfirst : first = position
  · subst hfirst
    simp only [if_pos]
    split
    · next w rest htask =>
      rw [List.getElem?_set_self (List.getElem?_eq_some_iff.mp htask).1, htask]
      rfl
    · next htask =>
      rw [htask]
      rfl
    · next htask =>
      rw [htask]
      rfl
  · simp only [if_neg hfirst, Option.map_id']
    split
    · exact hother _ _ hfirst
    · rfl
    · rfl

/-- Each turn of a task takes one write off it, as long as there is one. -/
theorem getElem?_tasks_run (f : Filling) (turns : List Nat) (position : Nat) :
    (f.run turns).tasks[position]?
      = f.tasks[position]?.map fun task ↦ task.drop (turns.count position) := by
  induction turns generalizing f with
  | nil => simp only [run, List.foldl_nil, List.count_nil, List.drop_zero, Option.map_id']
  | cons first rest ih =>
    have hrun : f.run (first :: rest) = (f.turn first).run rest := rfl
    rw [hrun, ih, getElem?_tasks_turn, Option.map_map, List.count_cons]
    congr 1
    funext task
    by_cases hfirst : first = position
    · simp [hfirst, List.drop_tail]
    · simp [hfirst]

theorem isDone_run_iff (f : Filling) (turns : List Nat) :
    (f.run turns).isDone = true ↔
      ∀ position task, f.tasks[position]? = some task → task.length ≤ turns.count position := by
  rw [isDone, List.all_eq_true]
  constructor
  · intro hall position task htask
    have hleft := f.getElem?_tasks_run turns position
    rw [htask] at hleft
    have hempty := hall _ (List.mem_of_getElem? hleft)
    rw [List.isEmpty_iff, List.drop_eq_nil_iff] at hempty
    exact hempty
  · intro hlength task htask
    obtain ⟨position, hposition⟩ := List.getElem?_of_mem htask
    rw [getElem?_tasks_run, Option.map_eq_some_iff] at hposition
    obtain ⟨all, hall, rfl⟩ := hposition
    rw [List.isEmpty_iff, List.drop_eq_nil_iff]
    exact hlength position all hall

/-- Once all tasks are done, all their writes have been made. -/
theorem exists_perm_of_isDone {turns : List Nat} (hdone : (f.run turns).isDone = true) :
    ∃ made, (f.run turns).store = f.store.writeAll made ∧ made.Perm f.tasks.flatten := by
  obtain ⟨made, hstore, hperm⟩ := f.exists_splits_run turns
  have hnone : (f.run turns).tasks.flatten = [] :=
    List.flatten_eq_nil_iff.mpr fun task htask ↦
      List.isEmpty_iff.mp (List.all_eq_true.mp hdone task htask)
  rw [hnone, List.append_nil] at hperm
  exact ⟨made, hstore, hperm⟩

/-- **One turn takes no answer back**, and replaces none by an earlier value. -/
theorem turn_grows (f : Filling) (position : Nat) {query : Query} {v : TimedValue}
    (hv : f.store.latest? query = some v) :
    ∃ w, (f.turn position).store.latest? query = some w ∧
      v.timestamp.instant ≤ w.timestamp.instant := by
  rw [turn]
  split
  · exact f.store.write_grows _ hv
  · exact ⟨v, hv, Int.le_refl _⟩
  · exact ⟨v, hv, Int.le_refl _⟩

theorem run_grows (f : Filling) (turns : List Nat) {query : Query} {v : TimedValue}
    (hv : f.store.latest? query = some v) :
    ∃ w, (f.run turns).store.latest? query = some w ∧
      v.timestamp.instant ≤ w.timestamp.instant := by
  induction turns generalizing f v with
  | nil => exact ⟨v, hv, Int.le_refl _⟩
  | cons position rest ih =>
    obtain ⟨w, hw, hle⟩ := f.turn_grows position hv
    obtain ⟨x, hx, hle'⟩ := ih (f.turn position) hw
    exact ⟨x, hx, Int.le_trans hle hle'⟩

/-! ## Arrivals -/

theorem flatten_start (s : Store) (tasks : List (List Operation)) :
    (start s tasks).tasks.flatten = tasks.flatten.flatMap Operation.writes := by
  rw [start, ← List.flatMap_def, List.flatten_eq_flatMap, List.flatMap_assoc]
  rfl

end Filling

/-- Operations that take in the values of a snapshot and no others, in whatever order and however
often. -/
structure Snapshot.ArrivesIn (c : Snapshot) (operations : List Operation) : Prop where
  measurements : ∀ r, r ∈ Operation.measurements operations ↔ r ∈ c.measurements
  forecasts : ∀ r, r ∈ Operation.forecasts operations ↔ r ∈ c.forecasts

namespace Snapshot

variable {c : Snapshot}

/-- Writes of the values of a snapshot lead to the values that the snapshot itself leads to. -/
theorem ArrivesIn.writeAll (measurements : Consistent c.measurements)
    (forecasts : Consistent c.forecasts) (s : Store) {operations : List Operation} {ws : List Write}
    (h : c.ArrivesIn operations) (hws : ws.Perm (operations.flatMap Operation.writes)) :
    (s.writeAll ws).measurements = (s.insertSnapshot c).measurements ∧
      (s.writeAll ws).forecasts = (s.insertSnapshot c).forecasts := by
  obtain ⟨hmeasurements, hforecasts⟩ := Operation.flatMap_writes_values operations
  have hmeasured := hws.filterMap Write.measurement?
  have hforecasted := hws.filterMap Write.forecast?
  rw [hmeasurements] at hmeasured
  rw [hforecasts] at hforecasted
  rw [(s.writeAll_values ws).1, (s.writeAll_values ws).2]
  exact ⟨LatestValues.recordAll_eq_of_mem_iff measurements fun r ↦
      hmeasured.mem_iff.trans (h.measurements r),
    LatestValues.recordAll_eq_of_mem_iff forecasts fun r ↦
      hforecasted.mem_iff.trans (h.forecasts r)⟩

end Snapshot

theorem Store.performAll_eq_writeAll (s : Store) (operations : List Operation) :
    s.performAll operations = s.writeAll (operations.flatMap Operation.writes) := by
  induction operations generalizing s with
  | nil => rfl
  | cons o rest ih =>
    have hfirst : s.performAll (o :: rest) = (s.perform o).performAll rest := rfl
    rw [hfirst, ih, perform_eq_writeAll, ← writeAll_append, List.flatMap_cons]

/-- **What arrives decides, and not how it does.** The values of a snapshot in which no two
contradict each other lead to the same measurements and forecasts, whatever operations take them in,
in whatever order and however often. Tasks that do so at the same time come to the same, too, once
all are done, which is when each has had a turn for each of its writes. Before and after that, what
the store once answers it goes on to answer, with the same value or with one that is as late. -/
theorem Store.values_of_arrivals (s : Store) (c : Snapshot)
    (measurements : Consistent c.measurements) (forecasts : Consistent c.forecasts) :
    (∀ operations, c.ArrivesIn operations →
      (s.performAll operations).measurements = (s.insertSnapshot c).measurements ∧
      (s.performAll operations).forecasts = (s.insertSnapshot c).forecasts) ∧
    ∀ tasks, c.ArrivesIn tasks.flatten →
      (∀ turns, ((Filling.start s tasks).run turns).isDone = true →
        ((Filling.start s tasks).run turns).store.measurements
          = (s.insertSnapshot c).measurements ∧
        ((Filling.start s tasks).run turns).store.forecasts = (s.insertSnapshot c).forecasts) ∧
      (∀ turns, ((Filling.start s tasks).run turns).isDone = true ↔
        ∀ position operations, tasks[position]? = some operations →
          (operations.flatMap Operation.writes).length ≤ turns.count position) ∧
      ∀ earlier later query v,
        ((Filling.start s tasks).run earlier).store.latest? query = some v →
          ∃ w, ((Filling.start s tasks).run (earlier ++ later)).store.latest? query = some w ∧
            v.timestamp.instant ≤ w.timestamp.instant := by
  refine ⟨fun operations h ↦ ?_, fun tasks h ↦
    ⟨fun turns hdone ↦ ?_, fun turns ↦ ?_, fun earlier later query v hv ↦ ?_⟩⟩
  · rw [performAll_eq_writeAll]
    exact h.writeAll measurements forecasts s (.refl _)
  · obtain ⟨made, hstore, hperm⟩ := Filling.exists_perm_of_isDone hdone
    rw [hstore]
    rw [Filling.flatten_start] at hperm
    exact h.writeAll measurements forecasts s hperm
  · rw [Filling.isDone_run_iff]
    constructor
    · intro hlength position operations htask
      exact hlength position _ (by rw [Filling.start, List.getElem?_map, htask]; rfl)
    · intro hlength position task htask
      rw [Filling.start, List.getElem?_map, Option.map_eq_some_iff] at htask
      obtain ⟨operations, hoperations, rfl⟩ := htask
      exact hlength position operations hoperations
  · rw [Filling.run_append]
    exact Filling.run_grows _ later hv

/-! ## Two sensors -/

namespace Arrival

def place : Location := ⟨60.2, 24.9, none⟩

def noon : Timestamp := ⟨⟨2024, 1, 15, 12, 0, 0, 0, 0⟩, by decide⟩

/-- The same instant on a clock that is two hours ahead. -/
def noonElsewhere : Timestamp := ⟨⟨2024, 1, 15, 14, 0, 0, 0, 7200⟩, by decide⟩

def evening : Timestamp := ⟨⟨2024, 1, 15, 18, 0, 0, 0, 0⟩, by decide⟩

def snapshot : Snapshot where
  measurements := [⟨"air", "mast", place, ⟨evening, -3⟩⟩, ⟨"air", "mast", place, ⟨noon, -1⟩⟩,
    ⟨"air", "spare", place, ⟨noonElsewhere, -2⟩⟩]
  forecasts := [⟨"air", "model", place, ⟨evening, -4⟩⟩]

/-- One task takes the snapshot in as a whole, the other one some of it once more. -/
def tasks : List (List Operation) :=
  [[.insertSnapshot snapshot],
    [.recordMeasurement ⟨"air", "mast", place, ⟨noon, -1⟩⟩,
      .recordForecast ⟨"air", "model", place, ⟨evening, -4⟩⟩]]

end Arrival

/-- In turns of the two tasks the snapshot arrives as if it were taken in once. -/
theorem Arrival.values_of_snapshot :
    Consistent snapshot.measurements ∧ Consistent snapshot.forecasts ∧
      ((Filling.start .empty tasks).run [1, 0, 0, 1, 0, 0]).store.measurements
        = (Store.empty.insertSnapshot snapshot).measurements := by
  have hmeasurements : Consistent snapshot.measurements := by
    intro r hr r' hr'
    simp only [snapshot, List.mem_cons, List.not_mem_nil, or_false] at hr hr'
    rcases hr with rfl | rfl | rfl <;> rcases hr' with rfl | rfl | rfl <;> intro hkey hinstant
    all_goals first
      | exact absurd hinstant (by decide)
      | exact absurd (congrArg ValueKey.sourceId hkey) (by decide)
      | exact ⟨rfl, rfl⟩
  have hforecasts : Consistent snapshot.forecasts := by
    intro r hr r' hr' _ _
    obtain rfl := List.mem_singleton.mp hr
    obtain rfl := List.mem_singleton.mp hr'
    exact ⟨rfl, rfl⟩
  have harrives : snapshot.ArrivesIn tasks.flatten := by
    refine ⟨fun r ↦ ?_, fun r ↦ ?_⟩
    · simp [tasks, snapshot, Operation.measurements, Operation.recorded]
      grind
    · simp [tasks, snapshot, Operation.forecasts, Operation.recorded]
  have h := Store.values_of_arrivals .empty snapshot hmeasurements hforecasts
  exact ⟨hmeasurements, hforecasts, ((h.2 tasks harrives).1 _ (by decide)).1⟩

end RoadWeather
