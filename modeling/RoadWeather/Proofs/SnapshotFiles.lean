import RoadWeather.Proofs.Reloading
import RoadWeather.Proofs.TimestampText
import RoadWeather.Proofs.WholeFiles

/-!
# The values of a snapshot survive a file

A snapshot is written as two lists of records, and each record is found again in its form: its
timestamp since every part of it is in the text, its numbers as long as they are finite. So a file
with a written snapshot decodes to the snapshot, and to load the file is to take the snapshot in,
whatever is in the store by then (`Snapshot.SurvivesIn`).

## What cannot be written

Two things stand in the way of a text. A number that is not finite is written as `null` and is then
missing. A timestamp may be one that no text has room for: of a negative year, or with an offset of
a day and more or with seconds in it. The second makes writing fail, the first does not. So both are
conditions here.

The other way round there are no conditions. What was read from a text has timestamps with a text
(`Snapshot.hasText_of_decoder`), whoever has written it.
-/

namespace RoadWeather

open Json Draft

/-! ## Records -/

/-- The numbers of a record: those of its place, and its value. -/
def ValueRecord.numbers (r : ValueRecord) : List Float := r.location.numbers ++ [r.timed.value]

def Snapshot.numbers (c : Snapshot) : List Float :=
  (c.measurements ++ c.forecasts).flatMap ValueRecord.numbers

theorem Timestamp.decoder_toJson {t : Timestamp} (h : t.HasText) :
    decoder (ofJson t.toJson) = .ok t := by
  rw [toJson, ofJson, decoder, wanted]
  simp only [bind, Except.bind, ofText_toText h]

namespace ValueRecord

variable {sourceField : String} {r : ValueRecord} {d : Draft}

/-- The fields of a record, as they may be written. -/
def forms (sourceField : String) (r : ValueRecord) : List FieldForm :=
  [.fixed "parameter" (.string r.parameter), .fixed sourceField (.string r.sourceId),
    ⟨"location", IsRecord r.location.forms, False⟩,
    .fixed "timestamp" r.timed.timestamp.toJson, .fixed "value" (.double r.timed.value)]

theorem reads_forms (sourceField : String) (h : ∀ x ∈ r.numbers, x.isFinite = true)
    (htime : r.timed.timestamp.HasText) :
    (fields sourceField).Reads (r.forms sourceField)
      (r.parameter, r.sourceId, r.location, r.timed.timestamp, r.timed.value) := by
  have hlocation : ∀ x ∈ r.location.numbers, x.isFinite = true := fun x hx ↦
    h x (List.mem_append_left _ hx)
  have hfinite := h r.timed.value (List.mem_append_right _ List.mem_cons_self)
  exact .and (Fields.reads_fixed (Decoder.string_ofJson r.parameter))
    (.and (Fields.reads_fixed (Decoder.string_ofJson r.sourceId))
      (.and (Fields.reads_one (fun _ ↦ Location.decoder_of_isRecord hlocation) False.elim)
        (.and (Fields.reads_fixed (Timestamp.decoder_toJson htime))
          (Fields.reads_fixed (Decoder.double_ofJson hfinite)))))

theorem decoder_of_isRecord (typeName : String)
    (hfield : sourceField ∉ ["parameter", "location", "timestamp", "value"])
    (h : ∀ x ∈ r.numbers, x.isFinite = true) (htime : r.timed.timestamp.HasText)
    (hd : IsRecord (r.forms sourceField) d) (hskip : d.skip = .ok ()) :
    decoder typeName sourceField d = .ok r := by
  have hnames : ["parameter", sourceField, "location", "timestamp", "value"].Nodup := by
    simp only [List.mem_cons, List.not_mem_nil, or_false, not_or] at hfield
    simp [hfield, Ne.symm hfield.1]
  rw [decoder, (reads_forms sourceField h htime).decoder_eq hnames hd hskip]
  rfl

theorem isRecord_toJson (sourceField : String) (r : ValueRecord) :
    IsRecord (r.forms sourceField) (ofJson (r.toJson sourceField)) :=
  KeptMembers.isRecord_ofJson
    (.keep rfl (.keep rfl (.keep r.location.isRecord_toJson (.keep rfl (.keep rfl .nil)))))

theorem isExact_toJson (sourceField : String) (r : ValueRecord) :
    (r.toJson sourceField).IsExact :=
  ⟨trivial, trivial, r.location.isExact_toJson, trivial, isExact_double r.timed.value, trivial⟩

end ValueRecord

namespace Snapshot

variable {c : Snapshot} {d : Draft} {text : List Char}

/-! ## Snapshots -/

/-- The fields of a snapshot, as they may be written. A list without records may be left out. -/
def forms (c : Snapshot) : List FieldForm :=
  [⟨"measurements", IsListOf (fun r d ↦ IsRecord (r.forms "sensor_id") d) c.measurements,
      c.measurements = []⟩,
    ⟨"forecasts", IsListOf (fun r d ↦ IsRecord (r.forms "model_id") d) c.forecasts,
      c.forecasts = []⟩]

theorem decoder_of_isRecord (h : ∀ x ∈ c.numbers, x.isFinite = true)
    (htimes : ∀ t ∈ c.timestamps, t.HasText) (hd : IsRecord c.forms d) (hskip : d.skip = .ok ()) :
    decoder d = .ok c := by
  have hrecord : ∀ r ∈ c.measurements ++ c.forecasts,
      (∀ x ∈ r.numbers, x.isFinite = true) ∧ r.timed.timestamp.HasText := fun r hr ↦
    ⟨fun x hx ↦ h x (List.mem_flatMap.mpr ⟨r, hr, hx⟩), htimes _ (List.mem_map.mpr ⟨r, hr, rfl⟩)⟩
  have hmeasurement : ∀ r ∈ c.measurements, ∀ d : Draft, IsRecord (r.forms "sensor_id") d →
      d.skip = .ok () → ValueRecord.measurementDecoder d = .ok r := fun r hr _ ↦
    have hr := hrecord r (List.mem_append_left _ hr)
    ValueRecord.decoder_of_isRecord _ (by decide) hr.1 hr.2
  have hforecast : ∀ r ∈ c.forecasts, ∀ d : Draft, IsRecord (r.forms "model_id") d →
      d.skip = .ok () → ValueRecord.forecastDecoder d = .ok r := fun r hr _ ↦
    have hr := hrecord r (List.mem_append_right _ hr)
    ValueRecord.decoder_of_isRecord _ (by decide) hr.1 hr.2
  have hdefault : ∀ rs : List ValueRecord, rs = [] → some [] = some rs := fun _ heq ↦
    congrArg some heq.symm
  have hreads : fields.Reads c.forms (c.measurements, c.forecasts) :=
    .and (Fields.reads_one (fun _ ↦ Decoder.list_of_isListOf hmeasurement) (hdefault _))
      (Fields.reads_one (fun _ ↦ Decoder.list_of_isListOf hforecast) (hdefault _))
  have hnames : ["measurements", "forecasts"].Nodup := by decide
  rw [decoder, hreads.decoder_eq hnames hd hskip]
  rfl

theorem isRecord_toJson (c : Snapshot) : IsRecord c.forms (ofJson c.toJson) :=
  KeptMembers.isRecord_ofJson (.keep (isListOf_ofJson (ValueRecord.isRecord_toJson _) _)
    (.keep (isListOf_ofJson (ValueRecord.isRecord_toJson _) _) .nil))

theorem isExact_toJson (c : Snapshot) : c.toJson.IsExact := by
  have hlist : ∀ (sourceField : String) (rs : List ValueRecord),
      (Json.array (rs.map (·.toJson sourceField))).IsExact := by
    intro sourceField rs
    refine allExact_iff.mpr fun j hj ↦ ?_
    obtain ⟨r, -, rfl⟩ := List.mem_map.mp hj
    exact r.isExact_toJson sourceField
  exact ⟨hlist "sensor_id" c.measurements, hlist "model_id" c.forecasts, trivial⟩

/-! ## Files -/

/-- Whether a text gives a snapshot back: the text decodes to it, and to load a file of the text
into any store is to take the snapshot in, with the same count and the same store after it. -/
structure SurvivesIn (c : Snapshot) (text : String) : Prop where
  decoded : decode decoder text = .ok c
  loaded : ∀ (s : Store) (path : String), s.loadValues path (.ok text.toUTF8)
    = .ok ⟨s.insertSnapshot c, c.size, [⟨.info, s!"loaded {c.size} values from {path}"⟩]⟩
  taken : ∀ s : Store, (Procedure.loadValues (.ok text.toUTF8)).on s
    = (Procedure.insertSnapshot c).on s

theorem survivesIn_of_decode {text : String} (h : decode decoder text = .ok c) :
    c.SurvivesIn text := by
  have hfile : Store.decodeFile decoder (.ok text.toUTF8) = .ok c := by
    rw [Store.decodeFile, FileContent.text_toUTF8]
    dsimp only
    rw [h]
  have hloaded : ∀ (s : Store) (path : String), s.loadValues path (.ok text.toUTF8)
      = .ok ⟨s.insertSnapshot c, c.size, [⟨.info, s!"loaded {c.size} values from {path}"⟩]⟩ := by
    intro s path
    rw [Store.loadValues, hfile]
    rfl
  refine ⟨h, hloaded, fun s ↦ ?_⟩
  rw [Procedure.on_loadValues "", Store.perform, hloaded, Procedure.on_insertSnapshot]
  rfl

theorem decode_of_spells (h : ∀ x ∈ c.numbers, x.isFinite = true)
    (htimes : ∀ t ∈ c.timestamps, t.HasText) (hspells : c.toJson.Spells text) :
    decode decoder (String.ofList text) = .ok c :=
  (Json.decode_of_spells c.isExact_toJson hspells).trans
    (decoder_of_isRecord h htimes c.isRecord_toJson (skip_ofJson _))

/-- **Snapshots survive a file.** A snapshot of finite numbers and of timestamps that have a text
can be written, in the compact form and in the indented one, and it is what either text decodes to:
the same records in the same order, each with its label, its source, its place with an elevation or
without one, its value, and its timestamp with the same nanosecond and the same offset. From any
store, to load the file is to take the snapshot in. -/
theorem survives_file (c : Snapshot) (h : ∀ x ∈ c.numbers, x.isFinite = true)
    (htimes : ∀ t ∈ c.timestamps, t.HasText) :
    ∃ compact indented, c.toText = .ok compact ∧ c.toIndentedText = .ok indented ∧
      c.SurvivesIn compact ∧ c.SurvivesIn indented := by
  have hwritten (text : String) : Timestamp.writing c.timestamps text = .ok text :=
    Timestamp.writing_eq_ok_iff.mpr ⟨htimes, rfl⟩
  exact ⟨_, _, hwritten _, hwritten _,
    survivesIn_of_decode (decode_of_spells h htimes (spells_compact _)),
    survivesIn_of_decode (decode_of_spells h htimes (spells_indented _ 0))⟩

end Snapshot

/-! ## What can be read

A file has no timestamp without a text, so a snapshot that was read can be written again. -/

theorem Timestamp.hasText_of_decoder {d : Draft} {t : Timestamp} (h : decoder d = .ok t) :
    t.HasText := by
  unfold decoder at h
  split at h
  · next s =>
    obtain ⟨s, -, h⟩ := bind_eq_ok_iff.mp h
    split at h
    · next htext =>
      obtain rfl := Except.ok.inj h
      exact hasText_of_ofText htext
    · cases h
  · exact absurd h not_expected_eq_ok

theorem ValueRecord.hasText_of_decoder {typeName sourceField : String} {d : Draft}
    {r : ValueRecord} (hfield : sourceField ≠ "timestamp")
    (h : decoder typeName sourceField d = .ok r) : r.timed.timestamp.HasText := by
  obtain ⟨⟨parameter, sourceId, location, timestamp, value⟩, hfields, hr⟩ := bind_eq_ok_iff.mp h
  obtain rfl := Except.ok.inj hr
  -- The timestamp is the fourth field, and none of the three before it has its name.
  obtain ⟨e, he⟩ := (Fields.has_one.and_left
    |>.and_right (Fields.member_one_of_ne (by decide)) Fields.advances_one
    |>.and_right (Fields.member_one_of_ne hfield.symm) Fields.advances_one
    |>.and_right (Fields.member_one_of_ne (by decide)) Fields.advances_one).exists_found hfields
  exact Timestamp.hasText_of_decoder he

/-- All timestamps of a snapshot that was read have a text. -/
theorem Snapshot.hasText_of_decoder {d : Draft} {c : Snapshot} (h : decoder d = .ok c) :
    ∀ t ∈ c.timestamps, t.HasText := by
  have hlisted := isListedIn_of_decoder h
  intro t ht
  obtain ⟨r, hr, rfl⟩ := List.mem_map.mp ht
  rcases List.mem_append.mp hr with hr | hr
  · obtain ⟨e, he⟩ := exists_forall₂_iff.mp ⟨_, hlisted.measurements.flip⟩ r hr
    exact ValueRecord.hasText_of_decoder (by decide) he
  · obtain ⟨e, he⟩ := exists_forall₂_iff.mp ⟨_, hlisted.forecasts.flip⟩ r hr
    exact ValueRecord.hasText_of_decoder (by decide) he

/-! ## A leap day -/

namespace Station

/-- Half a second before the end of a leap day, on a clock half an hour behind. -/
def leapNight : Timestamp := ⟨⟨2024, 2, 29, 23, 59, 59, 500000000, -1800⟩, by decide⟩

def leapMorning : Timestamp := ⟨⟨2024, 2, 29, 6, 0, 0, 0, 0⟩, by decide⟩

/-- Two records of one sensor, in the wrong order, and a forecast. -/
def leapSnapshot : Snapshot where
  measurements := [
    ⟨"Road \"surface\"\n", "Straße\t1", ⟨-0.0, -179.5, some 12.25⟩, ⟨leapNight, -0.0⟩⟩,
    ⟨"Road \"surface\"\n", "Straße\t1", ⟨-0.0, -179.5, some 12.25⟩, ⟨leapMorning, 0.1⟩⟩]
  forecasts := [⟨"", "model", ⟨47, 11, none⟩, ⟨leapNight, 5e-324⟩⟩]

theorem isFinite_numbers_leapSnapshot : ∀ x ∈ leapSnapshot.numbers, x.isFinite = true := by
  decide +kernel

theorem hasText_timestamps_leapSnapshot : ∀ t ∈ leapSnapshot.timestamps, t.HasText := by
  intro t ht
  rw [← Timestamp.writeError?_eq_none_iff]
  revert t ht
  decide

/-- A snapshot with escapes, a negative zero, fractions of a second and an offset of less than an
hour survives. -/
theorem leapSnapshot_survives :
    (∀ x ∈ leapSnapshot.numbers, x.isFinite = true) ∧
      (∀ t ∈ leapSnapshot.timestamps, t.HasText) ∧
      ∃ compact indented, leapSnapshot.toText = .ok compact ∧
        leapSnapshot.toIndentedText = .ok indented ∧ leapSnapshot.SurvivesIn compact ∧
        leapSnapshot.SurvivesIn indented :=
  ⟨isFinite_numbers_leapSnapshot, hasText_timestamps_leapSnapshot,
    Snapshot.survives_file _ isFinite_numbers_leapSnapshot hasText_timestamps_leapSnapshot⟩

end Station

end RoadWeather
