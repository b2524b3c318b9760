import RoadWeather.Proofs.Arrival
import RoadWeather.Proofs.JsonGrammar
import RoadWeather.Proofs.Listings
import RoadWeather.Store.Procedure

/-!
# Files are taken in as a whole or not at all

A load writes record by record, and nothing would take a write back if a later step failed. It is
all or nothing because the file is read and decoded before the first write, and no write fails. So
a load that fails has written nothing, wherever in the file the problem is, and one that succeeds
has written all that the document lists, once for every time it is listed.

## Step by step

A load is given as a procedure that makes its writes one by one and may fail after any of them. That
it comes to the same as a load in one go is shown first (`Procedure.on_loadValues`,
`Procedure.on_loadDescriptions`).

## What a document lists

What is counted and taken in is said of the document and not of what the decoder makes of it. The
text has a draft, which is read to its end; for a text of the grammar it is the draft that the text
spells (`Json.Draft.SpelledBy`). The records of the draft are listed in the order of the document
(`ListedValue.ofDraft`).

A snapshot may have its two lists in either order. Since measurements and forecasts are kept apart,
a store is the same after the values in the order of the document as if all measurements had come
first (`Store.writeAll_of_isWrittenBy`).

The descriptions in a list are checked as they are decoded, one before the next is looked at. For
what is taken in, this comes to the same as to decode the whole document into configurations and to
check all of them after that (`Description.listDecoder_eq_ok_iff`). So a list is taken in just if
there is a list of configurations in the file of which none is refused.
-/

namespace RoadWeather

open Json

/-! ## Steps

What comes before a failure has been written and stays written. So a load is all or nothing only
because of the order of its steps. -/

namespace Procedure

variable {α β : Type} {p : Procedure α} {f : α → Procedure β} {s t : Store} {e : StoreError} {a : α}

theorem on_bind_of_ok (h : p.on s = (.ok a, t)) : (p >>= f).on s = (f a).on t := by
  have hrun : p.run.run s = (.ok a, t) := h
  simp only [on, ExceptT.run_bind, StateT.run_bind, hrun]
  rfl

/-- A failure takes back nothing of what was written before it. -/
example (w : Write) (e : StoreError) (s : Store) :
    Procedure.on (do write w; throw e : Procedure Unit) s = (.error e, s.write w) := rfl

theorem on_bind_of_error (h : p.on s = (.error e, t)) : (p >>= f).on s = (.error e, t) := by
  have hrun : p.run.run s = (.error e, t) := h
  simp only [on, ExceptT.run_bind, StateT.run_bind, hrun]
  rfl

@[simp] theorem on_writeEach (ws : List Write) (s : Store) :
    (writeEach ws).on s = (.ok (), s.writeAll ws) := by
  induction ws generalizing s with
  | nil => rfl
  | cons w rest ih =>
    have hw : (write w).on s = (.ok (), s.write w) := rfl
    exact (on_bind_of_ok hw).trans (ih (s.write w))

@[simp] theorem on_ofExcept (x : Except StoreError α) (s : Store) :
    (ofExcept x : Procedure α).on s = (x, s) := by
  cases x <;> rfl

theorem on_decodeFile (decoder : Decoder α) (content : FileContent) (s : Store) :
    (decodeFile decoder content).on s = (Store.decodeFile decoder content, s) := by
  rw [decodeFile, Store.decodeFile]
  cases content.text with
  | error fault => exact on_bind_of_error (on_ofExcept _ s)
  | ok text =>
    refine (on_bind_of_ok (on_ofExcept (.ok text) s)).trans ?_
    rw [on_ofExcept]
    dsimp only
    cases decode decoder text <;> rfl

theorem on_insertSnapshot (c : Snapshot) (s : Store) :
    (insertSnapshot c).on s = (.ok c.size, s.insertSnapshot c) := by
  have hmeasurements := on_writeEach (c.measurements.map .measurement) s
  rw [Store.writeAll_measurements] at hmeasurements
  refine (on_bind_of_ok hmeasurements).trans ((on_bind_of_ok (on_writeEach _ _)).trans ?_)
  rw [Store.writeAll_forecasts]
  rfl

/-- **To load values step by step is to load them in one go.** -/
theorem on_loadValues (path : String) (content : FileContent) (s : Store) :
    (loadValues content).on s
      = ((s.loadValues path content).map Loaded.count, s.perform (.loadValues path content)) := by
  have hdecode := on_decodeFile Snapshot.decoder content s
  rw [Store.perform, Store.loadValues]
  cases h : Store.decodeFile Snapshot.decoder content with
  | error e =>
    rw [h] at hdecode
    exact on_bind_of_error hdecode
  | ok c =>
    rw [h] at hdecode
    exact (on_bind_of_ok hdecode).trans (on_insertSnapshot c s)

/-- **To load descriptions step by step is to load them in one go.** -/
theorem on_loadDescriptions (path : String) (content : FileContent) (s : Store) :
    (loadDescriptions content).on s
      = ((s.loadDescriptions path content).map Loaded.count,
        s.perform (.loadDescriptions path content)) := by
  have hdecode := on_decodeFile Description.listDecoder content s
  rw [Store.perform, Store.loadDescriptions]
  cases h : Store.decodeFile Description.listDecoder content with
  | error e =>
    rw [h] at hdecode
    exact on_bind_of_error hdecode
  | ok ds =>
    rw [h] at hdecode
    have hwrite := on_writeEach (ds.map .description) s
    rw [Store.writeAll_descriptions] at hwrite
    exact (on_bind_of_ok hdecode).trans (on_bind_of_ok hwrite)

end Procedure

/-! ## What is in a file -/

namespace Store

theorem decodeFile_eq_ok_iff {α : Type} {decoder : Decoder α} {content : FileContent} {a : α} :
    decodeFile decoder content = .ok a ↔
      ∃ text, content.text = .ok text ∧ decode decoder text = .ok a := by
  rw [decodeFile]
  cases content.text with
  | error fault => simp
  | ok text => cases h : decode decoder text <;> simp [h]

end Store

/-- A record as a document lists it, under one of the two fields of a snapshot. -/
inductive ListedValue where
  | measurement (d : Draft)
  | forecast (d : Draft)

namespace ListedValue

def measurement? : ListedValue → Option Draft
  | measurement d => some d
  | forecast _ => none

def forecast? : ListedValue → Option Draft
  | measurement _ => none
  | forecast d => some d

/-- The write that takes a record in. -/
def decode : ListedValue → Except DecodeError Write
  | measurement d => (ValueRecord.measurementDecoder d).map .measurement
  | forecast d => (ValueRecord.forecastDecoder d).map .forecast

/-- The records among the members of a snapshot, in the order of the document. -/
def ofEntries : Draft.Entries → List ListedValue
  | .done => []
  | .entry key value rest =>
    if key = .ok "measurements" then value.elements.map measurement ++ ofEntries rest
    else if key = .ok "forecasts" then value.elements.map forecast ++ ofEntries rest
    else ofEntries rest
  | .broken _ => []
  | .badKey _ => []

/-- The records that a document lists, in its order. -/
def ofDraft : Draft → List ListedValue
  | .object es => ofEntries es
  | .array is =>
    (is.toList[0]?.toList.flatMap Draft.elements).map measurement ++
      (is.toList[1]?.toList.flatMap Draft.elements).map forecast
  | _ => []

theorem filterMap_ofEntries : ∀ es : Draft.Entries,
    (ofEntries es).filterMap measurement? = (es.valuesOf "measurements").flatMap Draft.elements ∧
      (ofEntries es).filterMap forecast? = (es.valuesOf "forecasts").flatMap Draft.elements
  | .done => ⟨rfl, rfl⟩
  | .broken _ => ⟨rfl, rfl⟩
  | .badKey _ => ⟨rfl, rfl⟩
  | .entry key value rest => by
    obtain ⟨hmeasurements, hforecasts⟩ := filterMap_ofEntries rest
    simp only [ofEntries, Draft.Entries.valuesOf]
    by_cases hm : key = .ok "measurements"
    · simp [hm, hmeasurements, hforecasts, measurement?, forecast?, Function.comp_def]
    · by_cases hf : key = .ok "forecasts"
      · simp [hf, hmeasurements, hforecasts, measurement?, forecast?, Function.comp_def]
      · simp [hm, hf, hmeasurements, hforecasts]

theorem filterMap_ofDraft (d : Draft) :
    (ofDraft d).filterMap measurement? = d.listed "measurements" 0 ∧
      (ofDraft d).filterMap forecast? = d.listed "forecasts" 1 := by
  cases d with
  | object es => exact filterMap_ofEntries es
  | array is =>
    simp [ofDraft, Draft.listed, Draft.valuesOf, measurement?, forecast?, Function.comp_def]
  | null => exact ⟨rfl, rfl⟩
  | bool b => exact ⟨rfl, rfl⟩
  | number n => exact ⟨rfl, rfl⟩
  | string s => exact ⟨rfl, rfl⟩
  | broken b => exact ⟨rfl, rfl⟩

theorem length_eq (vs : List ListedValue) :
    vs.length = (vs.filterMap measurement?).length + (vs.filterMap forecast?).length := by
  induction vs with
  | nil => rfl
  | cons v vs ih =>
    cases v <;> simp [List.filterMap_cons, measurement?, forecast?, ih] <;> omega

theorem measurement?_of_decode {v : ListedValue} {w : Write} (h : v.decode = .ok w) :
    Option.Rel (fun d r ↦ ValueRecord.measurementDecoder d = .ok r) v.measurement?
      w.measurement? := by
  cases v with
  | measurement d =>
    obtain ⟨r, hr, rfl⟩ := map_eq_ok_iff.mp h
    exact .some hr
  | forecast d =>
    obtain ⟨r, -, rfl⟩ := map_eq_ok_iff.mp h
    exact .none

theorem forecast?_of_decode {v : ListedValue} {w : Write} (h : v.decode = .ok w) :
    Option.Rel (fun d r ↦ ValueRecord.forecastDecoder d = .ok r) v.forecast? w.forecast? := by
  cases v with
  | measurement d =>
    obtain ⟨r, -, rfl⟩ := map_eq_ok_iff.mp h
    exact .none
  | forecast d =>
    obtain ⟨r, hr, rfl⟩ := map_eq_ok_iff.mp h
    exact .some hr

theorem description?_of_decode {v : ListedValue} {w : Write} (h : v.decode = .ok w) :
    w.description? = none := by
  cases v with
  | measurement d =>
    obtain ⟨r, -, rfl⟩ := map_eq_ok_iff.mp h
    rfl
  | forecast d =>
    obtain ⟨r, -, rfl⟩ := map_eq_ok_iff.mp h
    rfl

end ListedValue

namespace Snapshot

variable {d : Draft} {c : Snapshot} {ws : List Write}

/-- Whether the values of a snapshot are those that a document lists. -/
structure IsListedIn (c : Snapshot) (d : Draft) : Prop where
  measurements : ValueRecord.measurementDecoder.FindsEach (d.listed "measurements" 0) c.measurements
  forecasts : ValueRecord.forecastDecoder.FindsEach (d.listed "forecasts" 1) c.forecasts

/-- A snapshot that is found in a document has all that the document lists. -/
theorem isListedIn_of_decoder (h : decoder d = .ok c) : c.IsListedIn d := by
  obtain ⟨⟨measurements, forecasts⟩, hfields, hc⟩ := bind_eq_ok_iff.mp h
  obtain rfl := Except.ok.inj hc
  exact ⟨Fields.has_one.and_left.listed hfields,
    (Fields.has_one.and_right (Fields.member_one_of_ne (by decide)) Fields.advances_one).listed
      hfields⟩

theorem IsListedIn.size_eq (h : c.IsListedIn d) : c.size = (ListedValue.ofDraft d).length := by
  obtain ⟨hmeasurements, hforecasts⟩ := ListedValue.filterMap_ofDraft d
  rw [ListedValue.length_eq, hmeasurements, hforecasts, h.measurements.length_eq,
    h.forecasts.length_eq, size]

theorem IsListedIn.exists_writes (h : c.IsListedIn d) :
    ∃ ws, List.Forall₂ (fun v w ↦ v.decode = .ok w) (ListedValue.ofDraft d) ws := by
  obtain ⟨hmeasurements, hforecasts⟩ := ListedValue.filterMap_ofDraft d
  refine exists_forall₂_iff.mpr fun v hv ↦ ?_
  cases v with
  | measurement e =>
    have he : e ∈ d.listed "measurements" 0 := by
      rw [← hmeasurements]
      exact List.mem_filterMap.mpr ⟨_, hv, rfl⟩
    obtain ⟨r, hr⟩ := exists_forall₂_iff.mp ⟨_, h.measurements⟩ e he
    exact ⟨.measurement r, map_eq_ok_iff.mpr ⟨r, hr, rfl⟩⟩
  | forecast e =>
    have he : e ∈ d.listed "forecasts" 1 := by
      rw [← hforecasts]
      exact List.mem_filterMap.mpr ⟨_, hv, rfl⟩
    obtain ⟨r, hr⟩ := exists_forall₂_iff.mp ⟨_, h.forecasts⟩ e he
    exact ⟨.forecast r, map_eq_ok_iff.mpr ⟨r, hr, rfl⟩⟩

/-- Whether some writes take in the values of a snapshot and nothing else, the values of each kind
in their order. -/
structure IsWrittenBy (c : Snapshot) (ws : List Write) : Prop where
  measurements : ws.filterMap Write.measurement? = c.measurements
  forecasts : ws.filterMap Write.forecast? = c.forecasts
  descriptions : ws.filterMap Write.description? = []

/-- The writes for the records of a document, in the order of the document, take in the snapshot
that is found there. -/
theorem IsListedIn.isWrittenBy (h : c.IsListedIn d)
    (hws : List.Forall₂ (fun v w ↦ v.decode = .ok w) (ListedValue.ofDraft d) ws) :
    c.IsWrittenBy ws where
  measurements := by
    have hfound := List.rel_filterMap (fun _ _ hv ↦ ListedValue.measurement?_of_decode hv) hws
    rw [(ListedValue.filterMap_ofDraft d).1] at hfound
    exact Decoder.FindsEach.unique hfound h.measurements
  forecasts := by
    have hfound := List.rel_filterMap (fun _ _ hv ↦ ListedValue.forecast?_of_decode hv) hws
    rw [(ListedValue.filterMap_ofDraft d).2] at hfound
    exact Decoder.FindsEach.unique hfound h.forecasts
  descriptions := by
    refine List.filterMap_eq_nil_iff.mpr fun w hw ↦ ?_
    obtain ⟨v, hv⟩ := exists_forall₂_iff.mp ⟨_, hws.flip⟩ w hw
    exact ListedValue.description?_of_decode hv

end Snapshot

/-! ## Listed descriptions -/

theorem Description.listDecoder_eq_ok_iff {d : Draft} {ds : List Description} :
    listDecoder d = .ok ds ↔
      ∃ configs, Decoder.list DescriptionConfig.decoder d = .ok configs ∧
        List.Forall₂ (fun c d ↦ ofConfig c = .ok d) configs ds := by
  simp only [listDecoder, Description.decoder, Decoder.list_refine_eq_ok_iff, mapError_eq_ok_iff]

theorem Description.exists_decode_listDecoder_iff {text : String} :
    (∃ ds, decode listDecoder text = .ok ds) ↔
      ∃ configs, decode (Decoder.list DescriptionConfig.decoder) text = .ok configs ∧
        ∀ c ∈ configs, ∃ d, ofConfig c = .ok d := by
  simp only [decode_eq_ok_iff, listDecoder_eq_ok_iff, ← exists_forall₂_iff]
  constructor
  · rintro ⟨ds, ⟨configs, hconfigs, hds⟩, hrest⟩
    exact ⟨configs, ⟨hconfigs, hrest⟩, ds, hds⟩
  · rintro ⟨configs, ⟨hconfigs, hrest⟩, ds, hds⟩
    exact ⟨ds, ⟨configs, hconfigs, hds⟩, hrest⟩

/-! ## What is taken in

The outcome of a load is the same statement for values and for descriptions. Only what it means that
a store takes in what a document lists is different. -/

namespace Store

theorem writeAll_described (s : Store) (ws : List Write) :
    (s.writeAll ws).descriptions
      = (ws.filterMap Write.description?).foldl (fun m d ↦ m.insert d.key d) s.descriptions := by
  induction ws generalizing s with
  | nil => rfl
  | cons w rest ih =>
    cases w with
    | measurement r => exact ih (s.recordMeasurement r)
    | forecast r => exact ih (s.recordForecast r)
    | description d => exact ih (s.upsert d)

theorem writeAll_of_isWrittenBy {c : Snapshot} {ws : List Write} (h : c.IsWrittenBy ws)
    (s : Store) : s.writeAll ws = s.insertSnapshot c := by
  obtain ⟨hmeasurements, hforecasts⟩ := s.writeAll_values ws
  have hdescriptions := s.writeAll_described ws
  rw [h.measurements] at hmeasurements
  rw [h.forecasts] at hforecasts
  rw [h.descriptions] at hdescriptions
  exact congr (congr (congrArg Store.mk hmeasurements) hforecasts) hdescriptions

/-- Whether a store comes from another one by taking in the values that a document lists, one by
one and in the order of the document. They are counted as often as they are listed. -/
def TakesListedValues (s : Store) (d : Draft) (n : Nat) (t : Store) : Prop :=
  ∃ ws, List.Forall₂ (fun v w ↦ v.decode = .ok w) (ListedValue.ofDraft d) ws ∧
    n = (ListedValue.ofDraft d).length ∧ t = s.writeAll ws

/-- Whether a store comes from another one by putting in their places the descriptions that a
document lists, one by one and in the order of the document. They are counted as often as they are
listed. -/
def TakesListedDescriptions (s : Store) (d : Draft) (n : Nat) (t : Store) : Prop :=
  ∃ configs ds, DescriptionConfig.decoder.FindsEach d.elements configs ∧
    List.Forall₂ (fun c d ↦ Description.ofConfig c = .ok d) configs ds ∧
    n = d.elements.length ∧ t = s.writeAll (ds.map .description)

/-- What comes of loading a file: either nothing, or all that the file lists. -/
structure TakesFile {α : Type} (decoder : Decoder α) (Listed : Draft → Nat → Store → Prop)
    (s : Store) (content : FileContent) (result : Except StoreError Nat) (t : Store) : Prop where
  failed : ∀ e, result = .error e → t = s
  taken : ∀ n, result = .ok n → ∃ text, content.text = .ok text ∧ Listed (Draft.read text).1 n t
  succeeds_iff : (∃ n, result = .ok n) ↔
    ∃ text a, content.text = .ok text ∧ decode decoder text = .ok a
  /-- Where the text is JSON, all of this is said of the value that it spells. -/
  spelled : ∀ text d, content.text = .ok text → d.SpelledBy text →
    (∀ n, result = .ok n → Listed d n t) ∧ ((∃ n, result = .ok n) ↔ ∃ a, decoder d = .ok a)

abbrev TakesValues (s : Store) : FileContent → Except StoreError Nat → Store → Prop :=
  TakesFile Snapshot.decoder s.TakesListedValues s

structure TakesDescriptions (s : Store) (content : FileContent) (result : Except StoreError Nat)
    (t : Store) : Prop extends
    TakesFile Description.listDecoder s.TakesListedDescriptions s content result t where
  /-- The whole document must be a list of configurations, and each of them a description. -/
  accepted_iff : (∃ n, result = .ok n) ↔ ∃ text configs, content.text = .ok text ∧
    decode (Decoder.list DescriptionConfig.decoder) text = .ok configs ∧
    ∀ c ∈ configs, ∃ d, Description.ofConfig c = .ok d

/-- A load that puts nothing in its place before all of the file is decoded comes to nothing or to
all of it. -/
theorem takesFile_of_decodeFile {α : Type} {decoder : Decoder α}
    {Listed : Draft → Nat → Store → Prop} {s t : Store} {content : FileContent}
    {result : Except StoreError Nat}
    (herror : ∀ e, decodeFile decoder content = .error e → result = .error e ∧ t = s)
    (hok : ∀ a, decodeFile decoder content = .ok a →
      ∃ n, result = .ok n ∧ ∀ d, decoder d = .ok a → Listed d n t) :
    TakesFile decoder Listed s content result t := by
  cases h : decodeFile decoder content with
  | error e =>
    obtain ⟨rfl, rfl⟩ := herror e h
    have hnone : ∀ text a, content.text = .ok text → decode decoder text ≠ .ok a := by
      intro text a htext hdecode
      cases h.symm.trans (decodeFile_eq_ok_iff.mpr ⟨text, htext, hdecode⟩)
    refine ⟨fun _ _ ↦ rfl, fun n hn ↦ (nomatch hn), ⟨fun ⟨n, hn⟩ ↦ (nomatch hn), ?_⟩,
      fun text d htext hd ↦ ⟨fun n hn ↦ (nomatch hn), ⟨fun ⟨n, hn⟩ ↦ (nomatch hn), ?_⟩⟩⟩
    · rintro ⟨text, a, htext, hdecode⟩
      exact absurd hdecode (hnone text a htext)
    · rintro ⟨a, ha⟩
      exact absurd ((hd.decode_eq decoder).trans ha) (hnone text a htext)
  | ok a =>
    obtain ⟨n, rfl, hlisted⟩ := hok a h
    obtain ⟨text, htext, hdecode⟩ := decodeFile_eq_ok_iff.mp h
    refine ⟨fun e he ↦ (nomatch he), ?_, ⟨fun _ ↦ ⟨text, a, htext, hdecode⟩, fun _ ↦ ⟨n, rfl⟩⟩,
      fun text' d htext' hd ↦ ?_⟩
    · intro m hm
      obtain rfl := Except.ok.inj hm
      exact ⟨text, htext, hlisted _ (decode_eq_ok_iff.mp hdecode).1⟩
    · obtain rfl := Except.ok.inj (htext.symm.trans htext')
      have ha : decoder d = .ok a := (hd.decode_eq decoder).symm.trans hdecode
      refine ⟨?_, fun _ ↦ ⟨a, ha⟩, fun _ ↦ ⟨n, rfl⟩⟩
      intro m hm
      obtain rfl := Except.ok.inj hm
      exact hlisted d ha

theorem takesListedValues_of_decoder (s : Store) {d : Draft} {c : Snapshot}
    (h : Snapshot.decoder d = .ok c) : s.TakesListedValues d c.size (s.insertSnapshot c) := by
  have hlisted := Snapshot.isListedIn_of_decoder h
  obtain ⟨ws, hws⟩ := hlisted.exists_writes
  exact ⟨ws, hws, hlisted.size_eq, (s.writeAll_of_isWrittenBy (hlisted.isWrittenBy hws)).symm⟩

theorem takesListedDescriptions_of_decoder (s : Store) {d : Draft} {ds : List Description}
    (h : Description.listDecoder d = .ok ds) :
    s.TakesListedDescriptions d ds.length (s.upsertAll ds).1 := by
  obtain ⟨configs, hconfigs, hds⟩ := Description.listDecoder_eq_ok_iff.mp h
  have hfound := Decoder.findsEach_of_list hconfigs
  exact ⟨configs, ds, hfound, hds, (hfound.length_eq.trans hds.length_eq).symm,
    (s.writeAll_descriptions ds).symm⟩

variable (s : Store) (path : String) (content : FileContent)

theorem takesValues_loadValues :
    s.TakesValues content ((s.loadValues path content).map Loaded.count)
      (s.perform (.loadValues path content)) := by
  rw [perform, loadValues]
  refine takesFile_of_decodeFile (fun e he ↦ ?_) fun c hc ↦ ?_
  · rw [he]
    exact ⟨rfl, rfl⟩
  · rw [hc]
    exact ⟨_, rfl, fun _ ↦ s.takesListedValues_of_decoder⟩

theorem takesDescriptions_loadDescriptions :
    s.TakesDescriptions content ((s.loadDescriptions path content).map Loaded.count)
      (s.perform (.loadDescriptions path content)) := by
  have htakes : TakesFile Description.listDecoder s.TakesListedDescriptions s content
      ((s.loadDescriptions path content).map Loaded.count)
      (s.perform (.loadDescriptions path content)) := by
    rw [perform, loadDescriptions]
    refine takesFile_of_decodeFile (fun e he ↦ ?_) fun ds hds ↦ ?_
    · rw [he]
      exact ⟨rfl, rfl⟩
    · rw [hds]
      exact ⟨_, rfl, fun _ ↦ s.takesListedDescriptions_of_decoder⟩
  refine ⟨htakes, htakes.succeeds_iff.trans (exists_congr fun text ↦ ?_)⟩
  rw [exists_and_left, Description.exists_decode_listDecoder_iff, exists_and_left]

/-- **A file is taken in as a whole or not at all.** Loaded step by step, it leaves the store as it
was if the load fails, and else it leaves there all that the file lists. -/
theorem loads_whole :
    (∃ result t, (Procedure.loadValues content).on s = (result, t) ∧
      result = (s.loadValues path content).map Loaded.count ∧
      t = s.perform (.loadValues path content) ∧ s.TakesValues content result t) ∧
    ∃ result t, (Procedure.loadDescriptions content).on s = (result, t) ∧
      result = (s.loadDescriptions path content).map Loaded.count ∧
      t = s.perform (.loadDescriptions path content) ∧ s.TakesDescriptions content result t :=
  ⟨⟨_, _, Procedure.on_loadValues path content s, rfl, rfl, s.takesValues_loadValues path content⟩,
    ⟨_, _, Procedure.on_loadDescriptions path content s, rfl, rfl,
      s.takesDescriptions_loadDescriptions path content⟩⟩

end Store

end RoadWeather
