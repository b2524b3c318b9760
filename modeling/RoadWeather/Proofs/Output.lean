import RoadWeather.Program
import RoadWeather.Proofs.CheckedSources
import RoadWeather.Proofs.FirstUsable
import RoadWeather.Proofs.Renaming
import RoadWeather.Proofs.WrittenInputs

/-!
# What a run of the program writes

Two files decide what the program writes: a list of descriptions and a snapshot of values. From the
descriptions it takes the last one of every key, leaves out those of other models and those that do
not fit the catalog, and lists the others in the order of their keys (`Program.Lists`). For each of
them it writes the inputs that resolve against a store of the latest values of the snapshot
(`Snapshot.AnsweredBy`).

## Any store will do

A store that answers from a snapshot answers at once, so the limit to how long a query may take is
of no account. No description has a part in the answers. That makes each entry a matter of its own
description and of the snapshot alone: any resolver over any such store resolves the same
(`Snapshot.AnsweredBy.sameAnswers`), and what is said of the entries is said with all of them. The
store of the program, which has taken in descriptions before, is just one
(`Snapshot.answeredBy_insertSnapshot`).

## The text

What the text of the inputs says is laid down by what a reader finds in it
(`RunInputs.AreListedIn`), and not by the writer. To write it can fail for timestamps that no text
has room for. But the timestamps of the inputs are those of values of the snapshot, and these were
read from a text themselves, so they have one (`Program.hasText_of_valuesIn`). A run in which both
files can be loaded therefore writes its inputs.
-/

namespace RoadWeather

open Json

/-! ## Stores of a snapshot -/

/-- A store that answers every query at once, and with the latest value of a snapshot. -/
structure Snapshot.AnsweredBy (snapshot : Snapshot) (values : ValueStore) : Prop where
  atOnce : ∀ query, (values query).delay = 0
  measurement : ∀ parameter sensorId location, ∃ answer,
    (values (.latestMeasurement parameter sensorId location)).answer = .ok answer ∧
      (answer = none ↔
        ∀ r ∈ snapshot.measurements, r.key ≠ ⟨parameter, sensorId, location.key⟩) ∧
      ∀ v, answer = some v ↔
        IsLatest snapshot.measurements ⟨parameter, sensorId, location.key⟩ v
  forecast : ∀ parameter location modelId, ∃ answer,
    (values (.latestForecast parameter location modelId)).answer = .ok answer ∧
      (answer = none ↔
        ∀ r ∈ snapshot.forecasts, r.key ≠ ⟨parameter, modelId, location.key⟩) ∧
      ∀ v, answer = some v ↔
        IsLatest snapshot.forecasts ⟨parameter, modelId, location.key⟩ v

namespace Snapshot

variable {snapshot : Snapshot} {values values' : ValueStore}

theorem eq_of_some_iff {α : Type} {a b : Option α} {p : α → Prop} (ha : ∀ v, a = some v ↔ p v)
    (hb : ∀ v, b = some v ↔ p v) : a = b :=
  Option.ext fun v ↦ (ha v).trans (hb v).symm

theorem AnsweredBy.answer_eq (h : snapshot.AnsweredBy values) (h' : snapshot.AnsweredBy values')
    (query : Query) : (values query).answer = (values' query).answer := by
  cases query with
  | latestMeasurement parameter sensorId location =>
    obtain ⟨answer, hanswer, -, hsome⟩ := h.measurement parameter sensorId location
    obtain ⟨answer', hanswer', -, hsome'⟩ := h'.measurement parameter sensorId location
    rw [hanswer, hanswer', eq_of_some_iff hsome hsome']
  | latestForecast parameter location modelId =>
    obtain ⟨answer, hanswer, -, hsome⟩ := h.forecast parameter location modelId
    obtain ⟨answer', hanswer', -, hsome'⟩ := h'.forecast parameter location modelId
    rw [hanswer, hanswer', eq_of_some_iff hsome hsome']

/-- **Who answers from a snapshot at once is of no account**, nor is how long a query may take. -/
theorem AnsweredBy.sameAnswers {r r' : Resolver} (hcatalog : r.catalog = r'.catalog)
    (h : snapshot.AnsweredBy r.values) (h' : snapshot.AnsweredBy r'.values) :
    r.SameAnswers r' where
  catalog := hcatalog
  fetch s := by
    have hinTime : r.InTime s := fun limit _ ↦ by rw [h.atOnce]; exact Nat.zero_le limit
    have hinTime' : r'.InTime s := fun limit _ ↦ by rw [h'.atOnce]; exact Nat.zero_le limit
    rw [Resolver.fetch_eq_of_inTime hinTime, Resolver.fetch_eq_of_inTime hinTime',
      h.answer_eq h']

theorem answeredBy_of_holds {catalog : Catalog} {store : Store} {timeout : Option Duration}
    (hmeasurements : store.measurements.Holds snapshot.measurements)
    (hforecasts : store.forecasts.Holds snapshot.forecasts) :
    snapshot.AnsweredBy (Program.resolver catalog store timeout).values where
  atOnce _ := rfl
  measurement _ _ _ := ⟨_, rfl, hmeasurements.none_iff _, hmeasurements.some_iff _⟩
  forecast _ _ _ := ⟨_, rfl, hforecasts.none_iff _, hforecasts.some_iff _⟩

/-- A store answers from a snapshot that it takes in after some descriptions. -/
theorem answeredBy_insertSnapshot (catalog : Catalog) (ds : List Description) (snapshot : Snapshot)
    (timeout : Option Duration) :
    snapshot.AnsweredBy (Program.resolver catalog
      ((Store.empty.upsertAll ds).1.insertSnapshot snapshot) timeout).values := by
  obtain ⟨hmeasured, hforecasted⟩ := Store.empty.upsertAll_values ds
  refine answeredBy_of_holds ?_ ?_
  · rw [Store.insertSnapshot, hmeasured]
    exact LatestValues.holds_empty.recordAll snapshot.measurements
  · rw [Store.insertSnapshot, hforecasted]
    exact LatestValues.holds_empty.recordAll snapshot.forecasts

theorem AnsweredBy.mem_timestamps (h : snapshot.AnsweredBy values) {query : Query}
    {timed : TimedValue} (hanswer : (values query).answer = .ok (some timed)) :
    timed.timestamp ∈ snapshot.timestamps := by
  cases query with
  | latestMeasurement parameter sensorId location =>
    obtain ⟨answer, heq, -, hsome⟩ := h.measurement parameter sensorId location
    obtain rfl := Except.ok.inj (heq.symm.trans hanswer)
    obtain ⟨r, hr, -, rfl⟩ := ((hsome timed).mp rfl).exists_mem
    exact List.mem_map.mpr ⟨r, List.mem_append_left _ hr, rfl⟩
  | latestForecast parameter location modelId =>
    obtain ⟨answer, heq, -, hsome⟩ := h.forecast parameter location modelId
    obtain rfl := Except.ok.inj (heq.symm.trans hanswer)
    obtain ⟨r, hr, -, rfl⟩ := ((hsome timed).mp rfl).exists_mem
    exact List.mem_map.mpr ⟨r, List.mem_append_right _ hr, rfl⟩

end Snapshot

/-! ## The timestamps written -/

theorem Resolver.exists_answer_of_resolve {r : Resolver} {d : Description} {tag : Tag}
    {v : ResolvedValue} (h : (r.resolve d tag).result = .ok v) :
    ∃ query timed, (r.values query).answer = .ok (some timed) ∧
      timed.timestamp = v.timestamp := by
  rw [resolve] at h
  cases hsources : d.sources? tag with
  | none =>
    rw [hsources] at h
    cases h
  | some sources =>
    rw [hsources] at h
    obtain ⟨-, -, timed, ⟨p, hoffers, -⟩, htimestamp⟩ :=
      ((r.firstUsable_resolveSources tag sources).ok_iff v).mp h
    exact ⟨_, timed, hoffers.answers.2, htimestamp⟩

theorem Snapshot.AnsweredBy.mem_timestamps_of_assemble {snapshot : Snapshot} {r : Resolver}
    (h : snapshot.AnsweredBy r.values) (d : Description) :
    ∀ t ∈ (r.assemble d).inputs.timestamps, t ∈ snapshot.timestamps := by
  intro t ht
  have hagrees := RunInputs.assemble_agrees r d
  rcases List.mem_append.mp ht with ht | ht
  · obtain ⟨⟨tag, v⟩, hv, rfl⟩ := List.mem_map.mp ht
    obtain ⟨query, timed, hanswer, htimestamp⟩ :=
      Resolver.exists_answer_of_resolve ((hagrees.observation tag v).mp hv)
    exact htimestamp ▸ h.mem_timestamps hanswer
  · obtain ⟨⟨tag, w⟩, hw, rfl⟩ := List.mem_map.mp ht
    obtain ⟨-, v, hv, hcorrects⟩ := (hagrees.forecast tag w).mp hw
    obtain ⟨query, timed, hanswer, htimestamp⟩ := Resolver.exists_answer_of_resolve hv
    rw [hcorrects.timestamp]
    exact htimestamp ▸ h.mem_timestamps hanswer

/-! ## The descriptions listed -/

namespace Program

/-- The descriptions, of those in a file, that the program writes inputs for: of every key the last
one, if it is for the model asked for and fits the catalog. They are in the order of the bytes of
their keys, so no key is there twice. -/
structure Lists (catalog : Catalog) (ds : List Description) (modelId : Option String)
    (listed : List Description) : Prop where
  increasing : listed.Pairwise fun d e ↦ d.key.Precedes e.key
  mem_iff : ∀ d, d ∈ listed ↔ IsLast ds d.key d ∧ (∀ id, modelId = some id → d.modelId = id) ∧
    d.checkSources catalog = .ok ()

variable {catalog : Catalog} {store : Store} {ds : List Description} {s : Settings}

def fits (catalog : Catalog) (d : Description) : Bool := (d.checkSources catalog).isOk

@[simp] theorem fits_iff {d : Description} :
    fits catalog d = true ↔ d.checkSources catalog = .ok () := by
  rw [fits]
  cases d.checkSources catalog with
  | error e => simp [Except.isOk, Except.toBool]
  | ok _ => simp [Except.isOk, Except.toBool]

theorem lists_selected (h : store.Describes ds) (catalog : Catalog) (modelId : Option String) :
    Lists catalog ds modelId ((selected store modelId).filter (fits catalog)) where
  increasing := (h.pairwise_allDescriptions.filter _).filter _
  mem_iff d := by
    have hmodel : modelId.all (· = d.modelId) = true ↔
        ∀ id, modelId = some id → d.modelId = id := by
      cases modelId with
      | none => simp
      | some id => simp [eq_comm]
    rw [List.mem_filter, selected, List.mem_filter, h.mem_allDescriptions, fits_iff, hmodel,
      and_assoc]

theorem resolveRun_fst (r : Resolver) (d : Description) :
    (resolveRun r d).1 = if fits r.catalog d then some (r.assemble d).inputs else none := by
  rw [resolveRun, fits]
  cases d.checkSources r.catalog with
  | error e => rfl
  | ok _ => rfl

theorem filterMap_resolveRun (r : Resolver) (ds : List Description) :
    (ds.map (resolveRun r)).filterMap Prod.fst
      = (ds.filter (fits r.catalog)).map fun d ↦ (r.assemble d).inputs := by
  induction ds with
  | nil => rfl
  | cons d rest ih =>
    rw [List.map_cons, List.filterMap_cons, resolveRun_fst, List.filter_cons]
    by_cases hfits : fits r.catalog d = true
    · rw [if_pos hfits, if_pos hfits, ih, List.map_cons]
    · rw [if_neg hfits, if_neg hfits, ih]

/-- The inputs resolved are those of the descriptions selected that fit the catalog. -/
theorem resolveAll_fst (catalog : Catalog) (store : Store) (s : Settings) :
    (resolveAll catalog store s).1 = ((selected store s.modelId).filter (fits catalog)).map fun d ↦
      ((resolver catalog store (s.sourceTimeout.map .ofMilliseconds)).assemble d).inputs :=
  filterMap_resolveRun (resolver catalog store _) _

/-! ## The report -/

/-- The list of descriptions that a run with some settings reads. -/
def descriptionsIn (read : String → Id FileContent) (s : Settings) :
    Except StoreError (List Description) :=
  Store.decodeFile Description.listDecoder
    (FileContent.readWith read (s.descriptions.getD defaultDescriptions))

/-- The snapshot that a run with some settings reads. -/
def valuesIn (read : String → Id FileContent) (s : Settings) : Except StoreError Snapshot :=
  Store.decodeFile Snapshot.decoder (FileContent.readWith read (s.values.getD defaultValues))

variable {read : String → Id FileContent} {snapshot : Snapshot}

theorem hasText_of_valuesIn (h : valuesIn read s = .ok snapshot) :
    ∀ t ∈ snapshot.timestamps, t.HasText := by
  obtain ⟨text, -, hdecode⟩ := Store.decodeFile_eq_ok_iff.mp h
  exact Snapshot.hasText_of_decoder (decode_eq_ok_iff.mp hdecode).1

theorem resolveFiles_of_ok (catalog : Catalog) (hds : descriptionsIn read s = .ok ds)
    (hvalues : valuesIn read s = .ok snapshot) {text : String}
    (htext : RunInputs.listToIndentedText
      (resolveAll catalog ((Store.empty.upsertAll ds).1.insertSnapshot snapshot) s).1 = .ok text) :
    let report : Report := resolveFiles read catalog s
    report.status = 0 ∧ report.error = none ∧ report.output = text ++ "\n" := by
  rw [descriptionsIn] at hds
  rw [valuesIn] at hvalues
  simp only [resolveFiles, Store.loadDescriptions, Store.loadValues, hds, hvalues, bind, pure,
    Except.bind, Except.pure, htext, and_self]

theorem resolveFiles_of_error (catalog : Catalog)
    (h : (∃ e, descriptionsIn read s = .error e) ∨ ∃ e, valuesIn read s = .error e) :
    ∃ e, let report : Report := resolveFiles read catalog s
      report.status = 1 ∧ report.error = some (ProgramError.message e) ∧ report.output = "" := by
  cases hds : descriptionsIn read s with
  | error e =>
    rw [descriptionsIn] at hds
    refine ⟨.descriptions e, ?_⟩
    simp only [resolveFiles, Store.loadDescriptions, hds, bind, pure, Except.bind, failed, and_self]
  | ok ds =>
    rcases h with ⟨e, herror⟩ | ⟨e, herror⟩
    · cases hds.symm.trans herror
    · rw [descriptionsIn] at hds
      rw [valuesIn] at herror
      refine ⟨.values e, ?_⟩
      simp only [resolveFiles, Store.loadDescriptions, Store.loadValues, hds, herror, bind, pure,
        Except.bind, Except.pure, failed, and_self]

/-- A run is one with the settings in force, up to the lines of its log. -/
theorem run_eq (environment : Option String) {arguments : List String} {t : Settings}
    (command : CommandLine.read arguments = .ok (.run t))
    (settings : (t.inForce read : Except ProgramError Settings) = .ok s) :
    let report : Report := run read environment arguments
    let resolved : Report := resolveFiles read .standard s
    report.status = resolved.status ∧ report.error = resolved.error ∧
      report.output = resolved.output := by
  simp only [run, command, runSettings, settings, bind, pure, and_self]

/-- **A run writes the inputs of the last descriptions, resolved against the latest values.** If
both files can be loaded, it succeeds. It then writes a line of text that spells a list with one
entry for each description listed, in the order of the bytes of the keys, and nothing else. The
entry says of every input what the description resolves to against any store that answers at once
with the latest values of the snapshot, with any limit to how long a query may take; what is missing
from it has been looked for in all candidates. If a file cannot be loaded the run fails, and writes
nothing. -/
theorem run_writes_listed (read : String → Id FileContent) (environment : Option String)
    (arguments : List String) (t s : Settings)
    (command : CommandLine.read arguments = .ok (.run t))
    (settings : (t.inForce read : Except ProgramError Settings) = .ok s) :
    let report : Report := run read environment arguments
    (∀ ds snapshot, descriptionsIn read s = .ok ds → valuesIn read s = .ok snapshot →
      report.status = 0 ∧ report.error = none ∧
      (∃ r : Resolver, r.catalog = .standard ∧ snapshot.AnsweredBy r.values) ∧
      ∃ listed text, Lists .standard ds s.modelId listed ∧ report.output = text ++ "\n" ∧
        ∀ r : Resolver, r.catalog = .standard → snapshot.AnsweredBy r.values →
          RunInputs.listToIndentedText (listed.map fun d ↦ (r.assemble d).inputs) = .ok text ∧
          RunInputs.AreListedIn (listed.map fun d ↦ (r.assemble d).inputs) text ∧
          ∀ d ∈ listed, (r.assemble d).inputs.OnlyExhausted d) ∧
    (((∃ e, descriptionsIn read s = .error e) ∨ ∃ e, valuesIn read s = .error e) →
      report.status = 1 ∧ report.error ≠ none ∧ report.output = "") := by
  have hrun := run_eq environment command settings
  dsimp only at hrun ⊢
  rw [hrun.1, hrun.2.1, hrun.2.2]
  refine ⟨fun ds snapshot hds hvalues ↦ ?_, fun h ↦ ?_⟩
  · -- To take in the snapshot makes no difference to the descriptions, nor they to the values.
    have hdescribes : ((Store.empty.upsertAll ds).1.insertSnapshot snapshot).Describes ds :=
      (Store.describes_empty.upsertAll ds).congr rfl
    have hanswered := Snapshot.answeredBy_insertSnapshot .standard ds snapshot
      (s.sourceTimeout.map .ofMilliseconds)
    have htimes : ∀ i ∈ (resolveAll .standard ((Store.empty.upsertAll ds).1.insertSnapshot snapshot)
        s).1, ∀ t ∈ i.timestamps, t.HasText := by
      rw [resolveAll_fst]
      intro i hi t ht
      obtain ⟨d, -, rfl⟩ := List.mem_map.mp hi
      exact hasText_of_valuesIn hvalues t (hanswered.mem_timestamps_of_assemble d t ht)
    obtain ⟨text, htext, hentries⟩ := RunInputs.exists_listToIndentedText htimes
    obtain ⟨hstatus, herror, houtput⟩ := resolveFiles_of_ok .standard hds hvalues htext
    rw [resolveAll_fst] at htext hentries
    refine ⟨hstatus, herror, ⟨_, rfl, hanswered⟩, _, text,
      lists_selected hdescribes .standard s.modelId, houtput, fun r hcatalog hr ↦ ?_⟩
    have hsame := hanswered.sameAnswers (r := resolver _ _ _) hcatalog.symm hr
    have hinputs : (fun d ↦ (r.assemble d).inputs) = fun d ↦ _ :=
      funext fun d ↦ (hsame.inputs_assemble d).symm
    rw [hinputs]
    refine ⟨htext, hentries, fun d hd ↦ ?_⟩
    have hfits : d.checkSources r.catalog = .ok () := by
      rw [hcatalog]
      exact fits_iff.mp (List.mem_filter.mp hd).2
    exact Resolver.onlyExhausted_assemble hfits
  · obtain ⟨e, hstatus, herror, houtput⟩ := resolveFiles_of_error .standard h
    exact ⟨hstatus, by rw [herror]; exact Option.some_ne_none _, houtput⟩

end Program

/-! ## The files of a station -/

namespace Station

def snapshot : Snapshot where
  measurements := [⟨"Road surface temperature in [deg C]", "road", place, ⟨noon, 2⟩⟩]
  forecasts := [⟨"Forecasted air pressure in [Pa] @ ground level", "model", place, ⟨noon, 90000⟩⟩]

/-- The description of the station is in one file, its values are in any other. -/
def files (path : String) : Id FileContent :=
  if path = "runs.json" then .ok (Description.listToJson [description]).toText.toUTF8
  else .ok snapshot.toJson.toIndentedText.toUTF8

def arguments : List String := ["--descriptions", "runs.json", "-mmetro", "--source-timeout-ms=5"]

def settings : Settings :=
  { descriptions := some "runs.json", modelId := some "metro", sourceTimeout := some 5 }

theorem descriptionsIn_files : Program.descriptionsIn files settings = .ok [description] := by
  have hread : FileContent.readWith files "runs.json"
      = (.ok (Description.listToJson [description]).toText.toUTF8 : FileContent) := by
    rw [FileContent.readWith, if_neg (by simp), files, if_pos rfl]
  rw [Program.descriptionsIn, settings, Option.getD_some, hread]
  exact Store.decodeFile_of_spells (Description.isExact_listToJson _) (spells_compact _)
    (Description.listDecoder_listToJson [description])

theorem valuesIn_files : Program.valuesIn files settings = .ok snapshot := by
  have hread : FileContent.readWith files Program.defaultValues
      = (.ok snapshot.toJson.toIndentedText.toUTF8 : FileContent) := by
    rw [FileContent.readWith, if_neg (by simp [Program.defaultValues]), files, if_neg (by decide)]
  rw [Program.valuesIn, settings, Option.getD_none, hread]
  exact Store.decodeFile_of_spells snapshot.isExact_toJson (spells_indented _ 0) rfl

theorem eq_singleton_of_lists {listed : List Description}
    (h : Program.Lists .standard [description] settings.modelId listed) :
    listed = [description] := by
  have hmem : description ∈ listed := (h.mem_iff description).mpr
    ⟨⟨[], [], rfl, rfl, fun _ hd ↦ absurd hd List.not_mem_nil⟩, fun _ hid ↦ Option.some.inj hid,
      checkSources_standard⟩
  have heq : ∀ d ∈ listed, d = description := fun d hd ↦
    List.mem_singleton.mp ((h.mem_iff d).mp hd).1.mem
  have hincreasing := h.increasing
  match listed with
  | [] => cases hmem
  | [d] => rw [heq d List.mem_cons_self]
  | d :: e :: _ =>
    have hlt := List.rel_of_pairwise_cons hincreasing List.mem_cons_self
    rw [heq d List.mem_cons_self, heq e (List.mem_cons_of_mem _ List.mem_cons_self)] at hlt
    exact absurd rfl hlt.ne

end Station

/-- The program finds the station in its files and writes an entry for it. -/
theorem Station.run_writes_description :
    CommandLine.read arguments = .ok (.run settings) ∧
      (settings.inForce files : Except ProgramError Settings) = .ok settings ∧
      let report : Report := Program.run files none arguments
      report.status = 0 ∧ ∃ text, report.output = text ++ "\n" ∧
        ∀ r : Resolver, r.catalog = .standard → snapshot.AnsweredBy r.values →
          RunInputs.AreListedIn [(r.assemble description).inputs] text := by
  have command : CommandLine.read arguments = .ok (.run settings) := rfl
  have inForce : (settings.inForce files : Except ProgramError Settings) = .ok settings := rfl
  have h := (Program.run_writes_listed files none arguments settings settings command inForce).1
    [description] snapshot descriptionsIn_files valuesIn_files
  obtain ⟨hstatus, -, -, listed, text, hlisted, houtput, hentries⟩ := h
  obtain rfl := eq_singleton_of_lists hlisted
  exact ⟨command, inForce, hstatus, text, houtput, fun r hcatalog hr ↦ (hentries r hcatalog hr).2.1⟩

end RoadWeather
