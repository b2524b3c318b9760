import RoadWeather.Document.Description
import RoadWeather.Proofs.RecordForms

/-!
# Documents give back what they were written from

A configuration is written as a tree of records, lists and mappings. Only the order of lists counts
in it: the members of records and mappings may come in any order, records may have other members,
and what has its default may be left out (`DescriptionConfig.forms`). However it is written, a
configuration is found as long as the numbers in it are finite: a number that is not has no text.

## The construction

The forms of a record are listed field by field, with what may stand in each field and whether it
may be left out. That a record is found in all of its forms follows from the fields one by one
(`Fields.Reads`), and the nesting of the forms is that of the records. What is written by the
program is one of the forms, so reading it back is a case of this.

Mappings are different. Their members are named by tags and not by fields, no other names may stand
among them, and an entry for one tag may follow another one for the same tag, which it then
replaces. What a mapping becomes is therefore shown to be independent of the order of its entries
(`Mapping.ofEntries_of_perm`), the entries being those of one mapping and so without contradiction.

## Finite numbers

A valid description has no other numbers (`Description.isFinite_numbers`). Validation bounds its
coordinates, and it refuses elevations and factors that are not finite. The bounds are comparisons
of doubles, so a NaN fails them as well.
-/

namespace RoadWeather

open Json Draft

/-! ## The numbers of a description -/

def Location.numbers (l : Location) : List Float :=
  l.latitude :: l.longitude :: l.elevation.toList

def FluxCorrections.numbers (c : FluxCorrections) : List Float :=
  [c.solar, c.infrared, c.anthropogenic]

/-- All numbers of a configuration: those of its place, of the places of its sources, and its
factors. -/
def DescriptionConfig.numbers (c : DescriptionConfig) : List Float :=
  c.location.numbers ++ c.taggedSources.flatMap (·.2.location.numbers) ++ c.corrections.numbers

theorem Location.isFinite_of_isValid {l : Location} (h : l.isValid = true) :
    ∀ x ∈ l.numbers, x.isFinite = true := by
  simp only [isValid, Bool.and_eq_true, decide_eq_true_eq] at h
  obtain ⟨⟨⟨⟨hsouth, hnorth⟩, hwest⟩, heast⟩, helevation⟩ := h
  intro x hx
  simp only [numbers, List.mem_cons, Option.mem_toList] at hx
  rcases hx with rfl | rfl | hx
  · exact Binary64.isFinite_of_le_of_le (by rfl) (by rfl) hsouth hnorth
  · exact Binary64.isFinite_of_le_of_le (by rfl) (by rfl) hwest heast
  · rw [hx] at helevation
    exact helevation

theorem DescriptionConfig.isValid_of_sourceFault? {tag : Tag} {s : DataSource}
    (h : sourceFault? tag s = none) : s.location.isValid = true := by
  unfold sourceFault? at h
  split at h
  · cases h
  · split at h
    · cases h
    · next hlocation => simpa using hlocation

theorem DescriptionConfig.isFinite_of_factorFault? {name : String} {x : Float}
    (h : factorFault? name x = none) : x.isFinite = true := by
  unfold factorFault? at h
  split at h
  · next hfactor => exact (Bool.and_eq_true_iff.mp hfactor).1
  · cases h

/-- **Every number in a description is finite.** -/
theorem Description.isFinite_numbers (d : Description) :
    ∀ x ∈ d.config.numbers, x.isFinite = true := by
  have hvalid := d.valid
  simp only [DescriptionConfig.fault?, Option.orElse_eq_orElse, Option.orElse_eq_or,
    Option.or_eq_none_iff, List.findSome?_eq_none_iff] at hvalid
  obtain ⟨hlocation, -, -, -, hsources, hfactors, -⟩ := hvalid
  intro x hx
  simp only [DescriptionConfig.numbers, List.mem_append, List.mem_flatMap] at hx
  rcases hx with (hx | ⟨⟨tag, s⟩, hs, hx⟩) | hx
  · refine Location.isFinite_of_isValid ?_ x hx
    by_contra hinvalid
    rw [if_neg hinvalid] at hlocation
    cases hlocation
  · exact Location.isFinite_of_isValid
      (DescriptionConfig.isValid_of_sourceFault? (hsources (tag, s) hs)) x hx
  · have hnamed : x ∈ d.config.corrections.named.map Prod.snd := hx
    obtain ⟨factor, hfactor, rfl⟩ := List.mem_map.mp hnamed
    exact DescriptionConfig.isFinite_of_factorFault? (hfactors factor hfactor)

/-! ## Numbers, places and sources -/

theorem Json.double_eq_number {x : Float} (h : x.isFinite = true) :
    Json.double x = .number (.double x) := if_pos h

theorem Json.Decoder.double_ofJson {x : Float} (h : x.isFinite = true) :
    Decoder.double (ofJson (Json.double x)) = .ok x := by
  rw [double_eq_number h]
  rfl

theorem Json.Decoder.string_ofJson (s : String) : Decoder.string (ofJson (.string s)) = .ok s := rfl

theorem Json.Decoder.bool_ofJson (b : Bool) : Decoder.bool (ofJson (.bool b)) = .ok b := rfl

theorem Json.Decoder.byte_ofJson (n : UInt8) :
    Decoder.byte (ofJson (Json.natural n.toNat)) = .ok n := by
  rw [Json.natural, ofJson, Decoder.byte, if_pos n.toNat_lt]
  exact congrArg Except.ok UInt8.ofNat_toNat

namespace Location

variable {l : Location} {d : Draft}

/-- The fields of a location, as they may be written. An elevation that is not there may be left
out, or `null`. -/
def forms (l : Location) : List FieldForm :=
  [.fixed "latitude" (.double l.latitude), .fixed "longitude" (.double l.longitude),
    .preset "elevation" (Json.optional Json.double) l.elevation none]

theorem reads_forms (h : ∀ x ∈ l.numbers, x.isFinite = true) :
    fields.Reads l.forms (l.latitude, l.longitude, l.elevation) := by
  have hlatitude := Decoder.double_ofJson (h l.latitude (by simp [numbers]))
  have hlongitude := Decoder.double_ofJson (h l.longitude (by simp [numbers]))
  have helevation : Decoder.optional Decoder.double
      (ofJson (Json.optional Json.double l.elevation)) = .ok l.elevation := by
    cases helevation : l.elevation with
    | none => rfl
    | some elevation =>
      have hfinite : elevation.isFinite = true := h _ (by simp [numbers, helevation])
      rw [Json.optional, double_eq_number hfinite]
      rfl
  exact .and (Fields.reads_fixed hlatitude)
    (.and (Fields.reads_fixed hlongitude) (Fields.reads_preset helevation))

theorem decoder_of_isRecord (h : ∀ x ∈ l.numbers, x.isFinite = true) (hd : IsRecord l.forms d)
    (hskip : d.skip = .ok ()) : decoder d = .ok l := by
  have hnames : ["latitude", "longitude", "elevation"].Nodup := by decide
  rw [decoder, (reads_forms h).decoder_eq hnames hd hskip]
  rfl

theorem isRecord_toJson (l : Location) : IsRecord l.forms (ofJson l.toJson) := by
  obtain ⟨latitude, longitude, elevation⟩ := l
  cases elevation with
  | none => exact KeptMembers.isRecord_ofJson (.keep rfl (.keep rfl (.leave rfl .nil)))
  | some elevation => exact KeptMembers.isRecord_ofJson (.keep rfl (.keep rfl (.keep rfl .nil)))

end Location

theorem SourceKind.decoder_toJson (kind : SourceKind) :
    Decoder.name named (ofJson kind.toJson) = .ok kind := by
  cases kind <;> rfl

namespace DataSource

variable {s : DataSource} {sources : List DataSource} {d : Draft}

/-- The fields of a source, as they may be written. -/
def forms (s : DataSource) : List FieldForm :=
  [.fixed "kind" s.kind.toJson, ⟨"location", IsRecord s.location.forms, False⟩,
    .fixed "parameter" (.string s.parameter), .fixed "source_id" (.string s.sourceId)]

theorem reads_forms (h : ∀ x ∈ s.location.numbers, x.isFinite = true) :
    fields.Reads s.forms (s.kind, s.location, s.parameter, s.sourceId) :=
  .and (Fields.reads_fixed s.kind.decoder_toJson)
    (.and (Fields.reads_one (fun _ ↦ Location.decoder_of_isRecord h) False.elim)
      (.and (Fields.reads_fixed (Decoder.string_ofJson s.parameter))
        (Fields.reads_fixed (Decoder.string_ofJson s.sourceId))))

theorem decoder_of_isRecord (h : ∀ x ∈ s.location.numbers, x.isFinite = true)
    (hd : IsRecord s.forms d) (hskip : d.skip = .ok ()) : decoder d = .ok s := by
  have hnames : ["kind", "location", "parameter", "source_id"].Nodup := by decide
  rw [decoder, (reads_forms h).decoder_eq hnames hd hskip]
  rfl

theorem isRecord_toJson (s : DataSource) : IsRecord s.forms (ofJson s.toJson) :=
  KeptMembers.isRecord_ofJson
    (.keep rfl (.keep s.location.isRecord_toJson (.keep rfl (.keep rfl .nil))))

/-- Whether a list of candidates is written, the one to be tried first in front. -/
def IsList : List DataSource → Draft → Prop := IsListOf fun s d ↦ IsRecord s.forms d

theorem listDecoder_of_isList (h : ∀ s ∈ sources, ∀ x ∈ s.location.numbers, x.isFinite = true)
    (hd : IsList sources d) (hskip : d.skip = .ok ()) : listDecoder d = .ok sources :=
  Decoder.list_of_isListOf (fun s hs _ ↦ decoder_of_isRecord (h s hs)) hd hskip

theorem isList_listToJson (sources : List DataSource) :
    IsList sources (ofJson (listToJson sources)) :=
  isListOf_ofJson isRecord_toJson sources

end DataSource

/-! ## Mappings

A mapping is written in the order of the tags, and may be read in any other. Later entries for a tag
replace earlier ones, so the entries have to be those of one mapping. -/

theorem Json.Decoder.entries_ofList {κ α : Type} {key : String → Except DecodeError κ}
    {value : Decoder α} {pairs : List (κ × α)} {members : List (String × Draft)}
    (h : List.Forall₂ (fun p m ↦ key m.1 = .ok p.1 ∧ value m.2 = .ok p.2) pairs members)
    (found : List (κ × α)) :
    Decoder.entries key value found (.ofList members) = .ok (found ++ pairs) := by
  induction h generalizing found with
  | nil => rw [List.append_nil]; rfl
  | @cons p m pairs members hentry _ ih =>
    have hrest := ih (found ++ [p])
    rw [List.append_assoc, List.singleton_append] at hrest
    rw [Entries.ofList, Decoder.entries, wanted]
    simp only [bind, Except.bind, hentry.1, hentry.2]
    exact hrest

namespace Mapping

variable {τ : Type} {m : Mapping τ} {tags : List τ} {name : τ → String} {d : Draft}

theorem mem_entries {entry : τ × List DataSource} :
    entry ∈ m.entries tags ↔ entry.1 ∈ tags ∧ m entry.1 = some entry.2 := by
  simp only [entries, List.mem_filterMap, Option.map_eq_some_iff]
  constructor
  · rintro ⟨tag, htag, sources, hsources, rfl⟩
    exact ⟨htag, hsources⟩
  · rintro ⟨htag, hsources⟩
    exact ⟨entry.1, htag, entry.2, hsources, rfl⟩

/-- Whether an object has the entries of a mapping for the given tags as its members, in any order,
each under the name of its tag. It has no others: every name is that of a tag. -/
def IsObject (m : Mapping τ) (tags : List τ) (name : τ → String) (d : Draft) : Prop :=
  ∃ members ordered, d = .object (.ofList members) ∧ members.Perm ordered ∧
    List.Forall₂ (fun entry member ↦ member.1 = name entry.1 ∧ DataSource.IsList entry.2 member.2)
      (m.entries tags) ordered

theorem isObject_toJson (m : Mapping τ) (tags : List τ) (name : τ → String) :
    m.IsObject tags name (ofJson (m.toJson (tags.map fun tag ↦ (name tag, tag)))) := by
  have hmembers : m.toJson (tags.map fun tag ↦ (name tag, tag))
      = .object ((m.entries tags).map fun p ↦ (name p.1, DataSource.listToJson p.2)) := by
    rw [toJson, entries, List.filterMap_map, List.map_filterMap]
    congr 2
    funext tag
    rw [Option.map_map]
    rfl
  refine ⟨_, _, by rw [hmembers, ofJson, ofMembers_eq], .refl _, ?_⟩
  rw [List.map_map, List.forall₂_map_right_iff]
  exact List.forall₂_same.mpr fun entry _ ↦ ⟨rfl, DataSource.isList_listToJson entry.2⟩

variable [DecidableEq τ]

/-- Entries taken in after others, if they are entries of one mapping: this mapping counts for their
tags. -/
theorem foldl_set_of_mem {es : List (τ × List DataSource)} (hes : ∀ e ∈ es, m e.1 = some e.2)
    (m' : Mapping τ) (tag : τ) :
    es.foldl (fun m e ↦ m.set e.1 e.2) m' tag
      = if tag ∈ es.map Prod.fst then m tag else m' tag := by
  induction es generalizing m' with
  | nil => simp
  | cons e es ih =>
    obtain ⟨he, hes⟩ := List.forall_mem_cons.mp hes
    rw [List.foldl_cons, ih hes, set_apply, List.map_cons]
    by_cases htag : tag = e.1
    · subst htag
      simp [he]
    · have hmem : tag ∈ e.1 :: es.map Prod.fst ↔ tag ∈ es.map Prod.fst := by simp [htag]
      rw [if_neg htag, if_congr hmem rfl rfl]

/-- A mapping is made up of its entries, in any order. -/
theorem ofEntries_of_perm {es : List (τ × List DataSource)} (hall : ∀ tag, tag ∈ tags)
    (hperm : es.Perm (m.entries tags)) : ofEntries es = m := by
  funext tag
  rw [ofEntries, foldl_set_of_mem fun e he ↦ (mem_entries.mp (hperm.mem_iff.mp he)).2]
  cases hsources : m tag with
  | none => exact ite_self _
  | some sources =>
    have hmem : (tag, sources) ∈ es := hperm.mem_iff.mpr (mem_entries.mpr ⟨hall tag, hsources⟩)
    rw [if_pos (List.mem_map.mpr ⟨_, hmem, rfl⟩)]

/-- A mapping of named tags is found in all ways of writing it. -/
theorem decoder_of_isObject (hall : ∀ tag, tag ∈ tags)
    (hlookup : ∀ tag, (tags.map fun tag ↦ (name tag, tag)).lookup (name tag) = some tag)
    (h : ∀ p ∈ m.sources tags, ∀ x ∈ p.2.location.numbers, x.isFinite = true)
    (hd : m.IsObject tags name d) (hskip : d.skip = .ok ()) :
    decoder (tags.map fun tag ↦ (name tag, tag)) d = .ok m := by
  obtain ⟨members, ordered, rfl, hperm, hordered⟩ := hd
  have hskips := skipEntries_ofList_iff.mp hskip
  -- The members are those of the same entries in another order.
  obtain ⟨pairs, hmembers, hpairs⟩ := List.perm_comp_forall₂ hperm hordered.flip
  have hentries : ∀ p ∈ pairs, p ∈ m.entries tags := fun p hp ↦ hpairs.mem_iff.mp hp
  have hfound : List.Forall₂ (fun p member ↦
      Decoder.variant (tags.map fun tag ↦ (name tag, tag)) member.1 = .ok p.1 ∧
        DataSource.listDecoder member.2 = .ok p.2) pairs members := by
    clear hperm hskip hpairs
    induction hmembers with
    | nil => exact .nil
    | @cons member p members pairs hmember _ ih =>
      obtain ⟨hname, hlist⟩ := hmember
      rw [List.forall_mem_cons] at hskips hentries
      refine .cons ⟨?_, ?_⟩ (ih hskips.2 hentries.2)
      · rw [hname, Decoder.variant, hlookup]
      · exact DataSource.listDecoder_of_isList (fun s hs ↦ h (p.1, s)
          (List.mem_flatMap.mpr ⟨p, hentries.1, List.mem_map.mpr ⟨s, hs, rfl⟩⟩)) hlist hskips.1
  rw [decoder, Decoder.map, Decoder.entries_ofList hfound, Except.map, List.nil_append,
    ofEntries_of_perm hall hpairs]

end Mapping

/-! ## Configurations and descriptions -/

namespace RunMode

/-- The fields of a run mode, as they may be written. Every switch may be left out. -/
def forms (m : RunMode) : List FieldForm :=
  [.preset "enable_sunshadow" .bool m.enableSunshadow false,
    .preset "sunshadow_method" (fun n : UInt8 ↦ .natural n.toNat) m.sunshadowMethod 1,
    .preset "use_solar_flux_forecast" .bool m.useSolarFluxForecast false,
    .preset "use_infrared_flux_forecast" .bool m.useInfraredFluxForecast false,
    .preset "use_anthropogenic_flux" .bool m.useAnthropogenicFlux false]

theorem reads_forms (m : RunMode) : fields.Reads m.forms (m.enableSunshadow, m.sunshadowMethod,
    m.useSolarFluxForecast, m.useInfraredFluxForecast, m.useAnthropogenicFlux) :=
  .and (Fields.reads_preset (Decoder.bool_ofJson _))
    (.and (Fields.reads_preset (Decoder.byte_ofJson _))
      (.and (Fields.reads_preset (Decoder.bool_ofJson _))
        (.and (Fields.reads_preset (Decoder.bool_ofJson _))
          (Fields.reads_preset (Decoder.bool_ofJson _)))))

theorem decoder_of_isRecord {m : RunMode} {d : Draft} (hd : IsRecord m.forms d)
    (hskip : d.skip = .ok ()) : decoder d = .ok m := by
  have hnames : ["enable_sunshadow", "sunshadow_method", "use_solar_flux_forecast",
      "use_infrared_flux_forecast", "use_anthropogenic_flux"].Nodup := by decide
  rw [decoder, m.reads_forms.decoder_eq hnames hd hskip]
  rfl

theorem isRecord_toJson (m : RunMode) : IsRecord m.forms (ofJson m.toJson) :=
  KeptMembers.isRecord_ofJson (.keep rfl (.keep rfl (.keep rfl (.keep rfl (.keep rfl .nil)))))

end RunMode

namespace FluxCorrections

/-- The fields of flux corrections, as they may be written. Every factor may be left out. -/
def forms (c : FluxCorrections) : List FieldForm :=
  [.preset "solar" .double c.solar 1, .preset "infrared" .double c.infrared 1,
    .preset "anthropogenic" .double c.anthropogenic 1]

theorem reads_forms {c : FluxCorrections} (h : ∀ x ∈ c.numbers, x.isFinite = true) :
    fields.Reads c.forms (c.solar, c.infrared, c.anthropogenic) :=
  .and (Fields.reads_preset (Decoder.double_ofJson (h _ (by simp [numbers]))))
    (.and (Fields.reads_preset (Decoder.double_ofJson (h _ (by simp [numbers]))))
      (Fields.reads_preset (Decoder.double_ofJson (h _ (by simp [numbers])))))

theorem decoder_of_isRecord {c : FluxCorrections} {d : Draft}
    (h : ∀ x ∈ c.numbers, x.isFinite = true) (hd : IsRecord c.forms d) (hskip : d.skip = .ok ()) :
    decoder d = .ok c := by
  have hnames : ["solar", "infrared", "anthropogenic"].Nodup := by decide
  rw [decoder, (reads_forms h).decoder_eq hnames hd hskip]
  rfl

theorem isRecord_toJson (c : FluxCorrections) : IsRecord c.forms (ofJson c.toJson) :=
  KeptMembers.isRecord_ofJson (.keep rfl (.keep rfl (.keep rfl .nil)))

end FluxCorrections

namespace DescriptionConfig

variable {c : DescriptionConfig} {d : Draft}

/-- The fields of a configuration, as they may be written. Mappings without entries may be left out,
and so may corrections and a run mode that are the default ones. -/
def forms (c : DescriptionConfig) : List FieldForm :=
  [⟨"location", IsRecord c.location.forms, False⟩, .fixed "model_id" (.string c.modelId),
    ⟨"observation_mappings", c.observations.IsObject ObservationTag.all ObservationTag.name,
      c.observations = .empty⟩,
    ⟨"forecast_mappings", c.forecasts.IsObject ForecastTag.all ForecastTag.name,
      c.forecasts = .empty⟩,
    ⟨"flux_corrections", IsRecord c.corrections.forms, c.corrections = {}⟩,
    ⟨"run_mode", IsRecord c.runMode.forms, c.runMode = {}⟩]

theorem reads_forms (h : ∀ x ∈ c.numbers, x.isFinite = true) : fields.Reads c.forms
    (c.location, c.modelId, c.observations, c.forecasts, c.corrections, c.runMode) := by
  have hlocation : ∀ x ∈ c.location.numbers, x.isFinite = true := fun x hx ↦
    h x (List.mem_append_left _ (List.mem_append_left _ hx))
  have hcorrections : ∀ x ∈ c.corrections.numbers, x.isFinite = true := fun x hx ↦
    h x (List.mem_append_right _ hx)
  have hsources : ∀ p ∈ c.taggedSources, ∀ x ∈ p.2.location.numbers, x.isFinite = true :=
    fun p hp x hx ↦ h x (List.mem_append_left _ (List.mem_append_right _
      (List.mem_flatMap.mpr ⟨p, hp, hx⟩)))
  have hobservations : ∀ p ∈ c.observations.sources ObservationTag.all,
      ∀ x ∈ p.2.location.numbers, x.isFinite = true := fun p hp ↦
    hsources (.observation p.1, p.2) (List.mem_append_left _ (List.mem_map.mpr ⟨p, hp, rfl⟩))
  have hforecasts : ∀ p ∈ c.forecasts.sources ForecastTag.all,
      ∀ x ∈ p.2.location.numbers, x.isFinite = true := fun p hp ↦
    hsources (.forecast p.1, p.2) (List.mem_append_right _ (List.mem_map.mpr ⟨p, hp, rfl⟩))
  have hdefault : ∀ {α : Type} {a default : α}, a = default → some default = some a :=
    fun heq ↦ congrArg some heq.symm
  exact .and (Fields.reads_one (fun _ ↦ Location.decoder_of_isRecord hlocation) False.elim)
    (.and (Fields.reads_fixed (Decoder.string_ofJson c.modelId))
      (.and (Fields.reads_one (fun _ ↦ Mapping.decoder_of_isObject ObservationTag.mem_all
          ObservationTag.lookup_name hobservations) hdefault)
        (.and (Fields.reads_one (fun _ ↦ Mapping.decoder_of_isObject ForecastTag.mem_all
            ForecastTag.lookup_name hforecasts) hdefault)
          (.and (Fields.reads_one (fun _ ↦ FluxCorrections.decoder_of_isRecord hcorrections)
              hdefault)
            (Fields.reads_one (fun _ ↦ RunMode.decoder_of_isRecord) hdefault)))))

theorem decoder_of_isRecord (h : ∀ x ∈ c.numbers, x.isFinite = true) (hd : IsRecord c.forms d)
    (hskip : d.skip = .ok ()) : decoder d = .ok c := by
  have hnames : ["location", "model_id", "observation_mappings", "forecast_mappings",
      "flux_corrections", "run_mode"].Nodup := by decide
  rw [decoder, (reads_forms h).decoder_eq hnames hd hskip]
  rfl

theorem isRecord_toJson (c : DescriptionConfig) : IsRecord c.forms (ofJson c.toJson) :=
  KeptMembers.isRecord_ofJson (.keep c.location.isRecord_toJson (.keep rfl
    (.keep (c.observations.isObject_toJson _ _) (.keep (c.forecasts.isObject_toJson _ _)
      (.keep c.corrections.isRecord_toJson (.keep c.runMode.isRecord_toJson .nil))))))

theorem decoder_toJson (h : ∀ x ∈ c.numbers, x.isFinite = true) :
    decoder (ofJson c.toJson) = .ok c :=
  decoder_of_isRecord h c.isRecord_toJson (skip_ofJson _)

end DescriptionConfig

/-- **A description is found in its form**, and passes validation again. -/
theorem Description.decoder_toJson (d : Description) :
    decoder (ofJson d.config.toJson) = .ok d := by
  rw [decoder, Decoder.refine, DescriptionConfig.decoder_toJson d.isFinite_numbers]
  simp only [bind, Except.bind, d.ofConfig_config, Except.mapError]

theorem Description.listDecoder_listToJson (ds : List Description) :
    listDecoder (ofJson (listToJson ds)) = .ok ds :=
  Decoder.list_ofJson fun d _ ↦ d.decoder_toJson

/-! ## Exactness -/

theorem Location.isExact_toJson (l : Location) : l.toJson.IsExact := by
  obtain ⟨latitude, longitude, elevation⟩ := l
  cases elevation with
  | none => exact ⟨isExact_double latitude, isExact_double longitude, trivial⟩
  | some elevation =>
    exact ⟨isExact_double latitude, isExact_double longitude, isExact_double elevation, trivial⟩

theorem DataSource.isExact_listToJson (sources : List DataSource) :
    (listToJson sources).IsExact := by
  refine allExact_iff.mpr fun j hj ↦ ?_
  obtain ⟨s, -, rfl⟩ := List.mem_map.mp hj
  exact ⟨trivial, s.location.isExact_toJson, trivial, trivial, trivial⟩

theorem Mapping.isExact_toJson {τ : Type} (m : Mapping τ) (named : List (String × τ)) :
    (m.toJson named).IsExact := by
  refine membersExact_iff.mpr fun member hmember ↦ ?_
  obtain ⟨⟨name, tag⟩, -, hsome⟩ := List.mem_filterMap.mp hmember
  obtain ⟨sources, -, rfl⟩ := Option.map_eq_some_iff.mp hsome
  exact DataSource.isExact_listToJson sources

theorem RunMode.isExact_toJson (m : RunMode) : m.toJson.IsExact :=
  ⟨trivial, m.sunshadowMethod.toNat_lt.trans (by decide), trivial, trivial, trivial, trivial⟩

theorem FluxCorrections.isExact_toJson (c : FluxCorrections) : c.toJson.IsExact :=
  ⟨isExact_double c.solar, isExact_double c.infrared, isExact_double c.anthropogenic, trivial⟩

theorem Description.isExact_listToJson (ds : List Description) : (listToJson ds).IsExact := by
  refine allExact_iff.mpr fun j hj ↦ ?_
  obtain ⟨d, -, rfl⟩ := List.mem_map.mp hj
  exact ⟨d.config.location.isExact_toJson, trivial, d.config.observations.isExact_toJson _,
    d.config.forecasts.isExact_toJson _, d.config.corrections.isExact_toJson,
    d.config.runMode.isExact_toJson, trivial⟩

end RoadWeather
