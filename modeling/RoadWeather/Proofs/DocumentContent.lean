import RoadWeather.Proofs.DescriptionForms

/-!
# Only the content of a document counts

A configuration may stand in many documents (`DescriptionConfig.IsWrittenIn`). Their members come in
any order, at every level and also in the two mappings; records have other members, with any
well-formed values; an elevation that is not there is left out or `null`; what has its default is
left out or not, whole records and single fields of them alike. Blanks, escapes and the spelling of
numbers are free as well. The texts that the program writes are among these documents, and each of
them is decoded to the configuration.
-/

namespace RoadWeather

open Json Draft

namespace DescriptionConfig

variable {c : DescriptionConfig} {text : String}

/-- Whether a text is a document of a configuration: JSON, perhaps between blanks, with the
configuration in one of its forms. -/
def IsWrittenIn (c : DescriptionConfig) (text : String) : Prop :=
  ∃ d, IsRecord c.forms d ∧ d.SpelledBy text

theorem isExact_toJson (c : DescriptionConfig) : c.toJson.IsExact :=
  ⟨c.location.isExact_toJson, trivial, c.observations.isExact_toJson _,
    c.forecasts.isExact_toJson _, c.corrections.isExact_toJson, c.runMode.isExact_toJson, trivial⟩

/-- A text that spells a value is a document of the configurations that the value is a form of. -/
theorem isWrittenIn_of_spells {j : Json} {s : List Char} (hrecord : IsRecord c.forms (ofJson j))
    (hexact : j.IsExact) (hs : j.Spells s) : c.IsWrittenIn (String.ofList s) :=
  ⟨ofJson j, hrecord, spelledBy_of_spells hexact hs⟩

theorem decode_of_isWrittenIn (h : ∀ x ∈ c.numbers, x.isFinite = true)
    (htext : c.IsWrittenIn text) : decode decoder text = .ok c := by
  obtain ⟨d, hrecord, hspelled⟩ := htext
  rw [hspelled.decode_eq]
  exact decoder_of_isRecord h hrecord hspelled.skip_eq

/-- **Decoding depends on the content only.** A configuration of finite numbers is written in its
compact text and in its indented one, and it is what every text is decoded to that it is written
in, whatever the order of the members, whatever other members there are, and whichever of the
defaults are left out. -/
theorem decoded_from_content (c : DescriptionConfig) (h : ∀ x ∈ c.numbers, x.isFinite = true) :
    c.IsWrittenIn c.toJson.toText ∧ c.IsWrittenIn c.toJson.toIndentedText ∧
      ∀ text, c.IsWrittenIn text → decode decoder text = .ok c :=
  ⟨isWrittenIn_of_spells c.isRecord_toJson c.isExact_toJson (spells_compact _),
    isWrittenIn_of_spells c.isRecord_toJson c.isExact_toJson (spells_indented _ 0),
    fun _ ↦ decode_of_isWrittenIn h⟩

end DescriptionConfig

/-! ## A document in reverse -/

namespace Station

/-- A configuration of one mapped sensor, with a single factor that is not the default. -/
def sparse : DescriptionConfig where
  location := ⟨47, 11, none⟩
  modelId := "metro"
  observations
    | .airTemperature => some [⟨.measurement, ⟨47, 11, none⟩, "Air temperature", "mast"⟩]
    | .dewPoint => some []
    | _ => none
  corrections := { infrared := 0.5 }

/-- The place with its members in reverse, and `null` for the elevation. -/
def reversedPlace : Json :=
  .object [("elevation", .null), ("longitude", .double 11), ("latitude", .double 47)]

/-- A document of the configuration with all members in reverse, without what has its default, and
with members of other names. -/
def reversed : Json :=
  .object [("note", .array [.null, .object [("model_id", .string "other")]]),
    ("flux_corrections", .object [("unit", .string "W/m²"), ("infrared", .double 0.5)]),
    ("observation_mappings", .object [("td", .array []),
      ("at", .array [.object [("source_id", .string "mast"),
        ("parameter", .string "Air temperature"), ("location", reversedPlace),
        ("kind", .string "MEASUREMENT")]])]),
    ("model_id", .string "metro"), ("location", reversedPlace)]

theorem isRecord_reversedPlace :
    IsRecord (⟨47, 11, none⟩ : Location).forms (ofJson reversedPlace) :=
  ⟨_, [("latitude", ofJson (.double 47)), ("longitude", ofJson (.double 11)), ("elevation", .null)],
    [], rfl, List.reverse_perm _, .keep rfl (.keep rfl (.keep rfl .nil)), by simp⟩

theorem isRecord_reversed : IsRecord sparse.forms (ofJson reversed) := by
  have hsource : IsRecord
      (⟨.measurement, ⟨47, 11, none⟩, "Air temperature", "mast"⟩ : DataSource).forms
      (ofJson (.object [("source_id", .string "mast"), ("parameter", .string "Air temperature"),
        ("location", reversedPlace), ("kind", .string "MEASUREMENT")])) :=
    ⟨_, [("kind", ofJson (.string "MEASUREMENT")), ("location", ofJson reversedPlace),
      ("parameter", ofJson (.string "Air temperature")), ("source_id", ofJson (.string "mast"))],
      [], rfl, List.reverse_perm _,
      .keep rfl (.keep isRecord_reversedPlace (.keep rfl (.keep rfl .nil))), by simp⟩
  have hobservations : sparse.observations.IsObject ObservationTag.all ObservationTag.name
      (ofJson (.object [("td", .array []), ("at", .array [.object [("source_id", .string "mast"),
        ("parameter", .string "Air temperature"), ("location", reversedPlace),
        ("kind", .string "MEASUREMENT")]])])) :=
    ⟨_, [("at", _), ("td", _)], rfl, List.reverse_perm _,
      .cons ⟨rfl, _, rfl, .cons hsource .nil⟩ (.cons ⟨rfl, _, rfl, .nil⟩ .nil)⟩
  have hcorrections : IsRecord sparse.corrections.forms
      (ofJson (.object [("unit", .string "W/m²"), ("infrared", .double 0.5)])) :=
    ⟨_, [("infrared", ofJson (.double 0.5))], [("unit", ofJson (.string "W/m²"))], rfl,
      List.reverse_perm _, .leave rfl (.keep rfl (.leave rfl .nil)),
      by simp [FluxCorrections.forms, FieldForm.preset]⟩
  exact ⟨_, [("location", _), ("model_id", _), ("observation_mappings", _),
      ("flux_corrections", _)], [("note", _)], rfl, List.reverse_perm _,
    .keep isRecord_reversedPlace (.keep rfl (.keep hobservations (.leave rfl
      (.keep hcorrections (.leave rfl .nil))))), by
        simp [DescriptionConfig.forms, FieldForm.fixed]⟩

theorem isWrittenIn_reversed : sparse.IsWrittenIn reversed.toIndentedText := by
  have hexact : reversed.IsExact := by
    simp [reversed, reversedPlace, IsExact, AllExact, MembersExact, isExact_double]
  exact DescriptionConfig.isWrittenIn_of_spells isRecord_reversed hexact (spells_indented _ 0)

theorem isFinite_numbers_sparse : ∀ x ∈ sparse.numbers, x.isFinite = true := by decide +kernel

end Station

/-- The configuration is decoded from the document in reverse. -/
theorem Station.reversed_decoded :
    (∀ x ∈ sparse.numbers, x.isFinite = true) ∧ sparse.IsWrittenIn reversed.toIndentedText ∧
      decode DescriptionConfig.decoder reversed.toIndentedText = .ok sparse :=
  ⟨isFinite_numbers_sparse, isWrittenIn_reversed,
    (DescriptionConfig.decoded_from_content sparse isFinite_numbers_sparse).2.2 _
      isWrittenIn_reversed⟩

end RoadWeather
