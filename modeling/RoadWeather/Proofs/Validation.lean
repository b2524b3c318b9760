import Mathlib
import RoadWeather.Proofs.Assembly
import RoadWeather.Proofs.RoundingOrder

/-!
# Validation

A configuration becomes a description just if it is well formed (`DescriptionConfig.WellFormed`),
and it is kept as it is. One that is not is refused for the first rule that it breaks.

## Places

The rules are broken at places (`DescriptionConfig.BreaksAt`). A place is a list of numbers: that of
the rule, and for rules about sources that of the tag, that of the source in its list and that of
the two rules for a source. The order of validation is the order of these lists. So the error is
determined by what the configuration is, without a word on how it is searched: it is the one at the
least place that is broken (`IsFirst`).

## The search

Validation searches in lists, which are nested as the places are. So one lemma about a single search
(`isFirst_findSome?`) is applied level by level: it puts the position in the list in front of the
place in the member. At every place at most one rule is broken, and with one error
(`DescriptionConfig.BreaksAt.unique`).

The tests of single rules are comparisons of doubles and of texts. Each is replaced once by what it
means, and does not occur after that.
-/

namespace RoadWeather

open Binary64

/-! ## First problems -/

section FirstProblem

variable {α ε : Type} {problem problem' : List Nat → ε → Prop} {found : Option ε}

/-- What is found is the first of some problems, and nothing is found just if there is none. A
problem is at a place, and places are compared as lists of numbers. -/
def IsFirst (problem : List Nat → ε → Prop) : Option ε → Prop
  | none => ∀ place e, ¬ problem place e
  | some e => ∃ place, problem place e ∧ ∀ place' e', problem place' e' → ¬ place' < place

/-- A single problem that is at no further place is the first one. -/
theorem isFirst_of_iff (h : ∀ rest e, problem rest e ↔ rest = [] ∧ found = some e) :
    IsFirst problem found := by
  cases found with
  | none => exact fun rest e hproblem ↦ absurd ((h rest e).mp hproblem).2 (by simp)
  | some e => exact ⟨[], (h [] e).mpr ⟨rfl, rfl⟩, fun place' _ _ ↦ List.not_lt_nil place'⟩

theorem IsFirst.congr (h : IsFirst problem found)
    (heq : ∀ place e, problem place e ↔ problem' place e) : IsFirst problem' found := by
  obtain rfl : problem = problem' := funext fun place ↦ funext fun e ↦ propext (heq place e)
  exact h

/-- **A search through a list finds the first problem**, if what it finds in a member is the first
problem there. -/
theorem isFirst_findSome? {f : α → Option ε} {l : List α}
    (inside : ∀ i a, l[i]? = some a → IsFirst (fun rest e ↦ problem (i :: rest) e) (f a))
    (outside : ∀ place e, problem place e → ∃ i rest, place = i :: rest ∧ i < l.length) :
    IsFirst problem (l.findSome? f) := by
  cases hfound : l.findSome? f with
  | none =>
    intro place e hproblem
    obtain ⟨i, rest, rfl, hi⟩ := outside place e hproblem
    have hfirst := inside i l[i] (List.getElem?_eq_getElem hi)
    rw [List.findSome?_eq_none_iff.mp hfound _ (List.getElem_mem hi)] at hfirst
    exact hfirst rest e hproblem
  | some e =>
    obtain ⟨before, a, after, rfl, ha, hbefore⟩ := List.findSome?_eq_some_iff.mp hfound
    have hmember : (before ++ a :: after)[before.length]? = some a := by simp
    have hfirst := inside before.length a hmember
    rw [ha] at hfirst
    obtain ⟨rest, hproblem, hleast⟩ := hfirst
    refine ⟨before.length :: rest, hproblem, fun place' e' hproblem' ↦ ?_⟩
    obtain ⟨i, rest', rfl, hi⟩ := outside place' e' hproblem'
    intro hearlier
    rcases List.cons_lt_cons_iff.mp hearlier with hlt | ⟨rfl, hlt⟩
    · -- Nothing is found in the members before.
      have hnone := inside i before[i] (by rw [List.getElem?_append_left hlt]; simp [hlt])
      rw [hbefore _ (List.getElem_mem hlt)] at hnone
      exact hnone rest' e' hproblem'
    · exact hleast rest' e' hproblem' hlt

/-- So it does if the problems are members of the list, each at its position. -/
theorem isFirst_findSome?_of_iff {f : α → Option ε} {l : List α}
    (h : ∀ place e, problem place e ↔ ∃ i a, l[i]? = some a ∧ place = [i] ∧ f a = some e) :
    IsFirst problem (l.findSome? f) := by
  refine isFirst_findSome? (fun i a ha ↦ isFirst_of_iff fun rest e ↦ ?_) fun place e hproblem ↦ ?_
  · rw [h]
    constructor
    · rintro ⟨i', a', ha', hplace, he⟩
      obtain ⟨rfl, rfl⟩ := List.cons.inj hplace
      obtain rfl := Option.some.inj (ha.symm.trans ha')
      exact ⟨rfl, he⟩
    · rintro ⟨rfl, he⟩
      exact ⟨i, a, ha, rfl, he⟩
  · obtain ⟨i, a, ha, rfl, -⟩ := (h place e).mp hproblem
    exact ⟨i, [], rfl, (List.getElem?_eq_some_iff.mp ha).1⟩

theorem IsFirst.eq_some_iff (h : IsFirst problem found)
    (unique : ∀ place e e', problem place e → problem place e' → e = e') (e : ε) :
    found = some e ↔
      ∃ place, problem place e ∧ ∀ place' e', problem place' e' → ¬ place' < place := by
  constructor
  · rintro rfl
    exact h
  · rintro ⟨place, hproblem, hleast⟩
    cases found with
    | none => exact absurd hproblem (h place e)
    | some e' =>
      obtain ⟨place', hproblem', hleast'⟩ := h
      obtain rfl : place = place' :=
        le_antisymm (not_lt.mp (hleast place' e' hproblem')) (not_lt.mp (hleast' place e hproblem))
      rw [unique place e e' hproblem hproblem']

theorem IsFirst.eq_none_iff (h : IsFirst problem found) :
    found = none ↔ ∀ place e, ¬ problem place e := by
  constructor
  · rintro rfl
    exact h
  · intro hnone
    cases found with
    | none => rfl
    | some e =>
      obtain ⟨place, hproblem, -⟩ := h
      exact absurd hproblem (hnone place e)

end FirstProblem

/-! ## Well-formed configurations -/

/-- The coordinates are on the globe, and the elevation is a number if it is known. -/
structure Location.OnGlobe (l : Location) : Prop where
  isFinite_latitude : l.latitude.isFinite = true
  isFinite_longitude : l.longitude.isFinite = true
  latitude : |exact l.latitude| ≤ 90
  longitude : |exact l.longitude| ≤ 180
  elevation : ∀ x, l.elevation = some x → x.isFinite = true

/-- Both a parameter and a provider are named. -/
def DataSource.IsNamed (s : DataSource) : Prop := s.parameter ≠ "" ∧ s.sourceId ≠ ""

/-- A tag is mapped to a list that is not empty. -/
def Mapping.Supplies {τ : Type} (m : Mapping τ) (tag : τ) : Prop :=
  ∃ s rest, m tag = some (s :: rest)

/-- A factor is a number that is not below zero. -/
def FluxCorrections.Accepts (x : Float) : Prop := x.isFinite = true ∧ 0 ≤ exact x

/-- The method to compute shadows is one of two, if it is needed. -/
def RunMode.HasMethod (m : RunMode) : Prop :=
  m.enableSunshadow = true → m.sunshadowMethod = 1 ∨ m.sunshadowMethod = 2

def Tag.all : List Tag := ObservationTag.all.map .observation ++ ForecastTag.all.map .forecast

namespace DescriptionConfig

variable (c : DescriptionConfig)

def sources? : Tag → Option (List DataSource)
  | .observation tag => c.observations tag
  | .forecast tag => c.forecasts tag

/-- Something in the name of the model can be seen. -/
def HasModelId : Prop := ∃ ch ∈ c.modelId.toList, Text.isSpace ch = false

/-- What a configuration must be to become a description. -/
structure WellFormed : Prop where
  location : c.location.OnGlobe
  modelId : c.HasModelId
  observations : ∀ tag, c.observations.Supplies tag
  forecasts : ∀ tag, c.runMode.requires tag = true → c.forecasts.Supplies tag
  sources : ∀ tag list, c.sources? tag = some list → ∀ s ∈ list, s.IsNamed ∧ s.location.OnGlobe
  factors : ∀ name x, (name, x) ∈ c.corrections.named → FluxCorrections.Accepts x
  sunshadow : c.runMode.HasMethod

/-- The rules that a configuration breaks, each with its place and the error that it is reported
as. The number of the rule comes first, and then, where a rule is about several things, the number
of the thing. Sources are numbered by their tag and then in their list. -/
inductive BreaksAt : List Nat → DescriptionError → Prop
  | location (h : ¬ c.location.OnGlobe) : BreaksAt [0] (.invalidLocation c.location)
  | modelId (h : ¬ c.HasModelId) : BreaksAt [1] .emptyModelId
  | observation {i : Nat} {tag : ObservationTag} (htag : ObservationTag.all[i]? = some tag)
      (h : ¬ c.observations.Supplies tag) : BreaksAt [2, i] (.missingObservation tag)
  | forecast {i : Nat} {tag : ForecastTag} (htag : ForecastTag.all[i]? = some tag)
      (hneeded : c.runMode.requires tag = true) (h : ¬ c.forecasts.Supplies tag) :
      BreaksAt [3, i] (.missingForecast tag)
  | sourceName {i j : Nat} {tag : Tag} {list : List DataSource} {s : DataSource}
      (htag : Tag.all[i]? = some tag) (hlist : c.sources? tag = some list)
      (hs : list[j]? = some s) (h : ¬ s.IsNamed) : BreaksAt [4, i, j, 0] (.incompleteSource tag)
  | sourceLocation {i j : Nat} {tag : Tag} {list : List DataSource} {s : DataSource}
      (htag : Tag.all[i]? = some tag) (hlist : c.sources? tag = some list)
      (hs : list[j]? = some s) (h : ¬ s.location.OnGlobe) :
      BreaksAt [4, i, j, 1] (.invalidLocation s.location)
  | factor {i : Nat} {name : String} {x : Float}
      (hfactor : c.corrections.named[i]? = some (name, x)) (h : ¬ FluxCorrections.Accepts x) :
      BreaksAt [5, i] (.invalidFactor name x)
  | sunshadow (h : ¬ c.runMode.HasMethod) :
      BreaksAt [6] (.invalidSunshadowMethod c.runMode.sunshadowMethod)

end DescriptionConfig

theorem Tag.mem_all (tag : Tag) : tag ∈ all := by
  cases tag with
  | observation tag => exact List.mem_append_left _ (List.mem_map_of_mem tag.mem_all)
  | forecast tag => exact List.mem_append_right _ (List.mem_map_of_mem tag.mem_all)

/-! ## The tests of single rules

Each test is replaced by what it means. The bounds of coordinates are doubles, and a comparison of
doubles is false for a NaN. -/

theorem Location.isValid_iff (l : Location) : l.isValid = true ↔ l.OnGlobe := by
  have hlatitude : (ofInt (-90) ≤ l.latitude ∧ l.latitude ≤ ofInt 90) ↔
      l.latitude.isFinite = true ∧ |exact l.latitude| ≤ 90 := by
    rw [between_iff (by decide) (by decide), abs_le]
    norm_num
  have hlongitude : (ofInt (-180) ≤ l.longitude ∧ l.longitude ≤ ofInt 180) ↔
      l.longitude.isFinite = true ∧ |exact l.longitude| ≤ 180 := by
    rw [between_iff (by decide) (by decide), abs_le]
    norm_num
  have helevation : l.elevation.all Float.isFinite = true ↔
      ∀ x, l.elevation = some x → x.isFinite = true := by
    cases l.elevation <;> simp
  have hbounds : l.isValid = true ↔ (ofInt (-90) ≤ l.latitude ∧ l.latitude ≤ ofInt 90) ∧
      (ofInt (-180) ≤ l.longitude ∧ l.longitude ≤ ofInt 180) ∧
        l.elevation.all Float.isFinite = true := by
    simp only [isValid, Bool.and_eq_true, decide_eq_true_eq, and_assoc]
    exact Iff.rfl
  rw [hbounds, hlatitude, hlongitude, helevation]
  constructor
  · rintro ⟨⟨hlat, hlatBound⟩, ⟨hlon, hlonBound⟩, helev⟩
    exact ⟨hlat, hlon, hlatBound, hlonBound, helev⟩
  · rintro ⟨hlat, hlon, hlatBound, hlonBound, helev⟩
    exact ⟨⟨hlat, hlatBound⟩, ⟨hlon, hlonBound⟩, helev⟩

theorem FluxCorrections.isFactor_iff (x : Float) : isFactor x = true ↔ Accepts x := by
  rw [isFactor, Bool.and_eq_true, Accepts]
  refine and_congr_right fun hx ↦ ?_
  rw [Bool.not_eq_true', decide_eq_false_iff_not, lt_zero_iff hx, not_lt]

theorem Mapping.hasSource_iff {τ : Type} {m : Mapping τ} {tag : τ} :
    m.hasSource tag = true ↔ m.Supplies tag := by
  rw [hasSource, Supplies]
  cases m tag with
  | none => simp
  | some list => cases list <;> simp

theorem DataSource.isNamed_iff (s : DataSource) :
    (s.parameter.isEmpty || s.sourceId.isEmpty) = true ↔ ¬ s.IsNamed := by
  rw [IsNamed, Bool.or_eq_true, String.isEmpty_iff, String.isEmpty_iff, not_and_or, not_not,
    not_not]

theorem DescriptionConfig.isBlank_iff (c : DescriptionConfig) :
    Text.isBlank c.modelId = true ↔ ¬ c.HasModelId := by
  simp [Text.isBlank, HasModelId]

theorem RunMode.method_iff (m : RunMode) :
    (m.enableSunshadow && !(1 ≤ m.sunshadowMethod && m.sunshadowMethod ≤ 2)) = true ↔
      ¬ m.HasMethod := by
  have hbetween : (1 ≤ m.sunshadowMethod ∧ m.sunshadowMethod ≤ 2) ↔
      m.sunshadowMethod = 1 ∨ m.sunshadowMethod = 2 := by
    simp only [UInt8.le_iff_toNat_le, ← UInt8.toNat_inj]
    change 1 ≤ _ ∧ _ ≤ 2 ↔ _ = 1 ∨ _ = 2
    omega
  rw [HasMethod, Classical.not_imp, ← hbetween, Bool.and_eq_true, Bool.not_eq_true',
    ← Bool.not_eq_true, Bool.and_eq_true, decide_eq_true_iff, decide_eq_true_iff]

/-! ## The search for a broken rule -/

theorem findSome?_find? {α β : Type} (p : α → Bool) (g : α → β) (l : List α) :
    (l.find? p).map g = l.findSome? fun a ↦ if p a then some (g a) else none := by
  induction l with
  | nil => rfl
  | cons a rest ih =>
    rw [List.find?_cons, List.findSome?_cons]
    cases p a with
    | true => rfl
    | false => exact ih

theorem Mapping.findSome?_sources {τ β : Type} (m : Mapping τ) (f : τ × DataSource → Option β)
    (tags : List τ) :
    (m.sources tags).findSome? f
      = tags.findSome? fun tag ↦ ((m tag).getD []).findSome? fun s ↦ f (tag, s) := by
  induction tags with
  | nil => rfl
  | cons tag rest ih =>
    rw [List.findSome?_cons, ← ih, sources, sources, entries, entries, List.filterMap_cons]
    cases m tag with
    | none => rfl
    | some list =>
      simp only [Option.map_some, List.flatMap_cons, List.findSome?_append, List.findSome?_map,
        Option.getD_some, Function.comp_def]
      cases list.findSome? fun s ↦ f (tag, s) with
      | none => rfl
      | some e => rfl

namespace DescriptionConfig

variable {c : DescriptionConfig}

theorem findSome?_taggedSources {β : Type} (c : DescriptionConfig)
    (f : Tag × DataSource → Option β) :
    c.taggedSources.findSome? f
      = Tag.all.findSome? fun tag ↦ ((c.sources? tag).getD []).findSome? fun s ↦ f (tag, s) := by
  rw [taggedSources, Tag.all, List.findSome?_append, List.findSome?_append, List.findSome?_map,
    List.findSome?_map, List.findSome?_map, List.findSome?_map, Mapping.findSome?_sources,
    Mapping.findSome?_sources]
  rfl

/-- What single rules find, in the order of the rules. -/
def faults (c : DescriptionConfig) : List (Option DescriptionError) := [
  if c.location.isValid then none else some (.invalidLocation c.location),
  if Text.isBlank c.modelId then some .emptyModelId else none,
  ObservationTag.all.findSome? fun tag ↦
    if !c.observations.hasSource tag then some (.missingObservation tag) else none,
  ForecastTag.all.findSome? fun tag ↦
    if c.runMode.requires tag && !c.forecasts.hasSource tag then some (.missingForecast tag)
    else none,
  Tag.all.findSome? fun tag ↦ ((c.sources? tag).getD []).findSome? (sourceFault? tag),
  c.corrections.named.findSome? fun (name, value) ↦ factorFault? name value,
  if c.runMode.enableSunshadow && !(1 ≤ c.runMode.sunshadowMethod &&
      c.runMode.sunshadowMethod ≤ 2)
    then some (.invalidSunshadowMethod c.runMode.sunshadowMethod) else none]

theorem fault?_eq_findSome? (c : DescriptionConfig) : c.fault? = c.faults.findSome? id := by
  have hor : ∀ (o : Option DescriptionError) (l : List (Option DescriptionError)),
      (o :: l).findSome? id = o.or (l.findSome? id) := by
    intro o l
    cases o <;> rfl
  have hforecasts : (c.runMode.requiredForecasts.find? (!c.forecasts.hasSource ·)).map
        DescriptionError.missingForecast
      = ForecastTag.all.findSome? fun tag ↦
          if c.runMode.requires tag && !c.forecasts.hasSource tag then
            some (.missingForecast tag) else none := by
    rw [RunMode.requiredForecasts, List.find?_filter, findSome?_find?]
    simp
  rw [fault?, faults, findSome?_find?, hforecasts, findSome?_taggedSources]
  simp only [hor, Option.orElse_eq_orElse, Option.orElse_eq_or, List.findSome?_nil, Option.or_none]

/-- What is wrong with a source of a tag: its name at the first place, its location at the other. -/
def SourceBreaks (tag : Tag) (s : DataSource) (rest : List Nat) (e : DescriptionError) : Prop :=
  rest = [0] ∧ ¬ s.IsNamed ∧ e = .incompleteSource tag ∨
    rest = [1] ∧ ¬ s.location.OnGlobe ∧ e = .invalidLocation s.location

theorem isFirst_sourceFault? (tag : Tag) (s : DataSource) :
    IsFirst (SourceBreaks tag s) (sourceFault? tag s) := by
  rw [sourceFault?]
  by_cases hnamed : s.IsNamed
  · have hvalid := s.location.isValid_iff
    rw [if_neg (fun h ↦ s.isNamed_iff.mp h hnamed)]
    by_cases hglobe : s.location.OnGlobe
    · rw [hvalid.mpr hglobe]
      rintro rest e (⟨-, h, -⟩ | ⟨-, h, -⟩)
      · exact h hnamed
      · exact h hglobe
    · rw [if_pos (by rw [Bool.not_eq_true', ← Bool.not_eq_true, hvalid]; exact hglobe)]
      refine ⟨[1], Or.inr ⟨rfl, hglobe, rfl⟩, ?_⟩
      rintro place' e' (⟨-, h, -⟩ | ⟨rfl, -, -⟩)
      · exact absurd hnamed h
      · exact lt_irrefl _
  · rw [if_pos (s.isNamed_iff.mpr hnamed)]
    refine ⟨[0], Or.inl ⟨rfl, hnamed, rfl⟩, ?_⟩
    rintro place' e' (⟨rfl, -, -⟩ | ⟨rfl, -, -⟩)
    · exact lt_irrefl _
    · decide

theorem BreaksAt.exists_source {place : List Nat} {e : DescriptionError}
    (h : c.BreaksAt (4 :: place) e) :
    ∃ i j rest tag list s, place = i :: j :: rest ∧ Tag.all[i]? = some tag ∧
      c.sources? tag = some list ∧ list[j]? = some s ∧ SourceBreaks tag s rest e := by
  cases h with
  | sourceName htag hlist hs h =>
    exact ⟨_, _, _, _, _, _, rfl, htag, hlist, hs, Or.inl ⟨rfl, h, rfl⟩⟩
  | sourceLocation htag hlist hs h =>
    exact ⟨_, _, _, _, _, _, rfl, htag, hlist, hs, Or.inr ⟨rfl, h, rfl⟩⟩

theorem breaksAt_source_iff {i j : Nat} {tag : Tag} {list : List DataSource} {s : DataSource}
    (htag : Tag.all[i]? = some tag) (hlist : c.sources? tag = some list)
    (hs : list[j]? = some s) {rest : List Nat} {e : DescriptionError} :
    c.BreaksAt (4 :: i :: j :: rest) e ↔ SourceBreaks tag s rest e := by
  constructor
  · intro h
    obtain ⟨_, _, _, _, _, _, hplace, htag', hlist', hs', h⟩ := h.exists_source
    obtain ⟨rfl, hrest⟩ := List.cons.inj hplace
    obtain ⟨rfl, rfl⟩ := List.cons.inj hrest
    obtain rfl := Option.some.inj (htag.symm.trans htag')
    obtain rfl := Option.some.inj (hlist.symm.trans hlist')
    obtain rfl := Option.some.inj (hs.symm.trans hs')
    exact h
  · rintro (⟨rfl, h, rfl⟩ | ⟨rfl, h, rfl⟩)
    · exact .sourceName htag hlist hs h
    · exact .sourceLocation htag hlist hs h

theorem isFirst_sources (c : DescriptionConfig) :
    IsFirst (fun rest e ↦ c.BreaksAt (4 :: rest) e)
      (Tag.all.findSome? fun tag ↦ ((c.sources? tag).getD []).findSome? (sourceFault? tag)) := by
  refine isFirst_findSome? (fun i tag htag ↦ ?_) (fun place e h ↦ ?_)
  · cases hlist : c.sources? tag with
    | none =>
      intro rest e h
      obtain ⟨_, _, _, _, _, _, hplace, htag', hlist', -⟩ := h.exists_source
      obtain ⟨rfl, -⟩ := List.cons.inj hplace
      obtain rfl := Option.some.inj (htag.symm.trans htag')
      cases hlist.symm.trans hlist'
    | some list =>
      refine isFirst_findSome? (fun j s hs ↦ ?_) (fun rest e h ↦ ?_)
      · exact (isFirst_sourceFault? tag s).congr fun _ _ ↦ (breaksAt_source_iff htag hlist hs).symm
      · obtain ⟨_, j, rest, _, _, _, hplace, htag', hlist', hs, -⟩ := h.exists_source
        obtain ⟨rfl, rfl⟩ := List.cons.inj hplace
        obtain rfl := Option.some.inj (htag.symm.trans htag')
        obtain rfl := Option.some.inj (hlist.symm.trans hlist')
        exact ⟨j, rest, rfl, (List.getElem?_eq_some_iff.mp hs).1⟩
  · obtain ⟨i, _, _, _, _, _, rfl, htag, -⟩ := h.exists_source
    exact ⟨i, _, rfl, (List.getElem?_eq_some_iff.mp htag).1⟩

theorem isFirst_observations (c : DescriptionConfig) :
    IsFirst (fun rest e ↦ c.BreaksAt (2 :: rest) e)
      (ObservationTag.all.findSome? fun tag ↦
        if !c.observations.hasSource tag then some (.missingObservation tag) else none) := by
  refine isFirst_findSome?_of_iff fun place e ↦ ?_
  simp only [Option.ite_none_right_eq_some, Bool.not_eq_true', ← Bool.not_eq_true,
    Mapping.hasSource_iff]
  constructor
  · intro h
    cases h with
    | observation htag h => exact ⟨_, _, htag, rfl, h, rfl⟩
  · rintro ⟨i, tag, htag, rfl, h, he⟩
    obtain rfl := Option.some.inj he
    exact .observation htag h

theorem isFirst_forecasts (c : DescriptionConfig) :
    IsFirst (fun rest e ↦ c.BreaksAt (3 :: rest) e)
      (ForecastTag.all.findSome? fun tag ↦
        if c.runMode.requires tag && !c.forecasts.hasSource tag then some (.missingForecast tag)
        else none) := by
  refine isFirst_findSome?_of_iff fun place e ↦ ?_
  simp only [Option.ite_none_right_eq_some, Bool.and_eq_true, Bool.not_eq_true',
    ← Bool.not_eq_true, Mapping.hasSource_iff]
  constructor
  · intro h
    cases h with
    | forecast htag hneeded h => exact ⟨_, _, htag, rfl, ⟨hneeded, h⟩, rfl⟩
  · rintro ⟨i, tag, htag, rfl, ⟨hneeded, h⟩, he⟩
    obtain rfl := Option.some.inj he
    exact .forecast htag hneeded h

theorem isFirst_factors (c : DescriptionConfig) :
    IsFirst (fun rest e ↦ c.BreaksAt (5 :: rest) e)
      (c.corrections.named.findSome? fun (name, value) ↦ factorFault? name value) := by
  refine isFirst_findSome?_of_iff fun place e ↦ ?_
  simp only [factorFault?, Option.ite_none_left_eq_some, FluxCorrections.isFactor_iff]
  constructor
  · intro h
    cases h with
    | factor hfactor h => exact ⟨_, _, hfactor, rfl, h, rfl⟩
  · rintro ⟨i, ⟨name, x⟩, hfactor, rfl, h, he⟩
    obtain rfl := Option.some.inj he
    exact .factor hfactor h

/-- **Validation finds the first broken rule**, if there is any. -/
theorem isFirst_fault? (c : DescriptionConfig) : IsFirst c.BreaksAt c.fault? := by
  rw [fault?_eq_findSome?]
  refine isFirst_findSome? (fun i fault hfault ↦ ?_) (fun place e h ↦ ?_)
  · match i, hfault with
    | 0, rfl =>
      refine isFirst_of_iff fun rest e ↦ ?_
      rw [id, Option.ite_none_left_eq_some, Location.isValid_iff]
      constructor
      · intro h
        cases h with
        | location h => exact ⟨rfl, h, rfl⟩
      · rintro ⟨rfl, h, he⟩
        obtain rfl := Option.some.inj he
        exact .location h
    | 1, rfl =>
      refine isFirst_of_iff fun rest e ↦ ?_
      rw [id, Option.ite_none_right_eq_some, isBlank_iff]
      constructor
      · intro h
        cases h with
        | modelId h => exact ⟨rfl, h, rfl⟩
      · rintro ⟨rfl, h, he⟩
        obtain rfl := Option.some.inj he
        exact .modelId h
    | 2, rfl => exact c.isFirst_observations
    | 3, rfl => exact c.isFirst_forecasts
    | 4, rfl => exact c.isFirst_sources
    | 5, rfl => exact c.isFirst_factors
    | 6, rfl =>
      refine isFirst_of_iff fun rest e ↦ ?_
      rw [id, Option.ite_none_right_eq_some, RunMode.method_iff]
      constructor
      · intro h
        cases h with
        | sunshadow h => exact ⟨rfl, h, rfl⟩
      · rintro ⟨rfl, h, he⟩
        obtain rfl := Option.some.inj he
        exact .sunshadow h
  · have hlength : c.faults.length = 7 := rfl
    rw [hlength]
    cases h <;> exact ⟨_, _, rfl, by decide⟩

theorem BreaksAt.unique {place : List Nat} {e e' : DescriptionError} (h : c.BreaksAt place e)
    (h' : c.BreaksAt place e') : e = e' := by
  cases h with
  | location => cases h'; rfl
  | modelId => cases h'; rfl
  | observation htag =>
    cases h' with
    | observation htag' => rw [Option.some.inj (htag.symm.trans htag')]
  | forecast htag =>
    cases h' with
    | forecast htag' => rw [Option.some.inj (htag.symm.trans htag')]
  | sourceName htag =>
    cases h' with
    | sourceName htag' => rw [Option.some.inj (htag.symm.trans htag')]
  | sourceLocation htag hlist hs =>
    cases h' with
    | sourceLocation htag' hlist' hs' =>
      obtain rfl := Option.some.inj (htag.symm.trans htag')
      obtain rfl := Option.some.inj (hlist.symm.trans hlist')
      rw [Option.some.inj (hs.symm.trans hs')]
  | factor hfactor =>
    cases h' with
    | factor hfactor' =>
      obtain ⟨rfl, rfl⟩ := Prod.mk.inj (Option.some.inj (hfactor.symm.trans hfactor'))
      rfl
  | sunshadow => cases h'; rfl

/-- Well-formed is what breaks no rule. -/
theorem wellFormed_iff (c : DescriptionConfig) :
    c.WellFormed ↔ ∀ place e, ¬ c.BreaksAt place e := by
  constructor
  · intro wellFormed place e h
    cases h with
    | location h => exact h wellFormed.location
    | modelId h => exact h wellFormed.modelId
    | observation _ h => exact h (wellFormed.observations _)
    | forecast _ hneeded h => exact h (wellFormed.forecasts _ hneeded)
    | sourceName _ hlist hs h =>
      exact h (wellFormed.sources _ _ hlist _ (List.mem_of_getElem? hs)).1
    | sourceLocation _ hlist hs h =>
      exact h (wellFormed.sources _ _ hlist _ (List.mem_of_getElem? hs)).2
    | factor hfactor h => exact h (wellFormed.factors _ _ (List.mem_of_getElem? hfactor))
    | sunshadow h => exact h wellFormed.sunshadow
  · intro hnone
    refine ⟨?_, ?_, ?_, ?_, ?_, ?_, ?_⟩
    · exact not_not.mp fun h ↦ hnone _ _ (.location h)
    · exact not_not.mp fun h ↦ hnone _ _ (.modelId h)
    · intro tag
      obtain ⟨i, htag⟩ := List.mem_iff_getElem?.mp tag.mem_all
      exact not_not.mp fun h ↦ hnone _ _ (.observation htag h)
    · intro tag hneeded
      obtain ⟨i, htag⟩ := List.mem_iff_getElem?.mp tag.mem_all
      exact not_not.mp fun h ↦ hnone _ _ (.forecast htag hneeded h)
    · intro tag list hlist s hs
      obtain ⟨i, htag⟩ := List.mem_iff_getElem?.mp tag.mem_all
      obtain ⟨j, hs⟩ := List.mem_iff_getElem?.mp hs
      exact ⟨not_not.mp fun h ↦ hnone _ _ (.sourceName htag hlist hs h),
        not_not.mp fun h ↦ hnone _ _ (.sourceLocation htag hlist hs h)⟩
    · intro name x hfactor
      obtain ⟨i, hfactor⟩ := List.mem_iff_getElem?.mp hfactor
      exact not_not.mp fun h ↦ hnone _ _ (.factor hfactor h)
    · exact not_not.mp fun h ↦ hnone _ _ (.sunshadow h)

end DescriptionConfig

namespace Description

variable {c : DescriptionConfig}

theorem ofConfig_eq_ok_iff {d : Description} : ofConfig c = .ok d ↔ d.config = c := by
  constructor
  · exact config_of_ofConfig
  · rintro rfl
    exact d.ofConfig_config

theorem ofConfig_eq_error_iff {e : DescriptionError} :
    ofConfig c = .error e ↔ c.fault? = some e := by
  unfold ofConfig
  split
  · next hnone =>
    refine iff_of_false (fun hok ↦ ?_) (fun hsome ↦ ?_)
    · cases hok
    · cases hnone.symm.trans hsome
  · next fault hfault => rw [hfault, Except.error.injEq, Option.some.injEq]

theorem exists_ofConfig_iff : (∃ d, ofConfig c = .ok d) ↔ c.fault? = none := by
  constructor
  · rintro ⟨d, hd⟩
    rw [← config_of_ofConfig hd]
    exact d.valid
  · intro hnone
    exact ⟨⟨c, hnone⟩, ofConfig_config ⟨c, hnone⟩⟩

/-- **Validation accepts exactly the well-formed configurations.** An accepted one is kept as it is,
with its location, model, mappings, corrections and run mode, and so the configuration of the
description is the one it was made from. A configuration is refused with an error just if the error
is that of a broken rule and no rule is broken at an earlier place. -/
theorem ofConfig_accepts_wellFormed (c : DescriptionConfig) :
    ((∃ d, ofConfig c = .ok d) ↔ c.WellFormed) ∧
    (∀ d, ofConfig c = .ok d ↔ d.config = c) ∧
    ∀ e, ofConfig c = .error e ↔
      ∃ place, c.BreaksAt place e ∧ ∀ place' e', c.BreaksAt place' e' → ¬ place' < place := by
  have hfirst := c.isFirst_fault?
  refine ⟨?_, fun d ↦ ofConfig_eq_ok_iff, fun e ↦ ?_⟩
  · rw [exists_ofConfig_iff, hfirst.eq_none_iff, c.wellFormed_iff]
  · rw [ofConfig_eq_error_iff]
    exact hfirst.eq_some_iff (fun _ _ _ ↦ DescriptionConfig.BreaksAt.unique) e

end Description

/-! ## A station with several faults -/

namespace Station

/-- The second snow forecast has no model, the place of the first one is beyond a pole, a factor is
below zero, and there is no third method to compute shadows. -/
def neglected : DescriptionConfig :=
  { config with
    forecasts := config.forecasts.set .snowAccumulation
      [⟨.forecast, ⟨91, 11, none⟩, "Forecasted snow accumulation in [cm] over 1h", "model"⟩,
        ⟨.forecast, place, "Forecasted snow accumulation in [mm] over 1h", ""⟩]
    corrections := { infrared := -0.5 }
    runMode := { enableSunshadow := true, sunshadowMethod := 3 } }

/-- The configuration of the station is well formed. The neglected one is refused for a place beyond
the pole, since that is the first of its faults. -/
theorem ofConfig_neglected :
    config.WellFormed ∧ ¬ neglected.WellFormed ∧
      ∃ place, neglected.BreaksAt place (.invalidLocation ⟨91, 11, none⟩) ∧
        ∀ place' e', neglected.BreaksAt place' e' → ¬ place' < place := by
  have hrefused : Description.ofConfig neglected = .error (.invalidLocation ⟨91, 11, none⟩) :=
    Description.ofConfig_eq_error_iff.mpr (by rfl)
  refine ⟨?_, fun hwellFormed ↦ ?_, ?_⟩
  · exact (Description.ofConfig_accepts_wellFormed config).1.mp
      ⟨description, description.ofConfig_config⟩
  · obtain ⟨d, hd⟩ := (Description.ofConfig_accepts_wellFormed neglected).1.mpr hwellFormed
    cases hrefused.symm.trans hd
  · exact ((Description.ofConfig_accepts_wellFormed neglected).2.2 _).mp hrefused

end Station

end RoadWeather
