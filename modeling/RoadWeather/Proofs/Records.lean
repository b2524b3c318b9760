import RoadWeather.Json.Decoder
import RoadWeather.Proofs.JsonText

/-!
# Records found in objects

What a record decoder finds in an object depends on the members of its fields only: a field has the
value of the one member with its name, or its default where there is none (`Fields.Finds`). Other
members are stepped over, and the order of the members makes no difference.

## The argument

A decoder goes through the members and adds each to what has been found (`Fields.add`). For a
description of two parts, what has been found is a pair, and each member belongs to one part at most
since they share no name (`Fields.add_and`). So the two parts collect side by side and independently
of each other (`Fields.collect_and`). The induction on the members is made once, for pairs; after
that only single fields are left, and they are found by the one member with their name.

A member that is no field has to be stepped over, which can fail. For a member that is complete it
does not (`Draft.skip_ofJson`).
-/

namespace RoadWeather.Json

open Draft

/-! ## Whole documents -/

theorem spelledBy_of_spells {j : Json} {s : List Char} (hexact : j.IsExact) (h : j.Spells s) :
    (ofJson j).SpelledBy (String.ofList s) :=
  ⟨[], s, [], spells_ofJson j hexact h, isBlankText_nil, isBlankText_nil,
    by rw [List.nil_append, List.append_nil]⟩

theorem decode_of_spells {α : Type} {value : Decoder α} {j : Json} {s : List Char}
    (hexact : j.IsExact) (h : j.Spells s) : decode value (String.ofList s) = value (ofJson j) :=
  (spelledBy_of_spells hexact h).decode_eq value

/-! ## Items and members -/

namespace Draft

def Items.ofList : List Draft → Items
  | [] => .done
  | d :: ds => .item d (ofList ds)

def Entries.ofList : List (String × Draft) → Entries
  | [] => .done
  | (key, d) :: members => .entry (.ok key) d (ofList members)

@[simp] theorem ofItems_eq (items : List Json) :
    ofItems items = Items.ofList (items.map ofJson) := by
  induction items with
  | nil => rfl
  | cons item items ih => rw [ofItems, ih]; rfl

@[simp] theorem ofMembers_eq (members : List (String × Json)) :
    ofMembers members = Entries.ofList (members.map fun m ↦ (m.1, ofJson m.2)) := by
  induction members with
  | nil => rfl
  | cons member members ih => rw [ofMembers, ih]; rfl

theorem skipItems_ofList_iff {ds : List Draft} :
    skipItems (.ofList ds) = .ok () ↔ ∀ d ∈ ds, d.skip = .ok () := by
  induction ds with
  | nil => simp [Items.ofList, skipItems]
  | cons d ds ih =>
    rw [List.forall_mem_cons, ← ih, Items.ofList, skipItems]
    cases d.skip with
    | error f => exact ⟨fun h ↦ (nomatch h), fun h ↦ nomatch h.1⟩
    | ok _ => exact ⟨fun h ↦ ⟨rfl, h⟩, fun h ↦ h.2⟩

theorem skipEntries_ofList_iff {members : List (String × Draft)} :
    skipEntries (.ofList members) = .ok () ↔ ∀ m ∈ members, m.2.skip = .ok () := by
  induction members with
  | nil => simp [Entries.ofList, skipEntries]
  | cons m members ih =>
    rw [List.forall_mem_cons, ← ih, Entries.ofList, skipEntries]
    cases m.2.skip with
    | error f => exact ⟨fun h ↦ (nomatch h), fun h ↦ nomatch h.1⟩
    | ok _ => exact ⟨fun h ↦ ⟨rfl, h⟩, fun h ↦ h.2⟩

mutual

@[simp] theorem skip_ofJson : ∀ j : Json, skip (ofJson j) = .ok ()
  | .null => rfl
  | .bool _ => rfl
  | .number _ => rfl
  | .string _ => rfl
  | .array items => skipItems_ofItems items
  | .object members => skipEntries_ofMembers members

theorem skipItems_ofItems : ∀ items, skipItems (ofItems items) = .ok ()
  | [] => rfl
  | item :: items => by
    rw [ofItems, skipItems, skip_ofJson item]
    exact skipItems_ofItems items

theorem skipEntries_ofMembers : ∀ members, skipEntries (ofMembers members) = .ok ()
  | [] => rfl
  | (key, value) :: members => by
    rw [ofMembers, skipEntries, skip_ofJson value]
    exact skipEntries_ofMembers members

end

end Draft

/-! ## Lists -/

theorem Decoder.list_ofList {α : Type} {value : Decoder α} {as : List α} {ds : List Draft}
    (h : List.Forall₂ (fun a d ↦ value d = .ok a) as ds) :
    Decoder.list value (.array (.ofList ds)) = .ok as := by
  rw [Decoder.list]
  induction h with
  | nil => rfl
  | cons hitem _ ih =>
    rw [Items.ofList, Decoder.items, hitem, ih]
    rfl

theorem Decoder.list_ofJson {α : Type} {value : Decoder α} {encode : α → Json} {as : List α}
    (h : ∀ a ∈ as, value (ofJson (encode a)) = .ok a) :
    Decoder.list value (ofJson (.array (as.map encode))) = .ok as := by
  rw [ofJson, ofItems_eq, List.map_map]
  refine Decoder.list_ofList (List.forall₂_map_right_iff.mpr (List.forall₂_same.mpr h))

/-! ## Fields

What a description collects is followed member by member, from what has been found before each. -/

namespace Fields

variable {α β σ τ : Type} {f : Fields α σ} {g : Fields β τ} {members : List (String × Draft)}
  {name : String} {names names' : List String} {value : Decoder α} {a : α} {b : β}

/-- Whether fields of the given names find a record among the members of an object. -/
structure Finds (f : Fields α σ) (names : List String) (members : List (String × Draft)) (a : α) :
    Prop where
  isSome_member_iff : ∀ key found, (f.member key found).isSome = true ↔ key ∈ names
  collect_finish : ∃ found, f.collect f.start (.ofList members) = .ok found ∧
    f.finish found = .ok a

theorem Finds.decoder_eq (h : f.Finds names members a) (typeName : String) :
    f.decoder typeName (.object (.ofList members)) = .ok a := by
  obtain ⟨found, hcollect, hfinish⟩ := h.collect_finish
  rw [Fields.decoder, hcollect]
  exact hfinish

/-- One member, added to what has been found. A member that is no field is stepped over. -/
def add (f : Fields α σ) (found : σ) (key : String) (d : Draft) : Except DecodeError σ :=
  match f.member key found with
  | some r => r >>= fun add ↦ add d
  | none => (wanted d.skip).map fun _ ↦ found

theorem collect_cons (found : σ) (key : String) (d : Draft) :
    f.collect found (.ofList ((key, d) :: members))
      = f.add found key d >>= fun found ↦ f.collect found (.ofList members) := by
  rw [Entries.ofList, collect, wanted, add]
  change (match f.member key found with
    | some r => _
    | none => _) = _
  cases f.member key found with
  | none => cases d.skip <;> rfl
  | some r =>
    cases r with
    | error e => rfl
    | ok add => rfl

theorem collect_cons_of_add {found found' : σ} {key : String} {d : Draft}
    (h : f.add found key d = .ok found') :
    f.collect found (.ofList ((key, d) :: members)) = f.collect found' (.ofList members) := by
  rw [collect_cons, h]
  rfl

theorem add_of_collect_cons {found last : σ} {key : String} {d : Draft}
    (h : f.collect found (.ofList ((key, d) :: members)) = .ok last) :
    ∃ found', f.add found key d = .ok found' ∧ f.collect found' (.ofList members) = .ok last := by
  rw [collect_cons] at h
  cases hadd : f.add found key d with
  | error e =>
    rw [hadd] at h
    cases h
  | ok found' =>
    rw [hadd] at h
    exact ⟨found', rfl, h⟩

theorem eq_of_add_of_none {found found' : σ} {key : String} {d : Draft}
    (hmember : f.member key found = none) (h : f.add found key d = .ok found') :
    found' = found := by
  rw [add, hmember] at h
  cases hskip : d.skip with
  | error e =>
    rw [hskip] at h
    cases h
  | ok _ =>
    rw [hskip] at h
    exact (Except.ok.inj h).symm

/-- A member that two descriptions without a common name add, each to its own part. -/
theorem add_and {s s' : σ} {t t' : τ} {key : String} {d : Draft}
    (hdisjoint : (f.member key s).isSome = true → g.member key t = none)
    (hs : f.add s key d = .ok s') (ht : g.add t key d = .ok t') :
    (f.and g).add (s, t) key d = .ok (s', t') := by
  cases hf : f.member key s with
  | some r =>
    obtain rfl := eq_of_add_of_none (hdisjoint (by rw [hf]; rfl)) ht
    simp only [add, Fields.and, hf] at hs ⊢
    cases r with
    | error e => cases hs
    | ok add =>
      change (add d).map (·, t') = _
      rw [show add d = .ok s' from hs]
      rfl
  | none =>
    obtain rfl := eq_of_add_of_none hf hs
    simp only [add, Fields.and, hf] at ht ⊢
    cases hg : g.member key t with
    | none =>
      rw [hg] at ht
      dsimp only [Option.map_none] at ht ⊢
      cases hskip : d.skip with
      | error e =>
        rw [hskip] at ht
        cases ht
      | ok _ =>
        rw [hskip] at ht
        obtain rfl := Except.ok.inj ht
        rfl
    | some r =>
      rw [hg] at ht
      cases r with
      | error e => cases ht
      | ok add =>
        change (add d).map (s', ·) = _
        rw [show add d = .ok t' from ht]
        rfl

/-- Descriptions without a common name collect their fields side by side. -/
theorem collect_and (hdisjoint : ∀ key s t, (f.member key s).isSome = true → g.member key t = none)
    {s s' : σ} {t t' : τ} (hs : f.collect s (.ofList members) = .ok s')
    (ht : g.collect t (.ofList members) = .ok t') :
    (f.and g).collect (s, t) (.ofList members) = .ok (s', t') := by
  induction members generalizing s t with
  | nil =>
    obtain rfl := Except.ok.inj hs
    obtain rfl := Except.ok.inj ht
    rfl
  | cons member members ih =>
    obtain ⟨key, d⟩ := member
    obtain ⟨s₁, hadds, hs⟩ := add_of_collect_cons hs
    obtain ⟨t₁, haddt, ht⟩ := add_of_collect_cons ht
    rw [collect_cons_of_add (add_and (hdisjoint key s t) hadds haddt)]
    exact ih hs ht

/-- **Two parts of a record are found independently of each other.** -/
theorem Finds.and (hf : f.Finds names members a) (hg : g.Finds names' members b)
    (hdisjoint : names.Disjoint names') : (f.and g).Finds (names ++ names') members (a, b) where
  isSome_member_iff key found := by
    rw [List.mem_append, ← hf.isSome_member_iff key found.1, ← hg.isSome_member_iff key found.2]
    simp only [Fields.and]
    cases f.member key found.1 <;> simp
  collect_finish := by
    obtain ⟨s, hs, ha⟩ := hf.collect_finish
    obtain ⟨t, ht, hb⟩ := hg.collect_finish
    refine ⟨(s, t), collect_and (fun key s t hkey ↦ ?_) hs ht, ?_⟩
    · rw [← Option.not_isSome_iff_eq_none, hg.isSome_member_iff key t]
      exact hdisjoint ((hf.isSome_member_iff key s).mp hkey)
    · simp only [Fields.and, ha, hb]
      rfl

theorem isSome_member_one (default : Option α) (key : String) (found : Option α) :
    ((one name value default).member key found).isSome = true ↔ key ∈ [name] := by
  simp only [one]
  split <;> simp_all

theorem add_one_of_ne {default found : Option α} {key : String} (hkey : key ≠ name) {d : Draft}
    (hskip : d.skip = .ok ()) : (one name value default).add found key d = .ok found := by
  simp only [add, one, if_neg hkey, hskip]
  rfl

theorem add_one {default : Option α} {d : Draft} (hvalue : value d = .ok a) :
    (one name value default).add none name d = .ok (some a) := by
  simp only [add, one, if_pos]
  change (value d).map some = _
  rw [hvalue]
  rfl

theorem collect_one_of_absent {default found : Option α}
    (hskip : ∀ m ∈ members, m.2.skip = .ok ()) (h : members.filter (fun m ↦ m.1 = name) = []) :
    (one name value default).collect found (.ofList members) = .ok found := by
  induction members with
  | nil => rfl
  | cons member members ih =>
    obtain ⟨key, d⟩ := member
    obtain ⟨hd, hskip⟩ := List.forall_mem_cons.mp hskip
    rw [List.filter_cons] at h
    split at h
    · cases h
    · next hkey =>
      have hkey : key ≠ name := by simpa using hkey
      rw [collect_cons_of_add (add_one_of_ne hkey hd)]
      exact ih hskip h

theorem collect_one_of_member {default : Option α} {d : Draft}
    (hskip : ∀ m ∈ members, m.2.skip = .ok ())
    (h : members.filter (fun m ↦ m.1 = name) = [(name, d)]) (hvalue : value d = .ok a) :
    (one name value default).collect none (.ofList members) = .ok (some a) := by
  induction members with
  | nil => cases h
  | cons member members ih =>
    obtain ⟨key, e⟩ := member
    obtain ⟨he, hskip⟩ := List.forall_mem_cons.mp hskip
    rw [List.filter_cons] at h
    split at h
    · next hkey =>
      obtain ⟨hmember, hrest⟩ := List.cons.inj h
      obtain ⟨rfl, rfl⟩ := Prod.mk.inj hmember
      rw [collect_cons_of_add (add_one hvalue)]
      exact collect_one_of_absent hskip hrest
    · next hkey =>
      have hkey : key ≠ name := by simpa using hkey
      rw [collect_cons_of_add (add_one_of_ne hkey he)]
      exact ih hskip h

/-- A field has the value of the one member with its name. -/
theorem finds_one {default : Option α} {d : Draft} (hskip : ∀ m ∈ members, m.2.skip = .ok ())
    (h : members.filter (fun m ↦ m.1 = name) = [(name, d)]) (hvalue : value d = .ok a) :
    (one name value default).Finds [name] members a :=
  ⟨isSome_member_one default, some a, collect_one_of_member hskip h hvalue, rfl⟩

theorem finds_default (hskip : ∀ m ∈ members, m.2.skip = .ok ())
    (h : members.filter (fun m ↦ m.1 = name) = []) :
    (one name value (some a)).Finds [name] members a :=
  ⟨isSome_member_one (some a), none, collect_one_of_absent hskip h, rfl⟩

end Fields

end RoadWeather.Json
