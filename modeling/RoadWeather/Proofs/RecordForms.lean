import RoadWeather.Proofs.Records

/-!
# Ways of writing a record

A record may be written in many ways: its members may come in any order, others may stand among
them, and a field may be left out if its value is the default. All of them are records of the same
fields (`IsRecord`). A description of fields finds a record in all of its ways as soon as it finds
each of its fields in all ways of writing that field (`Fields.Reads`).

## Field by field

A record is a permutation of the members kept and of others, and a permutation is nothing to do an
induction on when a decoder goes through the members. So the record is first taken apart into what
each of its fields has to do with the members (`FieldForm.IsIn`): one of them has its name, or none.
This is the same for every order (`FieldForm.IsIn.of_perm`), and it is what a description of one
field can be held against. Descriptions of several fields follow by the structure of the
description (`Fields.Reads.and`), as their names are different.
-/

namespace RoadWeather.Json

open Draft

/-- A field of a record with its value, as it may be written: under which name, what may stand
there, and whether it may be left out. -/
structure FieldForm where
  name : String
  IsValue : Draft → Prop
  MayLack : Prop

def FieldForm.fixed (name : String) (j : Json) : FieldForm := ⟨name, (· = ofJson j), False⟩

/-- A field whose value has one form, and that may be left out where it has its default. -/
def FieldForm.preset {α : Type} (name : String) (encode : α → Json) (value default : α) :
    FieldForm :=
  ⟨name, (· = ofJson (encode value)), value = default⟩

/-- The members of some fields, in the order of the fields and without those left out. -/
inductive KeptMembers : List FieldForm → List (String × Draft) → Prop
  | nil : KeptMembers [] []
  | keep {form : FieldForm} {forms : List FieldForm} {d : Draft} {members : List (String × Draft)}
      (hvalue : form.IsValue d) (h : KeptMembers forms members) :
      KeptMembers (form :: forms) ((form.name, d) :: members)
  | leave {form : FieldForm} {forms : List FieldForm} {members : List (String × Draft)}
      (hlack : form.MayLack) (h : KeptMembers forms members) : KeptMembers (form :: forms) members

/-- Whether an object is a record of some fields: its members are those of the fields, in any order,
and others of other names. -/
def IsRecord (forms : List FieldForm) (d : Draft) : Prop :=
  ∃ members kept others, d = .object (.ofList members) ∧ members.Perm (kept ++ others) ∧
    KeptMembers forms kept ∧ ∀ m ∈ others, m.1 ∉ forms.map FieldForm.name

variable {forms forms' : List FieldForm} {members kept others : List (String × Draft)}

theorem KeptMembers.isRecord (h : KeptMembers forms kept) :
    IsRecord forms (.object (.ofList kept)) :=
  ⟨kept, kept, [], rfl, by rw [List.append_nil], h, fun _ hm ↦ absurd hm List.not_mem_nil⟩

theorem KeptMembers.isRecord_ofJson {members : List (String × Json)}
    (h : KeptMembers forms (members.map fun m ↦ (m.1, ofJson m.2))) :
    IsRecord forms (ofJson (.object members)) := by
  rw [ofJson, ofMembers_eq]
  exact h.isRecord

/-! ## Single fields -/

/-- Whether a field is among some members: one of them has its name, and that one has its value, or
none has and the field may be left out. -/
def FieldForm.IsIn (form : FieldForm) (members : List (String × Draft)) : Prop :=
  (∃ d, form.IsValue d ∧ members.filter (fun m ↦ m.1 = form.name) = [(form.name, d)]) ∨
    form.MayLack ∧ members.filter (fun m ↦ m.1 = form.name) = []

theorem KeptMembers.name_mem (h : KeptMembers forms members) :
    ∀ m ∈ members, m.1 ∈ forms.map FieldForm.name := by
  induction h with
  | nil => exact fun _ hm ↦ absurd hm List.not_mem_nil
  | keep _ _ ih =>
    intro m hm
    rcases List.mem_cons.mp hm with rfl | hm
    · exact List.mem_cons_self
    · exact List.mem_cons_of_mem _ (ih m hm)
  | leave _ _ ih => exact fun m hm ↦ List.mem_cons_of_mem _ (ih m hm)

theorem filter_eq_nil_of_not_mem {name : String} (h : ∀ m ∈ members, m.1 ≠ name) :
    members.filter (fun m ↦ m.1 = name) = [] :=
  List.filter_eq_nil_iff.mpr fun m hm ↦ by simpa using h m hm

theorem KeptMembers.isIn (h : KeptMembers forms kept)
    (hnames : (forms.map FieldForm.name).Nodup) : ∀ form ∈ forms, form.IsIn kept := by
  induction h with
  | nil => exact fun _ hform ↦ absurd hform List.not_mem_nil
  | @keep first forms d members hvalue h ih =>
    rw [List.map_cons, List.nodup_cons] at hnames
    obtain ⟨hfirst, hnames⟩ := hnames
    intro form hform
    rcases List.mem_cons.mp hform with rfl | hform
    · have hrest : members.filter (fun m ↦ m.1 = form.name) = [] :=
        filter_eq_nil_of_not_mem fun m hm heq ↦ hfirst (heq ▸ h.name_mem m hm)
      exact .inl ⟨d, hvalue, by rw [List.filter_cons_of_pos (by simp), hrest]⟩
    · have hne : first.name ≠ form.name := fun heq ↦
        hfirst (heq ▸ List.mem_map_of_mem hform)
      rw [FieldForm.IsIn, List.filter_cons_of_neg (by simpa using hne)]
      exact ih hnames form hform
  | @leave first forms members hlack h ih =>
    rw [List.map_cons, List.nodup_cons] at hnames
    obtain ⟨hfirst, hnames⟩ := hnames
    intro form hform
    rcases List.mem_cons.mp hform with rfl | hform
    · exact .inr ⟨hlack, filter_eq_nil_of_not_mem fun m hm heq ↦
        hfirst (heq ▸ h.name_mem m hm)⟩
    · exact ih hnames form hform

/-- Neither the order of the members nor others of other names make a difference to a field. -/
theorem FieldForm.IsIn.of_perm {form : FieldForm} (h : form.IsIn kept)
    (hperm : members.Perm (kept ++ others)) (hothers : ∀ m ∈ others, m.1 ≠ form.name) :
    form.IsIn members := by
  have hfilter := hperm.filter fun m ↦ m.1 = form.name
  rw [List.filter_append, filter_eq_nil_of_not_mem hothers, List.append_nil] at hfilter
  rcases h with ⟨d, hvalue, hkept⟩ | ⟨hlack, hkept⟩
  · rw [hkept] at hfilter
    exact .inl ⟨d, hvalue, List.perm_singleton.mp hfilter⟩
  · rw [hkept] at hfilter
    exact .inr ⟨hlack, hfilter.eq_nil⟩

/-! ## Descriptions of fields -/

namespace Fields

variable {α β σ τ : Type} {f : Fields α σ} {g : Fields β τ} {a : α} {b : β}

/-- Whether a description of fields finds a record among all members that have its fields. -/
def Reads (f : Fields α σ) (forms : List FieldForm) (a : α) : Prop :=
  (forms.map FieldForm.name).Nodup → ∀ members : List (String × Draft),
    (∀ m ∈ members, m.2.skip = .ok ()) → (∀ form ∈ forms, form.IsIn members) →
    f.Finds (forms.map FieldForm.name) members a

/-- A field is found if its value is found in all of its forms, and if its default is the value
where it may be left out. -/
theorem reads_one {name : String} {value : Decoder α} {default : Option α} {IsValue : Draft → Prop}
    {MayLack : Prop} (hvalue : ∀ d, IsValue d → d.skip = .ok () → value d = .ok a)
    (hdefault : MayLack → default = some a) :
    (one name value default).Reads [⟨name, IsValue, MayLack⟩] a := by
  intro _ members hskip hmembers
  rcases hmembers _ List.mem_cons_self with ⟨d, hd, hfilter⟩ | ⟨hlack, hfilter⟩
  · have hmem : (name, d) ∈ members :=
      List.mem_of_mem_filter (hfilter ▸ List.mem_cons_self)
    exact finds_one hskip hfilter (hvalue d hd (hskip _ hmem))
  · rw [hdefault hlack]
    exact finds_default hskip hfilter

theorem reads_fixed {name : String} {value : Decoder α} {default : Option α} {j : Json}
    (hvalue : value (ofJson j) = .ok a) :
    (one name value default).Reads [.fixed name j] a :=
  reads_one (by rintro _ rfl _; exact hvalue) False.elim

theorem reads_preset {name : String} {value : Decoder α} {encode : α → Json} {default : α}
    (hvalue : value (ofJson (encode a)) = .ok a) :
    (defaulted name value default).Reads [.preset name encode a default] a :=
  reads_one (by rintro _ rfl _; exact hvalue) fun h ↦ congrArg some h.symm

theorem Reads.and (hf : f.Reads forms a) (hg : g.Reads forms' b) :
    (f.and g).Reads (forms ++ forms') (a, b) := by
  intro hnames members hskip hmembers
  rw [List.map_append] at hnames ⊢
  obtain ⟨hnodup, hnodup', hdisjoint⟩ := List.nodup_append'.mp hnames
  exact (hf hnodup members hskip fun form hform ↦ hmembers form (List.mem_append_left _ hform)).and
    (hg hnodup' members hskip fun form hform ↦ hmembers form (List.mem_append_right _ hform))
    hdisjoint

/-- **A record is found in all ways of writing it.** -/
theorem Reads.decoder_eq {d : Draft} (h : f.Reads forms a)
    (hnames : (forms.map FieldForm.name).Nodup) (hd : IsRecord forms d) (hskip : d.skip = .ok ())
    (typeName : String) : f.decoder typeName d = .ok a := by
  obtain ⟨members, kept, others, rfl, hperm, hkept, hothers⟩ := hd
  have hfields : ∀ form ∈ forms, form.IsIn members := fun form hform ↦
    (hkept.isIn hnames form hform).of_perm hperm fun m hm heq ↦
      hothers m hm (heq ▸ List.mem_map_of_mem hform)
  exact (h hnames members (skipEntries_ofList_iff.mp hskip) hfields).decoder_eq typeName

end Fields

/-! ## Lists -/

variable {α : Type} {IsForm : α → Draft → Prop} {as : List α}

/-- Whether an array has some values as its items, each in one of its forms and all in their
order. -/
def IsListOf (IsForm : α → Draft → Prop) (as : List α) (d : Draft) : Prop :=
  ∃ ds, d = .array (.ofList ds) ∧ List.Forall₂ IsForm as ds

/-- A list is found in all ways of writing it, if each of its items is. -/
theorem Decoder.list_of_isListOf {value : Decoder α} {d : Draft}
    (h : ∀ a ∈ as, ∀ d, IsForm a d → d.skip = .ok () → value d = .ok a)
    (hd : IsListOf IsForm as d) (hskip : d.skip = .ok ()) : Decoder.list value d = .ok as := by
  obtain ⟨ds, rfl, hds⟩ := hd
  have hskips := skipItems_ofList_iff.mp hskip
  clear hskip
  refine Decoder.list_ofList ?_
  induction hds with
  | nil => exact .nil
  | cons hform _ ih =>
    rw [List.forall_mem_cons] at h hskips
    exact .cons (h.1 _ hform hskips.1) (ih h.2 hskips.2)

theorem isListOf_ofJson {encode : α → Json} (h : ∀ a, IsForm a (ofJson (encode a)))
    (as : List α) : IsListOf IsForm as (ofJson (.array (as.map encode))) := by
  refine ⟨(as.map encode).map ofJson, by rw [ofJson, ofItems_eq], ?_⟩
  rw [List.map_map, List.forall₂_map_right_iff]
  exact List.forall₂_same.mpr fun a _ ↦ h a

end RoadWeather.Json
