import Mathlib.Data.List.Forall2
import RoadWeather.Json.Decoder

/-!
# What a document lists

A decoder that succeeds accounts for all that a document writes in the places it looks at. The
elements of a list are found one by one, in their order and none left out (`Decoder.FindsEach`).
A record has a field by its name, if it is an object, or by its place, if it is an array, and what
is found of the field is what the document has there, no more and no less (`Fields.Has`).

None of this asks the text to be JSON outside of those places: what a record only steps over may
be of any kind.

## From the decoder to the draft

The other direction, from the forms of a value to what a decoder finds in them, does not suffice
for files that somebody else has written. A file may have a field in any of the ways that the
decoder accepts, those included that no writer uses. So the statements here start from a decoder
that has succeeded. They describe a draft by functions of it (`Draft.elements`, `Draft.valuesOf`),
which mention no decoder at all.

## Descriptions of records

A description of fields is put together from single ones, and what it collects from an object is
collected member by member. `Fields.Has` says of a field what is found of it on the way: a member of
its name adds one value, any other member none. It is shown for one field and carried over to the
two halves of a description (`Fields.Has.and_left`, `Fields.Has.and_right`). For arrays it counts
the places that the first half takes up.
-/

namespace RoadWeather.Json

@[simp] theorem bind_eq_ok_iff {ε α β : Type} {x : Except ε α} {f : α → Except ε β} {b : β} :
    x >>= f = .ok b ↔ ∃ a, x = .ok a ∧ f a = .ok b := by
  cases x with
  | error e =>
    constructor
    · intro h
      cases h
    · rintro ⟨a, ha, -⟩
      cases ha
  | ok a => simp [bind, Except.bind]

theorem ite_throw_eq_ok_iff {ε α β : Type} {c : Prop} [Decidable c] {e : ε} {f : α → Except ε β}
    {x : Except ε β} {b : β} : (if c then throw e >>= f else x) = .ok b ↔ ¬ c ∧ x = .ok b := by
  by_cases h : c
  · rw [if_pos h]
    exact iff_of_false (fun hthrow ↦ by cases hthrow) fun hok ↦ hok.1 h
  · rw [if_neg h]
    exact (and_iff_right h).symm

@[simp] theorem map_eq_ok_iff {ε α β : Type} {x : Except ε α} {f : α → β} {b : β} :
    x.map f = .ok b ↔ ∃ a, x = .ok a ∧ f a = b := by
  cases x <;> simp [Except.map]

@[simp] theorem mapError_eq_ok_iff {ε ε' α : Type} {x : Except ε α} {f : ε → ε'} {a : α} :
    x.mapError f = .ok a ↔ x = .ok a := by
  cases x <;> simp [Except.mapError]

@[simp] theorem wanted_eq_ok_iff {α : Type} {x : Except Fault α} {a : α} :
    wanted x = .ok a ↔ x = .ok a := by
  cases x <;> simp [wanted]

theorem decode_eq_ok_iff {α : Type} {value : Decoder α} {text : String} {a : α} :
    decode value text = .ok a ↔
      value (Draft.read text).1 = .ok a ∧ Draft.skipBlank (Draft.read text).2 = [] := by
  simp only [decode, bind_eq_ok_iff]
  constructor
  · rintro ⟨a', ha, h⟩
    split at h
    · next hrest =>
      obtain rfl := Except.ok.inj h
      exact ⟨ha, hrest⟩
    · cases h
  · rintro ⟨ha, hrest⟩
    exact ⟨a, ha, if_pos hrest⟩

theorem not_expected_eq_ok {α : Type} {what : String} {d : Draft} {a : α} :
    expected what d ≠ .ok a := by
  intro h
  cases d with
  | number n => cases n <;> cases h
  | string s => cases s <;> cases h
  | null => cases h
  | bool b => cases h
  | array items => cases h
  | object entries => cases h
  | broken b => cases h

theorem exists_forall₂_iff {α β : Type} {R : α → β → Prop} {as : List α} :
    (∃ bs, List.Forall₂ R as bs) ↔ ∀ a ∈ as, ∃ b, R a b := by
  induction as with
  | nil => simp
  | cons a as ih =>
    simp only [List.forall₂_cons_left_iff, List.forall_mem_cons, ← ih]
    constructor
    · rintro ⟨_, b, bs, hab, hbs, rfl⟩
      exact ⟨⟨b, hab⟩, bs, hbs⟩
    · rintro ⟨⟨b, hab⟩, bs, hbs⟩
      exact ⟨b :: bs, b, bs, hab, hbs, rfl⟩

/-! ## Places in a draft -/

namespace Draft

/-- The items of a list, as far as there are any. -/
def Items.toList : Items → List Draft
  | .done => []
  | .item first rest => first :: rest.toList
  | .broken _ => []

/-- The values of the members of a name. -/
def Entries.valuesOf (name : String) : Entries → List Draft
  | .done => []
  | .entry key value rest =>
    if key = .ok name then value :: rest.valuesOf name else rest.valuesOf name
  | .broken _ => []
  | .badKey _ => []

/-- The elements of a list. Nothing else has any. -/
def elements : Draft → List Draft
  | .array items => items.toList
  | _ => []

/-- What a record has for a field of a name, which is in the given place if the record is written
as an array. -/
def valuesOf (name : String) (place : Nat) : Draft → List Draft
  | .object es => es.valuesOf name
  | .array items => items.toList[place]?.toList
  | _ => []

/-- The elements of the lists that a record has for a field. -/
def listed (name : String) (place : Nat) (d : Draft) : List Draft :=
  (d.valuesOf name place).flatMap elements

end Draft

/-! ## Lists -/

namespace Decoder

variable {α β : Type} {value : Decoder α} {check : α → Except String β} {is : Draft.Items}
  {d : Draft} {ds : List Draft} {as : List α} {bs : List β}

/-- Whether a decoder finds some values in some drafts, one in each of them. -/
def FindsEach (value : Decoder α) (ds : List Draft) (as : List α) : Prop :=
  List.Forall₂ (fun d a ↦ value d = .ok a) ds as

theorem FindsEach.unique (has : value.FindsEach ds as) {as' : List α}
    (has' : value.FindsEach ds as') : as = as' :=
  Relator.RightUnique.forall₂ (fun _ _ _ ha ha' ↦ Except.ok.inj (ha.symm.trans ha')) has has'

theorem findsEach_of_items : ∀ {is : Draft.Items} {as : List α}, items value is = .ok as →
    value.FindsEach is.toList as
  | .done, as, h => by
    obtain rfl := Except.ok.inj h
    exact .nil
  | .item first rest, as, h => by
    obtain ⟨a, ha, h⟩ := bind_eq_ok_iff.mp h
    obtain ⟨as, has, h⟩ := bind_eq_ok_iff.mp h
    obtain rfl := Except.ok.inj h
    exact .cons ha (findsEach_of_items has)
  | .broken b, as, h => by cases h

theorem list_eq_ok_iff :
    Decoder.list value d = .ok as ↔ ∃ is, d = .array is ∧ items value is = .ok as := by
  constructor
  · intro h
    unfold Decoder.list at h
    split at h
    · next is => exact ⟨is, rfl, h⟩
    · exact absurd h not_expected_eq_ok
  · rintro ⟨is, rfl, h⟩
    exact h

theorem findsEach_of_list (h : Decoder.list value d = .ok as) : value.FindsEach d.elements as := by
  obtain ⟨is, rfl, h⟩ := list_eq_ok_iff.mp h
  exact findsEach_of_items h

theorem FindsEach.flatten {ass : List (List α)} (h : (Decoder.list value).FindsEach ds ass) :
    value.FindsEach (ds.flatMap Draft.elements) ass.flatten := by
  have helements : List.Forall₂ (List.Forall₂ fun d a ↦ value d = .ok a)
      (ds.map Draft.elements) ass := by
    rw [List.forall₂_map_left_iff]
    exact h.imp fun d as has ↦ findsEach_of_list has
  rw [List.flatMap_def]
  exact List.rel_flatten helements

theorem refine_eq_ok_iff {b : β} :
    value.refine check d = .ok b ↔ ∃ a, value d = .ok a ∧ check a = .ok b := by
  rw [refine, bind_eq_ok_iff]
  refine exists_congr fun a ↦ and_congr_right fun _ ↦ ?_
  cases check a <;> simp

/-- **A list of values is found in a list if its items all have the shape and their domain refuses
none of them.** Which of the two comes first makes no difference to that. -/
theorem items_refine_eq_ok_iff : ∀ {is : Draft.Items} {bs : List β},
    items (value.refine check) is = .ok bs ↔
      ∃ as, items value is = .ok as ∧ List.Forall₂ (fun a b ↦ check a = .ok b) as bs
  | .done, bs => by
    simp only [items, Except.ok.injEq]
    constructor
    · rintro rfl
      exact ⟨[], rfl, .nil⟩
    · rintro ⟨as, rfl, hall⟩
      exact (List.forall₂_nil_left_iff.mp hall).symm
  | .item first rest, bs => by
    simp only [items, bind_eq_ok_iff, refine_eq_ok_iff, items_refine_eq_ok_iff]
    constructor
    · rintro ⟨b, ⟨a, ha, hab⟩, bs', ⟨as, has, hrest⟩, h⟩
      obtain rfl := Except.ok.inj h
      exact ⟨a :: as, ⟨a, ha, as, has, rfl⟩, .cons hab hrest⟩
    · rintro ⟨_, ⟨a, ha, as, has, h⟩, hall⟩
      obtain rfl := Except.ok.inj h
      obtain _ | ⟨hab, hrest⟩ := hall
      exact ⟨_, ⟨a, ha, hab⟩, _, ⟨as, has, hrest⟩, rfl⟩
  | .broken b, bs => by simp [items]

theorem list_refine_eq_ok_iff :
    Decoder.list (value.refine check) d = .ok bs ↔
      ∃ as, Decoder.list value d = .ok as ∧ List.Forall₂ (fun a b ↦ check a = .ok b) as bs := by
  simp only [list_eq_ok_iff, items_refine_eq_ok_iff]
  constructor
  · rintro ⟨is, hd, as, has, hall⟩
    exact ⟨as, ⟨is, hd, has⟩, hall⟩
  · rintro ⟨as, ⟨is, hd, has⟩, hall⟩
    exact ⟨is, hd, as, has, hall⟩

end Decoder

/-! ## Fields -/

namespace Fields

variable {α β γ σ τ : Type} {f : Fields α σ} {g : Fields β τ} {name : String} {place : Nat}
  {value : Decoder γ} {default : Option γ} {found? : σ → Option γ} {field : α → γ}

/-- Whether the values that a description takes from a list stand at its start. -/
def Advances (f : Fields α σ) : Prop :=
  ∀ tooShort seen items a rest, f.positional tooShort seen items = .ok (a, rest) →
    rest.toList = items.toList.drop f.count

/-- Whether a description has a field of a name, in a place of the record as an array. Of all that
is found, `found?` is what is found of the field, and `field` is what it is in the record. -/
structure Has (f : Fields α σ) (name : String) (place : Nat) (value : Decoder γ)
    (default : Option γ) (found? : σ → Option γ) (field : α → γ) : Prop where
  start : found? f.start = none
  isSome_member : ∀ s, (f.member name s).isSome = true
  /-- The first member of the name gives the field its value, and there must be no second. -/
  member_self : ∀ {s add d s'}, f.member name s = some (.ok add) → add d = .ok s' →
    found? s = none ∧ ∃ c, value d = .ok c ∧ found? s' = some c
  /-- A member of another name makes no difference. -/
  member_of_ne : ∀ {key s add d s'}, key ≠ name → f.member key s = some (.ok add) →
    add d = .ok s' → found? s' = found? s
  finish : ∀ {s a}, f.finish s = .ok a → (found? s <|> default) = some (field a)
  positional : ∀ {tooShort seen items a rest},
    f.positional tooShort seen items = .ok (a, rest) →
      ∃ c : Option γ, value.FindsEach items.toList[place]?.toList c.toList ∧
        (c <|> default) = some (field a)

/-! ### One field -/

theorem advances_one : (one name value default).Advances := by
  intro tooShort seen items a rest h
  cases items with
  | done =>
    cases default with
    | none => cases h
    | some c =>
      obtain ⟨rfl, rfl⟩ := Prod.mk.inj (Except.ok.inj h)
      rfl
  | item first others =>
    obtain ⟨c, -, h⟩ := map_eq_ok_iff.mp h
    obtain ⟨rfl, rfl⟩ := Prod.mk.inj h
    rfl
  | broken b => cases h

theorem member_one_of_ne {key : String} (h : key ≠ name) (found : Option γ) :
    (one name value default).member key found = none := if_neg h

theorem has_one : (one name value default).Has name 0 value default id id where
  start := rfl
  isSome_member s := by simp [one]
  member_self {s add d s'} hmember hadd := by
    simp only [one, if_pos] at hmember
    cases s with
    | some c => cases hmember
    | none =>
      obtain rfl := Except.ok.inj (Option.some.inj hmember)
      obtain ⟨c, hc, rfl⟩ := map_eq_ok_iff.mp hadd
      exact ⟨rfl, c, hc, rfl⟩
  member_of_ne hkey hmember _ := by
    rw [member_one_of_ne hkey] at hmember
    cases hmember
  finish {s a} h := by
    cases s with
    | some c =>
      obtain rfl := Except.ok.inj h
      rfl
    | none =>
      cases default with
      | some c =>
        obtain rfl := Except.ok.inj h
        rfl
      | none => cases h
  positional {tooShort seen items a rest} h := by
    cases items with
    | done =>
      cases default with
      | none => cases h
      | some c =>
        obtain ⟨rfl, rfl⟩ := Prod.mk.inj (Except.ok.inj h)
        exact ⟨none, .nil, rfl⟩
    | item first others =>
      obtain ⟨c, hc, h⟩ := map_eq_ok_iff.mp h
      obtain ⟨rfl, rfl⟩ := Prod.mk.inj h
      exact ⟨some c, .cons hc .nil, rfl⟩
    | broken b => cases h

/-! ### Two descriptions -/

theorem positional_and {tooShort : Nat → DecodeError} {seen : Nat} {items rest : Draft.Items}
    {ab : α × β} :
    (f.and g).positional tooShort seen items = .ok (ab, rest) ↔
      ∃ between, f.positional tooShort seen items = .ok (ab.1, between) ∧
        g.positional tooShort (seen + f.count) between = .ok (ab.2, rest) := by
  simp only [Fields.and, bind_eq_ok_iff]
  constructor
  · rintro ⟨⟨a, between⟩, ha, ⟨b, last⟩, hb, h⟩
    obtain ⟨rfl, rfl⟩ := Prod.mk.inj (Except.ok.inj h)
    exact ⟨between, ha, hb⟩
  · rintro ⟨between, ha, hb⟩
    exact ⟨(ab.1, between), ha, (ab.2, rest), hb, rfl⟩

theorem Advances.and (hf : f.Advances) (hg : g.Advances) : (f.and g).Advances := by
  intro tooShort seen items ab rest h
  obtain ⟨between, ha, hb⟩ := positional_and.mp h
  rw [hg _ _ _ _ _ hb, hf _ _ _ _ _ ha, List.drop_drop]
  rfl

theorem member_and {key : String} {s s' : σ} {t t' : τ} {d : Draft}
    {add : Draft → Except DecodeError (σ × τ)}
    (hmember : (f.and g).member key (s, t) = some (.ok add)) (hadd : add d = .ok (s', t')) :
    (∃ add, f.member key s = some (.ok add) ∧ add d = .ok s' ∧ t' = t) ∨
      (f.member key s = none ∧
        ∃ add, g.member key t = some (.ok add) ∧ add d = .ok t' ∧ s' = s) := by
  simp only [Fields.and] at hmember
  cases hf : f.member key s with
  | some r =>
    rw [hf] at hmember
    obtain ⟨add', rfl, rfl⟩ := map_eq_ok_iff.mp (Option.some.inj hmember)
    obtain ⟨s'', hs, h⟩ := map_eq_ok_iff.mp hadd
    obtain ⟨rfl, rfl⟩ := Prod.mk.inj h
    exact .inl ⟨add', rfl, hs, rfl⟩
  | none =>
    rw [hf] at hmember
    obtain ⟨r, hg, hr⟩ := Option.map_eq_some_iff.mp hmember
    obtain ⟨add', rfl, rfl⟩ := map_eq_ok_iff.mp hr
    obtain ⟨t'', ht, h⟩ := map_eq_ok_iff.mp hadd
    obtain ⟨rfl, rfl⟩ := Prod.mk.inj h
    exact .inr ⟨rfl, add', hg, ht, rfl⟩

theorem finish_and {st : σ × τ} {ab : α × β} :
    (f.and g).finish st = .ok ab ↔ f.finish st.1 = .ok ab.1 ∧ g.finish st.2 = .ok ab.2 := by
  simp only [Fields.and, bind_eq_ok_iff]
  constructor
  · rintro ⟨a, ha, b, hb, h⟩
    obtain rfl := Except.ok.inj h
    exact ⟨ha, hb⟩
  · rintro ⟨ha, hb⟩
    exact ⟨ab.1, ha, ab.2, hb, rfl⟩

theorem Has.and_left (h : f.Has name place value default found? field) :
    (f.and g).Has name place value default (found? ∘ Prod.fst) (field ∘ Prod.fst) where
  start := h.start
  isSome_member st := by
    simp only [Fields.and]
    obtain ⟨r, hr⟩ := Option.isSome_iff_exists.mp (h.isSome_member st.1)
    rw [hr]
    rfl
  member_self {st add d st'} hmember hadd := by
    obtain ⟨add', hf, hs, -⟩ | ⟨hf, -⟩ := member_and hmember hadd
    · exact h.member_self hf hs
    · have hsome := h.isSome_member st.1
      rw [hf] at hsome
      cases hsome
  member_of_ne {key st add d st'} hkey hmember hadd := by
    obtain ⟨add', hf, hs, -⟩ | ⟨-, add', -, -, hs⟩ := member_and hmember hadd
    · exact h.member_of_ne hkey hf hs
    · exact congrArg found? hs
  finish hfinish := h.finish (finish_and.mp hfinish).1
  positional hpositional := by
    obtain ⟨between, ha, -⟩ := positional_and.mp hpositional
    exact h.positional ha

/-- A field of the second of two descriptions is a field of both, if the first has none of its
name. Its place comes after those of the first. -/
theorem Has.and_right {found? : τ → Option γ} {field : β → γ}
    (h : g.Has name place value default found? field) (hnone : ∀ s, f.member name s = none)
    (hf : f.Advances) :
    (f.and g).Has name (f.count + place) value default (found? ∘ Prod.snd)
      (field ∘ Prod.snd) where
  start := h.start
  isSome_member st := by
    simp only [Fields.and, hnone, Option.isSome_map]
    exact h.isSome_member st.2
  member_self {st add d st'} hmember hadd := by
    obtain ⟨add', hs, -⟩ | ⟨-, add', hg, ht, -⟩ := member_and hmember hadd
    · rw [hnone] at hs
      cases hs
    · exact h.member_self hg ht
  member_of_ne {key st add d st'} hkey hmember hadd := by
    obtain ⟨add', -, -, ht⟩ | ⟨-, add', hg, ht, -⟩ := member_and hmember hadd
    · exact congrArg found? ht
    · exact h.member_of_ne hkey hg ht
  finish hfinish := h.finish (finish_and.mp hfinish).2
  positional hpositional := by
    obtain ⟨between, ha, hb⟩ := positional_and.mp hpositional
    obtain ⟨c, hc, hfield⟩ := h.positional hb
    rw [hf _ _ _ _ _ ha, List.getElem?_drop] at hc
    exact ⟨c, hc, hfield⟩

/-! ### Records -/

/-- What is found of a field in an object is what there was before, then the values of the members
of its name. -/
theorem Has.collect (h : f.Has name place value default found? field) :
    ∀ {es : Draft.Entries} {s s' : σ}, f.collect s es = .ok s' →
      ∃ cs, value.FindsEach (es.valuesOf name) cs ∧
        (found? s').toList = (found? s).toList ++ cs
  | .done, s, s', hcollect => by
    obtain rfl := Except.ok.inj hcollect
    exact ⟨[], .nil, (List.append_nil _).symm⟩
  | .entry key d rest, s, s', hcollect => by
    rw [Fields.collect] at hcollect
    obtain ⟨k, hkey, hcollect⟩ := bind_eq_ok_iff.mp hcollect
    rw [wanted_eq_ok_iff.mp hkey, Draft.Entries.valuesOf]
    split at hcollect
    · next r hmember =>
      obtain ⟨add, rfl, hadded⟩ := bind_eq_ok_iff.mp hcollect
      obtain ⟨s₁, hadd, hrest⟩ := bind_eq_ok_iff.mp hadded
      obtain ⟨cs, hcs, hfound⟩ := h.collect hrest
      by_cases hname : k = name
      · subst hname
        obtain ⟨hnone, c, hc, hsome⟩ := h.member_self hmember hadd
        rw [if_pos rfl]
        refine ⟨c :: cs, .cons hc hcs, ?_⟩
        rw [hfound, hnone, hsome]
        rfl
      · rw [if_neg fun heq ↦ hname (Except.ok.inj heq)]
        exact ⟨cs, hcs, by rw [hfound, h.member_of_ne hname hmember hadd]⟩
    · next hmember =>
      obtain ⟨-, -, hcollect⟩ := bind_eq_ok_iff.mp hcollect
      have hname : k ≠ name := by
        rintro rfl
        have hsome := h.isSome_member s
        rw [hmember] at hsome
        cases hsome
      rw [if_neg fun heq ↦ hname (Except.ok.inj heq)]
      exact h.collect hcollect
  | .broken b, s, s', hcollect => by cases hcollect
  | .badKey b, s, s', hcollect => by cases hcollect

/-- **A record has in a field what the document has there, or else the default.** -/
theorem Has.of_decoder (h : f.Has name place value default found? field) {typeName : String}
    {d : Draft} {a : α} (hdecoder : f.decoder typeName d = .ok a) :
    ∃ c : Option γ, value.FindsEach (d.valuesOf name place) c.toList ∧
      (c <|> default) = some (field a) := by
  unfold Fields.decoder at hdecoder
  split at hdecoder
  · next es =>
    obtain ⟨s, hcollect, hfinish⟩ := bind_eq_ok_iff.mp hdecoder
    obtain ⟨cs, hcs, hfound⟩ := h.collect hcollect
    rw [h.start] at hfound
    refine ⟨found? s, ?_, h.finish hfinish⟩
    rw [hfound]
    exact hcs
  · next items =>
    obtain ⟨⟨a', rest⟩, hpositional, hclosed⟩ := bind_eq_ok_iff.mp hdecoder
    obtain ⟨-, -, hrecord⟩ := bind_eq_ok_iff.mp hclosed
    obtain rfl := Except.ok.inj hrecord
    exact h.positional hpositional
  · exact absurd hdecoder not_expected_eq_ok

/-- The value of a field without a default stands somewhere in the document. -/
theorem Has.exists_found (h : f.Has name place value none found? field) {typeName : String}
    {d : Draft} {a : α} (hdecoder : f.decoder typeName d = .ok a) :
    ∃ e, value e = .ok (field a) := by
  obtain ⟨c, hc, hfield⟩ := h.of_decoder hdecoder
  rw [Option.orElse_eq_orElse, Option.orElse_eq_or, Option.or_none] at hfield
  rw [hfield] at hc
  obtain ⟨e, _, he, -⟩ := List.forall₂_cons_right_iff.mp hc
  exact ⟨e, he⟩

/-- A field that is a list, and empty if left out, has all that the document lists there. -/
theorem Has.listed {value : Decoder γ} {found? : σ → Option (List γ)} {field : α → List γ}
    (h : f.Has name place (Decoder.list value) (some []) found? field) {typeName : String}
    {d : Draft} {a : α} (hdecoder : f.decoder typeName d = .ok a) :
    value.FindsEach (d.listed name place) (field a) := by
  obtain ⟨c, hc, hfield⟩ := h.of_decoder hdecoder
  have hflatten : c.toList.flatten = field a := by
    cases c with
    | none => exact Option.some.inj hfield
    | some cs => exact (List.append_nil cs).trans (Option.some.inj hfield)
  rw [← hflatten]
  exact hc.flatten

end Fields

end RoadWeather.Json
