import Mathlib.Tactic.SplitIfs
import RoadWeather.Store

/-!
# The order of texts is that of their bytes

Texts are compared by their characters, one after the other. In UTF-8 a greater character has
greater bytes, and no character starts with the bytes of another one, so this is the order of the
bytes (`Text.compare_eq_lt_iff`). Keys of descriptions are ordered accordingly: by the bytes of the
place, then by those of the model.
-/

namespace RoadWeather

namespace Text

def bytes (s : String) : List UInt8 := s.toUTF8.data.toList

theorem bytes_eq (s : String) : bytes s = s.toList.flatMap String.utf8EncodeChar := by
  have h : s.toUTF8 = (s.toList.flatMap String.utf8EncodeChar).toByteArray := by
    rw [String.toUTF8_eq_toByteArray]
    conv => lhs; rw [← String.ofList_toList (s := s)]
    exact String.toByteArray_ofList
  rw [bytes, h, List.data_toByteArray]

/-! ## Characters -/

theorem ofNat_lt_ofNat_iff {m n : Nat} (hm : m < 256) (hn : n < 256) :
    UInt8.ofNat m < UInt8.ofNat n ↔ m < n := by
  rw [UInt8.lt_iff_toNat_lt, UInt8.toNat_ofNat_of_lt' hm, UInt8.toNat_ofNat_of_lt' hn]

theorem ofNat_eq_ofNat_iff {m n : Nat} (hm : m < 256) (hn : n < 256) :
    UInt8.ofNat m = UInt8.ofNat n ↔ m = n := by
  rw [← UInt8.toNat_inj, UInt8.toNat_ofNat_of_lt' hm, UInt8.toNat_ofNat_of_lt' hn]

theorem utf8EncodeChar_ne_nil (c : Char) : String.utf8EncodeChar c ≠ [] := by
  rw [String.utf8EncodeChar]
  split_ifs <;> exact List.cons_ne_nil _ _

/-- The bytes of a greater character are greater, whatever follows. -/
theorem utf8EncodeChar_append_lt {c d : Char} (h : c < d) (xs ys : List UInt8) :
    String.utf8EncodeChar c ++ xs < String.utf8EncodeChar d ++ ys := by
  have hlt : c.val.toNat < d.val.toNat := h
  have hmax : d.val.toNat < 0x110000 := by
    rcases d.valid with hd | hd
    · exact Nat.lt_trans hd (by decide)
    · exact hd.2
  -- A longer form starts with a greater byte, and forms of one length hold the digits of the
  -- characters in base 64.
  rw [String.utf8EncodeChar, String.utf8EncodeChar]
  generalize c.val.toNat = m at hlt
  generalize d.val.toNat = n at hlt hmax
  have htwo (k : Nat) : k / 4096 = k / 64 / 64 := by omega
  have hthree (k : Nat) : k / 262144 = k / 64 / 64 / 64 := by omega
  simp only [htwo, hthree]
  split_ifs
  all_goals
    simp (disch := omega) only [List.cons_append, List.nil_append, List.cons_lt_cons_iff,
      ofNat_lt_ofNat_iff, ofNat_eq_ofNat_iff]
    omega

/-! ## Texts -/

theorem flatMap_utf8EncodeChar_lt {cs ds : List Char} (h : cs < ds) :
    cs.flatMap String.utf8EncodeChar < ds.flatMap String.utf8EncodeChar := by
  induction h with
  | @nil d ds =>
    obtain ⟨b, bs, hb⟩ := List.exists_cons_of_ne_nil (utf8EncodeChar_ne_nil d)
    rw [List.flatMap_nil, List.flatMap_cons, hb]
    exact List.Lex.nil
  | @rel c cs d ds hcd =>
    rw [List.flatMap_cons, List.flatMap_cons]
    exact utf8EncodeChar_append_lt hcd _ _
  | @cons c cs ds hlt ih =>
    rw [List.flatMap_cons, List.flatMap_cons]
    exact List.append_left_lt ih

/-- **Texts are in the order of their bytes.** -/
theorem compare_eq_lt_iff {s t : String} : compare s t = .lt ↔ bytes s < bytes t := by
  have hcompare : compare s t = .lt ↔ s.toList < t.toList :=
    compareOfLessAndEq_eq_lt.trans String.lt_iff
  rw [hcompare, bytes_eq, bytes_eq]
  refine ⟨flatMap_utf8EncodeChar_lt, fun h ↦ ?_⟩
  -- Were the characters in another order, so would be the bytes.
  rcases Std.lt_trichotomy s.toList t.toList with hlt | heq | hgt
  · exact hlt
  · rw [heq] at h
    exact absurd h (List.lt_irrefl _)
  · exact absurd (flatMap_utf8EncodeChar_lt hgt) (List.lt_asymm h)

end Text

/-! ## Keys of descriptions -/

/-- One key comes before another in the order of bytes: by the place, then by the model. -/
def DescriptionKey.Precedes (k l : DescriptionKey) : Prop :=
  Text.bytes k.location < Text.bytes l.location ∨
    k.location = l.location ∧ Text.bytes k.modelId < Text.bytes l.modelId

theorem DescriptionKey.order_eq_lt_iff {k l : DescriptionKey} : order k l = .lt ↔ k.Precedes l := by
  rw [order, compareLex, compareOn, compareOn, Ordering.then_eq_lt, Text.compare_eq_lt_iff,
    Text.compare_eq_lt_iff, Std.LawfulEqCmp.compare_eq_iff_eq, Precedes]

end RoadWeather
