import Mathlib.Tactic.SplitIfs

/-! # The order of texts is the order of their bytes

Texts are compared by the code points of their characters.  Of two characters the smaller one has
the smaller byte where their UTF-8 forms first differ (`encode_append_lt`), so texts are in the
same order as the lists of their bytes (`bytesOf_lt_iff`), and what is least in one order is least
in the other. -/

namespace TypeCatalog.Text

/-- The bytes of a text in UTF-8. -/
def bytesOf (text : String) : List UInt8 := text.toUTF8.data.toList

theorem bytesOf_eq (text : String) : bytesOf text = text.toList.flatMap String.utf8EncodeChar := by
  have encoded : text.toUTF8 = text.toList.utf8Encode := by
    show text.toByteArray = _
    rw [← String.toByteArray_ofList, String.ofList_toList]
  rw [bytesOf, encoded, List.utf8Encode, List.data_toByteArray]

/-! ### Characters -/

theorem ofNat_cons_lt_iff {m n : Nat} (hm : m < 256) (hn : n < 256) {t u : List UInt8} :
    UInt8.ofNat m :: t < UInt8.ofNat n :: u ↔ m < n ∨ m = n ∧ t < u := by
  have hm' : (UInt8.ofNat m).toNat = m := by
    rw [UInt8.toNat_ofNat', Nat.mod_eq_of_lt hm]
  have hn' : (UInt8.ofNat n).toNat = n := by
    rw [UInt8.toNat_ofNat', Nat.mod_eq_of_lt hn]
  rw [List.cons_lt_cons_iff, UInt8.lt_iff_toNat_lt, ← UInt8.toNat_inj, hm', hn']

/-- A smaller character has the smaller bytes, whatever stands behind it. -/
theorem encode_append_lt {c d : Char} (h : c < d) (t u : List UInt8) :
    String.utf8EncodeChar c ++ t < String.utf8EncodeChar d ++ u := by
  have hv : c.val.toNat < d.val.toNat := h
  have hd : d.val.toNat < 1114112 := by
    rcases d.valid with hd | hd
    · exact Nat.lt_trans hd (by decide)
    · exact hd.2
  unfold String.utf8EncodeChar
  generalize c.val.toNat = v at hv ⊢
  generalize d.val.toNat = w at hv hd ⊢
  dsimp only
  by_cases wide : 65535 < v
  · -- both take four bytes, whose order is that of the digits to the base 64
    have ev : v = 262144 * (v / 262144) + 4096 * (v / 4096 % 64) + 64 * (v / 64 % 64) + v % 64 := by
      omega
    have ew : w = 262144 * (w / 262144) + 4096 * (w / 4096 % 64) + 64 * (w / 64 % 64) + w % 64 := by
      omega
    have hv3 : v / 262144 % 8 = v / 262144 := Nat.mod_eq_of_lt (by omega)
    have hw3 : w / 262144 % 8 = w / 262144 := Nat.mod_eq_of_lt (by omega)
    simp (disch := omega) only [if_neg, List.cons_append, List.nil_append, ofNat_cons_lt_iff]
    rw [hv3, hw3]
    omega
  · split_ifs <;>
      simp (disch := omega) only [List.cons_append, List.nil_append, ofNat_cons_lt_iff] <;> omega

theorem encode_ne_nil (c : Char) : String.utf8EncodeChar c ≠ [] := by
  unfold String.utf8EncodeChar
  dsimp only
  split_ifs <;> exact List.cons_ne_nil _ _

/-! ### Texts -/

theorem flatMap_encode_lt {cs ds : List Char} (h : cs < ds) :
    cs.flatMap String.utf8EncodeChar < ds.flatMap String.utf8EncodeChar := by
  induction cs generalizing ds with
  | nil =>
      cases ds with
      | nil => exact absurd h (List.lt_irrefl _)
      | cons d ds =>
          rw [List.flatMap_nil, List.flatMap_cons]
          cases hd : String.utf8EncodeChar d with
          | nil => exact absurd hd (encode_ne_nil d)
          | cons x xs => exact List.nil_lt_cons _ _
  | cons c cs ih =>
      cases ds with
      | nil => exact absurd h (List.not_lt_nil _)
      | cons d ds =>
          rw [List.flatMap_cons, List.flatMap_cons]
          rcases List.cons_lt_cons_iff.mp h with hcd | ⟨rfl, hcs⟩
          · exact encode_append_lt hcd _ _
          · exact List.append_left_lt (ih hcs)

/-- **Texts are ordered by their bytes.** -/
theorem bytesOf_lt_iff {s t : String} : bytesOf s < bytesOf t ↔ s < t := by
  rw [bytesOf_eq, bytesOf_eq, String.lt_iff]
  constructor
  · intro h
    refine Decidable.byContradiction fun hn => ?_
    rcases List.le_iff_lt_or_eq.mp (List.not_lt.mp hn) with hlt | heq
    · exact List.lt_asymm h (flatMap_encode_lt hlt)
    · rw [heq] at h
      exact List.lt_irrefl _ h
  · exact flatMap_encode_lt

theorem bytesOf_le_iff {s t : String} : bytesOf s ≤ bytesOf t ↔ s ≤ t := by
  rw [← List.not_lt, ← String.not_lt, bytesOf_lt_iff]

end TypeCatalog.Text
