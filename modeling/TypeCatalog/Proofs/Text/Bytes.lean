import TypeCatalog.Proofs.Text.ByteOrder
import TypeCatalog.Text.Position

/-! # Positions by bytes

The position of a byte offset, which is computed character by character, says what the bytes in
front of the offset say: how many line breaks are among them, and how many of them stand behind the
last one (`ofOffset_eq`).  The offset may be inside a character.

`Loses` compares bytes with what is left of them when some are deleted, none of them a line break.
Every part that is left comes from a part of the bytes (`Loses.take`), which has as many line breaks
(`Loses.count_eq`) and whose last line is longer by the bytes deleted from it
(`Loses.lineLength_eq`). -/

namespace TypeCatalog.Text

/-- The bytes of a text in UTF-8. -/
def encode (text : List Char) : List UInt8 := text.flatMap String.utf8EncodeChar

/-- The byte of a line break. -/
def lineBreak : UInt8 := 10

/-- How many bytes stand behind the last line break. -/
def lineLength (bytes : List UInt8) : Nat := (bytes.reverse.takeWhile (· != lineBreak)).length

/-- The offset of the first byte behind the last line break. -/
def lineStart (bytes : List UInt8) : Nat := bytes.length - lineLength bytes

/-- The position behind these bytes. -/
def Position.behind (bytes : List UInt8) : Position :=
  ⟨1 + bytes.count lineBreak, lineLength bytes⟩

/-! ### Encoding -/

theorem encode_append (front back : List Char) :
    encode (front ++ back) = encode front ++ encode back :=
  List.flatMap_append

theorem encode_cons (c : Char) (cs : List Char) :
    encode (c :: cs) = String.utf8EncodeChar c ++ encode cs :=
  List.flatMap_cons

theorem length_encode (text : List Char) : (encode text).length = byteLength text := by
  induction text with
  | nil => rfl
  | cons c cs ih =>
      rw [encode_cons, List.length_append, String.length_utf8EncodeChar, ih, byteLength]

/-- No other character has the byte of a line break in it. -/
theorem lineBreak_not_mem_encodeChar {c : Char} (h : c ≠ '\n') :
    lineBreak ∉ String.utf8EncodeChar c := by
  have hv : c.val.toNat ≠ 10 := fun same => h (Char.ext (UInt32.toNat_inj.mp same))
  have hd : c.val.toNat < 1114112 := by
    rcases c.valid with hd | hd
    · exact Nat.lt_trans hd (by decide)
    · exact hd.2
  have other {n : Nat} (hn : n < 256) (ne : n ≠ 10) : lineBreak ≠ UInt8.ofNat n := by
    intro same
    have value := congrArg UInt8.toNat same
    rw [UInt8.toNat_ofNat', Nat.mod_eq_of_lt hn] at value
    exact ne value.symm
  unfold String.utf8EncodeChar
  generalize c.val.toNat = v at hv hd ⊢
  dsimp only
  split_ifs <;>
    · simp only [List.mem_cons, List.not_mem_nil, or_false, not_or]
      and_intros <;> exact other (by omega) (by omega)

/-! ### Lines -/

theorem lineLength_concat_lineBreak (bytes : List UInt8) :
    lineLength (bytes ++ [lineBreak]) = 0 := by
  simp [lineLength]

/-- Without a line break bytes continue the last line of what is in front of them. -/
theorem lineLength_append_of_not_mem {part : List UInt8} (h : lineBreak ∉ part)
    (bytes : List UInt8) : lineLength (bytes ++ part) = lineLength bytes + part.length := by
  have same : ∀ b ∈ part.reverse, (b != lineBreak) = true := by
    intro b hb
    rw [bne_iff_ne]
    rintro rfl
    exact h (List.mem_reverse.mp hb)
  rw [lineLength, List.reverse_append, List.takeWhile_append_of_pos same, List.length_append,
    List.length_reverse, lineLength, Nat.add_comm]

theorem lineLength_concat {b : UInt8} (h : b ≠ lineBreak) (bytes : List UInt8) :
    lineLength (bytes ++ [b]) = lineLength bytes + 1 :=
  lineLength_append_of_not_mem (by simpa using h.symm) bytes

theorem lineStart_concat_lineBreak (bytes : List UInt8) :
    lineStart (bytes ++ [lineBreak]) = bytes.length + 1 := by
  rw [lineStart, lineLength_concat_lineBreak, List.length_append]
  rfl

theorem lineStart_concat {b : UInt8} (h : b ≠ lineBreak) (bytes : List UInt8) :
    lineStart (bytes ++ [b]) = lineStart bytes := by
  rw [lineStart, lineLength_concat h, List.length_append, List.length_singleton,
    Nat.add_sub_add_right, lineStart]

theorem lineStart_le (bytes : List UInt8) : lineStart bytes ≤ bytes.length := Nat.sub_le _ _

/-! ### Positions -/

theorem Position.behind_concat_lineBreak (bytes : List UInt8) :
    behind (bytes ++ [lineBreak]) = ⟨(behind bytes).line + 1, 0⟩ := by
  rw [behind, lineLength_concat_lineBreak, List.count_append, List.count_singleton_self,
    ← Nat.add_assoc, behind]

theorem Position.behind_append_of_not_mem {part : List UInt8} (h : lineBreak ∉ part)
    (bytes : List UInt8) : behind (bytes ++ part) =
      ⟨(behind bytes).line, (behind bytes).column + part.length⟩ := by
  rw [behind, lineLength_append_of_not_mem h, List.count_append, List.count_eq_zero.mpr h,
    Nat.add_zero, behind]

theorem Position.advance_behind (bytes : List UInt8) (offset : Nat) (text : List Char) :
    (behind bytes).advance offset text = behind (bytes ++ (encode text).take offset) := by
  induction text generalizing bytes offset with
  | nil => rw [advance, encode, List.flatMap_nil, List.take_nil, List.append_nil]
  | cons c cs ih =>
      rw [advance]
      split
      · rename_i zero
        rw [zero, List.take_zero, List.append_nil]
      · rw [encode_cons, List.take_append, ← List.append_assoc, String.length_utf8EncodeChar]
        split
        · rename_i positive same
          have whole : (String.utf8EncodeChar c).take offset = [lineBreak] := by
            rw [same]
            exact List.take_of_length_le (Nat.one_le_iff_ne_zero.mpr positive)
          have size : c.utf8Size = 1 := same ▸ rfl
          rw [whole, size, ← ih, behind_concat_lineBreak]
        · rename_i other
          have kept : lineBreak ∉ (String.utf8EncodeChar c).take offset := fun hb =>
            lineBreak_not_mem_encodeChar other (List.mem_of_mem_take hb)
          rw [← ih, behind_append_of_not_mem kept, List.length_take,
            String.length_utf8EncodeChar]

/-- **Positions by bytes.** -/
theorem Position.ofOffset_eq (text : List Char) (offset : Nat) :
    ofOffset text offset = behind ((encode text).take offset) :=
  advance_behind [] offset text

/-! ### Deleted bytes -/

/-- Of the bytes those at the offsets are deleted, which are no line breaks, and these are left. -/
inductive Loses : List UInt8 → List Nat → List UInt8 → Prop
  | nil : Loses [] [] []
  | keep {bytes left : List UInt8} {offsets : List Nat} (b : UInt8) :
      Loses bytes offsets left → Loses (bytes ++ [b]) offsets (left ++ [b])
  | delete {bytes left : List UInt8} {offsets : List Nat} {b : UInt8} : b ≠ lineBreak →
      Loses bytes offsets left → Loses (bytes ++ [b]) (offsets ++ [bytes.length]) left

namespace Loses

variable {bytes left : List UInt8} {offsets : List Nat}

theorem append (h : Loses bytes offsets left) (part : List UInt8) :
    Loses (bytes ++ part) offsets (left ++ part) := by
  induction part generalizing bytes left with
  | nil =>
      rw [List.append_nil, List.append_nil]
      exact h
  | cons b bs ih =>
      rw [List.append_cons bytes, List.append_cons left]
      exact ih (h.keep b)

theorem refl (bytes : List UInt8) : Loses bytes [] bytes := nil.append bytes

theorem length_eq (h : Loses bytes offsets left) :
    bytes.length = left.length + offsets.length := by
  induction h with
  | nil => rfl
  | keep _ _ ih | delete _ _ ih =>
      simp only [List.length_append, List.length_singleton]
      omega

theorem lt_length (h : Loses bytes offsets left) : ∀ o ∈ offsets, o < bytes.length := by
  induction h with
  | nil => exact nofun
  | keep b _ ih =>
      intro o ho
      rw [List.length_append]
      exact Nat.lt_add_right 1 (ih o ho)
  | delete _ _ ih =>
      intro o ho
      rw [List.length_append, List.length_singleton]
      rcases List.mem_append.mp ho with ho | ho
      · exact Nat.lt_succ_of_lt (ih o ho)
      · rw [List.mem_singleton.mp ho]
        exact Nat.lt_succ_self _

theorem count_eq (h : Loses bytes offsets left) :
    bytes.count lineBreak = left.count lineBreak := by
  induction h with
  | nil => rfl
  | keep b _ ih => rw [List.count_append, List.count_append, ih]
  | delete hb _ ih =>
      rw [List.count_append, ih, List.count_singleton, beq_eq_false_iff_ne.mpr hb,
        if_neg Bool.false_ne_true, Nat.add_zero]

/-- The last line is longer by the bytes that are deleted from it. -/
theorem lineLength_eq (h : Loses bytes offsets left) :
    lineLength bytes = lineLength left + offsets.countP (lineStart bytes ≤ ·) := by
  induction h with
  | nil => rfl
  | @keep bytes left offsets b h ih =>
      by_cases hb : b = lineBreak
      · have before : offsets.countP (lineStart (bytes ++ [b]) ≤ ·) = 0 := by
          rw [hb, lineStart_concat_lineBreak, List.countP_eq_zero]
          intro o ho
          have := h.lt_length o ho
          simp only [decide_eq_true_eq]
          omega
        rw [before, hb, lineLength_concat_lineBreak, lineLength_concat_lineBreak]
      · rw [lineLength_concat hb, lineLength_concat hb, lineStart_concat hb, ih]
        omega
  | @delete bytes left offsets b hb h ih =>
      have last : decide (lineStart bytes ≤ bytes.length) = true :=
        decide_eq_true (lineStart_le bytes)
      rw [lineLength_concat hb, lineStart_concat hb, List.countP_append, List.countP_singleton,
        last, if_pos rfl, ih, Nat.add_assoc]

/-- All deleted bytes are in front of the end. -/
theorem countP_eq_length (h : Loses bytes offsets left) :
    offsets.countP (· < bytes.length) = offsets.length := by
  rw [List.countP_eq_length]
  intro o ho
  exact decide_eq_true (h.lt_length o ho)

theorem le_length (h : Loses bytes offsets left) {k n : Nat} (hk : k ≤ left.length)
    (hn : n = k + offsets.countP (· < n)) : n ≤ bytes.length := by
  have parts := h.length_eq
  have some : offsets.countP (· < n) ≤ offsets.length := List.countP_le_length
  omega

/-- Every offset in what is left comes from an offset in the bytes. -/
theorem exists_eq_add_countP (h : Loses bytes offsets left) {k : Nat} (hk : k ≤ left.length) :
    ∃ n, n = k + offsets.countP (· < n) := by
  induction h with
  | nil => exact ⟨k, rfl⟩
  | @keep bytes left offsets b h ih =>
      rcases Nat.lt_or_eq_of_le hk with inside | whole
      · rw [List.length_append, List.length_singleton] at inside
        exact ih (Nat.le_of_lt_succ inside)
      · refine ⟨(bytes ++ [b]).length, ?_⟩
        rw [(h.keep b).countP_eq_length, whole, (h.keep b).length_eq]
  | @delete bytes left offsets b hb h ih =>
      obtain ⟨n, hn⟩ := ih hk
      refine ⟨n, ?_⟩
      have behind : decide (bytes.length < n) = false :=
        decide_eq_false (Nat.not_lt.mpr (h.le_length hk hn))
      rw [List.countP_append, List.countP_singleton, behind, if_neg Bool.false_ne_true,
        Nat.add_zero]
      exact hn

theorem take_length (h : Loses bytes offsets left) :
    Loses (bytes.take bytes.length) (offsets.filter (· < bytes.length))
      (left.take (bytes.length - offsets.countP (· < bytes.length))) := by
  have all : offsets.filter (· < bytes.length) = offsets :=
    List.filter_eq_self.mpr fun o ho => decide_eq_true (h.lt_length o ho)
  have rest : bytes.length - offsets.length = left.length := by
    rw [h.length_eq, Nat.add_sub_cancel]
  rw [all, h.countP_eq_length, rest, List.take_length, List.take_length]
  exact h

/-- **What is left of a part of the bytes.** -/
theorem take (h : Loses bytes offsets left) {n : Nat} (hn : n ≤ bytes.length) :
    Loses (bytes.take n) (offsets.filter (· < n))
      (left.take (n - offsets.countP (· < n))) := by
  induction h with
  | nil =>
      rw [List.take_nil, List.take_nil]
      exact nil
  | @keep bytes left offsets b h ih =>
      rcases Nat.lt_or_eq_of_le hn with inside | rfl
      · rw [List.length_append, List.length_singleton] at inside
        have part := ih (Nat.le_of_lt_succ inside)
        -- the part of what is left does not reach the byte that is kept
        have short : n - offsets.countP (· < n) ≤ left.length := by
          have parts := part.length_eq
          rw [List.length_take, List.length_take, ← List.countP_eq_length_filter] at parts
          omega
        rw [List.take_append_of_le_length (Nat.le_of_lt_succ inside),
          List.take_append_of_le_length short]
        exact part
      · exact (h.keep b).take_length
  | @delete bytes left offsets b hb h ih =>
      rcases Nat.lt_or_eq_of_le hn with inside | rfl
      · rw [List.length_append, List.length_singleton] at inside
        have inside := Nat.le_of_lt_succ inside
        have same : (offsets ++ [bytes.length]).filter (· < n) = offsets.filter (· < n) := by
          rw [List.filter_append, List.filter_cons_of_neg (by simpa using inside), List.filter_nil,
            List.append_nil]
        rw [List.take_append_of_le_length inside, List.countP_eq_length_filter, same,
          ← List.countP_eq_length_filter]
        exact ih inside
      · exact (h.delete hb).take_length

end Loses
end TypeCatalog.Text
