import Mathlib.Data.List.TakeWhile
import TypeCatalog.Snapshot.Text

/-! # Places behind skipped text

A position of the second part of a text is counted on from the end of the first part.  Doing this
for two parts one after the other is doing it for both together (`placeBehind_append`), and it does
not matter whether what is counted is counted before or after (`advance_placeBehind`); so the
position of a byte offset behind a part is the position of the offset without this part, counted on
(`ofOffset_append`). -/

namespace TypeCatalog

/-! ### Lines -/

namespace Text

theorem lineBreaks_append (front back : List Char) :
    lineBreaks (front ++ back) = lineBreaks front + lineBreaks back :=
  List.count_append

theorem lastLine_append_of_not_mem {back : List Char} (h : '\n' ∉ back) (front : List Char) :
    lastLine (front ++ back) = lastLine front ++ back := by
  have same : ∀ c ∈ back.reverse, (c != '\n') = true := by
    intro c hc
    rw [bne_iff_ne]
    rintro rfl
    exact h (List.mem_reverse.mp hc)
  rw [lastLine, List.reverse_append, List.takeWhile_append_of_pos same, List.reverse_append,
    List.reverse_reverse, lastLine]

theorem lastLine_of_not_mem {text : List Char} (h : '\n' ∉ text) : lastLine text = text :=
  lastLine_append_of_not_mem h []

theorem lastLine_append_of_mem {back : List Char} (h : '\n' ∈ back) (front : List Char) :
    lastLine (front ++ back) = lastLine back := by
  have shorter : (back.reverse.takeWhile (· != '\n')).length ≠ back.reverse.length := by
    intro whole
    have all := List.takeWhile_eq_self_iff.mp
      ((List.takeWhile_prefix _).eq_of_length whole) '\n' (List.mem_reverse.mpr h)
    exact absurd all (by decide)
  rw [lastLine, List.reverse_append, List.takeWhile_append, if_neg shorter, lastLine]

theorem Position.one_le_line_advance {p : Position} (h : 1 ≤ p.line) (offset : Nat)
    (text : List Char) : 1 ≤ (p.advance offset text).line := by
  induction text generalizing p offset with
  | nil => exact h
  | cons c cs ih =>
      unfold advance
      split
      · exact h
      · split
        · exact ih (Nat.le_add_left 1 p.line) _
        · apply ih
          exact h

theorem Position.one_le_line_ofOffset (text : List Char) (offset : Nat) :
    1 ≤ (ofOffset text offset).line :=
  one_le_line_advance (le_refl 1) offset text

end Text

/-! ### Counting on -/

namespace Snapshot

open Text Text.Position

theorem placeBehind_of_later {l : Nat} (h : l ≠ 1) (skipped : List Char) (c : Nat) :
    placeBehind skipped ⟨l, c⟩ = ⟨l + lineBreaks skipped, c⟩ := by
  rw [placeBehind, if_neg h]

theorem placeBehind_append (front back : List Char) {p : Position} (h : 1 ≤ p.line) :
    placeBehind (front ++ back) p = placeBehind front (placeBehind back p) := by
  obtain ⟨l, c⟩ := p
  dsimp only at h
  by_cases hl : l = 1
  · subst hl
    have whole : placeBehind (front ++ back) ⟨1, c⟩ = ⟨1 + (lineBreaks front + lineBreaks back),
        c + byteLength (lastLine (front ++ back))⟩ := by
      rw [← lineBreaks_append]
      rfl
    have part : placeBehind back ⟨1, c⟩ = ⟨1 + lineBreaks back, c + byteLength (lastLine back)⟩ :=
      rfl
    rw [whole, part]
    by_cases hb : '\n' ∈ back
    · have some : 0 < lineBreaks back := List.count_pos_iff.mpr hb
      rw [placeBehind_of_later (by omega), lastLine_append_of_mem hb, Position.mk.injEq]
      exact ⟨by omega, rfl⟩
    · have none : lineBreaks back = 0 := List.count_eq_zero.mpr hb
      have joined : placeBehind front ⟨1, c + byteLength back⟩ =
          ⟨1 + lineBreaks front, c + byteLength back + byteLength (lastLine front)⟩ := rfl
      rw [none, lastLine_append_of_not_mem hb, lastLine_of_not_mem hb, byteLength_append,
        Nat.add_zero, Nat.add_zero, joined, Position.mk.injEq]
      exact ⟨rfl, by omega⟩
  · rw [placeBehind_of_later hl, placeBehind_of_later hl, placeBehind_of_later (by omega),
      lineBreaks_append, Position.mk.injEq]
    exact ⟨by omega, rfl⟩

/-- What is counted from a place on is counted in the same way behind skipped text. -/
theorem advance_placeBehind (skipped : List Char) {p : Position} (h : 1 ≤ p.line) (offset : Nat)
    (text : List Char) :
    (placeBehind skipped p).advance offset text = placeBehind skipped (p.advance offset text) := by
  induction text generalizing p offset with
  | nil => rfl
  | cons c cs ih =>
      rw [advance, advance]
      split
      · rfl
      · split
        · -- the next line starts at its first column, wherever the line before it started
          have next : placeBehind skipped ⟨p.line + 1, 0⟩ =
              ⟨(placeBehind skipped p).line + 1, 0⟩ := by
            have line : (placeBehind skipped p).line = p.line + lineBreaks skipped := rfl
            rw [placeBehind_of_later (by omega), line, Position.mk.injEq]
            exact ⟨by omega, rfl⟩
          rw [← next, ih (Nat.le_add_left 1 p.line)]
        · have same (width : Nat) : placeBehind skipped ⟨p.line, p.column + width⟩ =
              ⟨(placeBehind skipped p).line, (placeBehind skipped p).column + width⟩ := by
            simp only [placeBehind, Position.mk.injEq, true_and]
            split <;> omega
          rw [← same]
          apply ih
          exact h

/-- **Offsets behind a part of a text.** -/
theorem ofOffset_append (front text : List Char) (offset : Nat) :
    ofOffset (front ++ text) (byteLength front + offset) =
      placeBehind front (ofOffset text offset) := by
  induction front with
  | nil => simp [placeBehind, lineBreaks, lastLine, byteLength]
  | cons c cs ih =>
      have first : ofOffset (c :: cs ++ text) (byteLength (c :: cs) + offset) =
          (placeBehind [c] ⟨1, 0⟩).advance (byteLength cs + offset) (cs ++ text) := by
        have size : 1 ≤ c.utf8Size := c.utf8Size_pos
        rw [ofOffset, List.cons_append, advance, byteLength, if_neg (by omega)]
        split
        · rename_i lineBreak
          have place : placeBehind ['\n'] ⟨1, 0⟩ = ⟨1 + 1, 0⟩ := by decide
          have width : ('\n').utf8Size = 1 := rfl
          rw [lineBreak, place, width]
          congr 1
          omega
        · rename_i other
          have place : placeBehind [c] ⟨1, 0⟩ = ⟨1, 0 + c.utf8Size⟩ := by
            simp [placeBehind, lineBreaks, lastLine, byteLength, other]
          rw [place, Nat.min_eq_right (by omega)]
          congr 1
          omega
      rw [first, advance_placeBehind [c] (le_refl 1), ← ofOffset, ih, ← placeBehind_append]
      · rfl
      · exact one_le_line_ofOffset _ _

theorem placeBehind_injective (skipped : List Char) :
    Function.Injective (placeBehind skipped) := by
  rintro ⟨l, c⟩ ⟨l', c'⟩ h
  simp only [placeBehind, Position.mk.injEq] at h
  obtain ⟨lines, columns⟩ := h
  have same : l = l' := by omega
  subst same
  rw [Position.mk.injEq]
  refine ⟨rfl, ?_⟩
  split at columns <;> omega

end Snapshot
end TypeCatalog
