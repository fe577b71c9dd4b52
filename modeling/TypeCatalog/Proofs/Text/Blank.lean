import Mathlib.Data.List.TakeWhile
import TypeCatalog.Text.Blank

/-! # Trimming

Outer blanks do not matter to a trimmed text, and a character that is no blank stays in it. -/

namespace TypeCatalog.Text

theorem isBlank_of_isDigit {c : Char} (h : c.isDigit = true) : isBlank c = false := by
  have hc : 48 ≤ c.toNat ∧ c.toNat ≤ 57 := Char.isDigit_iff_toNat.mp h
  simp only [isBlank, Bool.or_eq_false_iff, Bool.and_eq_false_iff, decide_eq_false_iff_not,
    beq_eq_false_iff_ne]
  omega

theorem isBlank_of_isAlpha {c : Char} (h : c.isAlpha = true) : isBlank c = false := by
  have letter : (decide (c.val ≥ 'A'.val ∧ c.val ≤ 'Z'.val) ||
      (decide (c.val ≥ 'a'.val) && decide (c.val ≤ 'z'.val))) = true := h
  have hc : (65 ≤ c.toNat ∧ c.toNat ≤ 90) ∨ (97 ≤ c.toNat ∧ c.toNat ≤ 122) := by
    simpa [UInt32.le_iff_toNat_le] using letter
  simp only [isBlank, Bool.or_eq_false_iff, Bool.and_eq_false_iff, decide_eq_false_iff_not,
    beq_eq_false_iff_ne]
  omega

/-! ### At the start -/

theorem trimStart_append_of_blank {front text : List Char} (h : ∀ c ∈ front, isBlank c = true) :
    trimStart (front ++ text) = trimStart text :=
  List.dropWhile_append_of_pos h

theorem trimStart_append {text back : List Char} (h : trimStart text ≠ []) :
    trimStart (text ++ back) = trimStart text ++ back := by
  induction text with
  | nil => exact absurd rfl h
  | cons c cs ih =>
      by_cases hc : isBlank c = true
      · rw [List.cons_append]
        simp only [trimStart, List.dropWhile_cons_of_pos hc] at h ⊢
        exact ih h
      · simp only [trimStart, List.cons_append, List.dropWhile_cons_of_neg hc]

/-- Behind its leading blanks a text is what is left at its start. -/
theorem exists_append_trimStart (text : List Char) :
    ∃ front, (∀ c ∈ front, isBlank c = true) ∧ text = front ++ trimStart text :=
  ⟨text.takeWhile isBlank, fun _ => List.mem_takeWhile_imp,
    List.takeWhile_append_dropWhile.symm⟩

theorem trimStart_append_cons {c : Char} (hc : isBlank c = false) (front back : List Char) :
    trimStart (front ++ c :: back) = trimStart front ++ c :: back := by
  by_cases h : trimStart front = []
  · have none : trimStart (c :: back) = c :: back := List.dropWhile_cons_of_neg (by simp [hc])
    rw [trimStart_append_of_blank (List.dropWhile_eq_nil_iff.mp h), none, h, List.nil_append]
  · exact trimStart_append h

theorem mem_trimStart {text : List Char} {c : Char} (h : c ∈ text) (hc : isBlank c = false) :
    c ∈ trimStart text := by
  induction text with
  | nil => cases h
  | cons d ds ih =>
      by_cases hd : isBlank d = true
      · have hne : c ≠ d := by
          rintro rfl
          rw [hd] at hc
          cases hc
        rw [trimStart, List.dropWhile_cons_of_pos hd]
        exact ih ((List.mem_cons.mp h).resolve_left hne)
      · rwa [trimStart, List.dropWhile_cons_of_neg hd]

/-! ### At the end -/

theorem trimEnd_eq (text : List Char) : trimEnd text = (trimStart text.reverse).reverse := rfl

theorem trimEnd_append_of_blank {text back : List Char} (h : ∀ c ∈ back, isBlank c = true) :
    trimEnd (text ++ back) = trimEnd text := by
  rw [trimEnd_eq, List.reverse_append, trimStart_append_of_blank, trimEnd_eq]
  exact fun c hc => h c (List.mem_reverse.mp hc)

theorem trimEnd_append {back : List Char} (h : trimEnd back ≠ []) (front : List Char) :
    trimEnd (front ++ back) = front ++ trimEnd back := by
  have starts : trimStart back.reverse ≠ [] := by
    rwa [trimEnd_eq, ne_eq, List.reverse_eq_nil_iff] at h
  rw [trimEnd_eq, List.reverse_append, trimStart_append starts, List.reverse_append,
    List.reverse_reverse, trimEnd_eq]

theorem trimEnd_eq_nil_iff {text : List Char} :
    trimEnd text = [] ↔ ∀ c ∈ text, isBlank c = true := by
  rw [trimEnd_eq, List.reverse_eq_nil_iff, trimStart, List.dropWhile_eq_nil_iff]
  simp only [List.mem_reverse]

theorem trimEnd_concat {c : Char} (hc : isBlank c = false) (text : List Char) :
    trimEnd (text ++ [c]) = text ++ [c] := by
  simp [trimEnd, hc]

/-- In front of its final blanks a text is what is left at its end. -/
theorem exists_trimEnd_append (text : List Char) :
    ∃ back, (∀ c ∈ back, isBlank c = true) ∧ text = trimEnd text ++ back := by
  obtain ⟨front, hf, h⟩ := exists_append_trimStart text.reverse
  refine ⟨front.reverse, fun c hc => hf c (List.mem_reverse.mp hc), ?_⟩
  rw [trimEnd_eq, ← List.reverse_append, ← h, List.reverse_reverse]

theorem trimEnd_append_cons {c : Char} (hc : isBlank c = false) (front back : List Char) :
    trimEnd (front ++ c :: back) = front ++ c :: trimEnd back := by
  have turned : (front ++ c :: back).reverse = back.reverse ++ c :: front.reverse := by simp
  rw [trimEnd_eq, turned, trimStart_append_cons hc, trimEnd_eq]
  simp

theorem mem_trimEnd {text : List Char} {c : Char} (h : c ∈ text) (hc : isBlank c = false) :
    c ∈ trimEnd text := by
  rw [trimEnd_eq, List.mem_reverse]
  exact mem_trimStart (List.mem_reverse.mpr h) hc

/-! ### At both ends -/

theorem trimStart_eq_self {text : List Char} (h : ∀ c ∈ text, isBlank c = false) :
    trimStart text = text := by
  cases text with
  | nil => rfl
  | cons c cs =>
      have hc : isBlank c = false := h c (List.mem_cons_self ..)
      rw [trimStart, List.dropWhile_cons_of_neg (by simp [hc])]

/-- A text without blanks is not trimmed. -/
theorem trim_eq_self {text : List Char} (h : ∀ c ∈ text, isBlank c = false) :
    trim text = text := by
  have turned : ∀ c ∈ text.reverse, isBlank c = false :=
    fun c hc => h c (List.mem_reverse.mp hc)
  rw [trim, trimStart_eq_self h, trimEnd_eq, trimStart_eq_self turned, List.reverse_reverse]

theorem mem_trim {text : List Char} {c : Char} (h : c ∈ text) (hc : isBlank c = false) :
    c ∈ trim text :=
  mem_trimEnd (mem_trimStart h hc) hc

/-- Blanks in front of a text are trimmed with it. -/
theorem trim_append_left {front : List Char} (h : ∀ c ∈ front, isBlank c = true)
    (text : List Char) : trim (front ++ text) = trim text := by
  rw [trim, trimStart_append_of_blank h, trim]

/-- Blanks behind a text are trimmed with it. -/
theorem trim_append_right {back : List Char} (h : ∀ c ∈ back, isBlank c = true)
    (text : List Char) : trim (text ++ back) = trim text := by
  rw [trim, trim]
  by_cases ht : trimStart text = []
  · have all : ∀ c ∈ text, isBlank c = true := List.dropWhile_eq_nil_iff.mp ht
    have none : trimStart back = [] := List.dropWhile_eq_nil_iff.mpr h
    rw [ht, trimStart_append_of_blank all, none]
  · rw [trimStart_append ht, trimEnd_append_of_blank h]

end TypeCatalog.Text
