import Mathlib.Tactic.SplitIfs
import TypeCatalog.Proofs.Json.Run

/-! # Reading strings back

A string stands in a text as a value or as a key; the reader takes it in the same way at both
places (`step_string`).  The written form of a string is read as this string
(`passes_quote_value`, `passes_quote_key`). -/

namespace TypeCatalog.Json

/-- A string ends at a quote that is no part of an escape. -/
theorem StringLiteral.eq_of_closed {l : StringLiteral} {c : Char} {s : String}
    (h : l.step c = .ok (.closed s)) : l.phase = .plain ∧ c = '"' := by
  obtain ⟨characters, phase⟩ := l
  cases phase with
  | plain =>
      simp only [step] at h
      split at h
      · rename_i quote
        exact ⟨rfl, quote⟩
      · split at h
        · cases h
        · split at h <;> cases h
  | escape =>
      simp only [step] at h
      split at h
      · cases h
      · split at h <;> cases h
  | hex taken value high =>
      simp only [step] at h
      split at h
      · cases h
      · split at h
        · cases h
        · split at h <;> cases h
  | pairSlash high | pairLetter high =>
      simp only [step] at h
      split at h <;> cases h

namespace Reader

variable {limit : Nat}

/-! ### Strings as values and as keys -/

/-- Where a string stands. -/
inductive StringPlace where
  | value
  /-- It is a key behind these fields. -/
  | key (done : Fields Json)

/-- The mode of the reader inside a string. -/
def StringPlace.mode : StringPlace → StringLiteral → Mode
  | .value, l => .string l
  | .key done, l => .key done l

theorem step_string {place : StringPlace} {l l' : StringLiteral} {stack : List Frame} {c : Char}
    (h : l.step c = .ok (.more l')) :
    step limit ⟨place.mode l, stack⟩ c = .ok ⟨place.mode l', stack⟩ := by
  cases place <;> simp [step, StringPlace.mode, h, Except.map]

/-! ### Escapes -/

theorem hexDigit?_hexLetter : ∀ n < 16,
    StringLiteral.hexDigit? (StringLiteral.hexLetter n) = some n := by
  decide

theorem utf8Size_hexLetter : ∀ n < 16, (StringLiteral.hexLetter n).utf8Size = 1 := by
  decide

theorem codeUnit_of_lt {l : StringLiteral} {n : Nat} (h : n < 0x20) :
    l.codeUnit n none = .ok (l.push (Char.ofNat n)) := by
  have hl : StringLiteral.isLow n = false := by
    simp only [StringLiteral.isLow, decide_eq_false_iff_not]
    omega
  have hh : StringLiteral.isHigh n = false := by
    simp only [StringLiteral.isHigh, decide_eq_false_iff_not]
    omega
  simp [StringLiteral.codeUnit, hl, hh]

/-- A character is written as an escape with a letter, as an escape with its code, or as it is. -/
inductive Escaped (c : Char) : List Char → Prop
  | letter {e : Char} (stands : StringLiteral.escapeLetter? e = some c) (other : e ≠ 'u') :
      Escaped c ['\\', e]
  | code (control : c.toNat < 0x20) :
      Escaped c ['\\', 'u', '0', '0', StringLiteral.hexLetter (c.toNat / 16),
        StringLiteral.hexLetter (c.toNat % 16)]
  | raw (quote : c ≠ '"') (slash : c ≠ '\\') (printable : ¬ c.toNat < 0x20) : Escaped c [c]

theorem escaped_escapeChar (c : Char) : Escaped c (StringLiteral.escapeChar c) := by
  unfold StringLiteral.escapeChar
  split_ifs with quote slash _ _ _ _ _ control
  · exact .letter (by simp [quote, StringLiteral.escapeLetter?]) (by decide)
  · exact .letter (by simp [slash, StringLiteral.escapeLetter?]) (by decide)
  · exact .letter (by simp [*, StringLiteral.escapeLetter?]) (by decide)
  · exact .letter (by simp [*, StringLiteral.escapeLetter?]) (by decide)
  · exact .letter (by simp [*, StringLiteral.escapeLetter?]) (by decide)
  · exact .letter (by simp [*, StringLiteral.escapeLetter?]) (by decide)
  · exact .letter (by simp [*, StringLiteral.escapeLetter?]) (by decide)
  · exact .code control
  · exact .raw quote slash control

/-- The four digits of the code of a control character are read as this character. -/
theorem passes_code (place : StringPlace) (read : List Char) (stack : List Frame) {c : Char}
    (h : c.toNat < 0x20) :
    Passes limit ⟨place.mode ⟨read, .hex 0 (some 0) none⟩, stack⟩
      ['0', '0', StringLiteral.hexLetter (c.toNat / 16),
        StringLiteral.hexLetter (c.toNat % 16)]
      ⟨place.mode ⟨c :: read, .plain⟩, stack⟩ := by
  have high : c.toNat / 16 < 16 := by omega
  have low : c.toNat % 16 < 16 := by omega
  have first : StringLiteral.step ⟨read, .hex 0 (some 0) none⟩ '0' =
      .ok (.more ⟨read, .hex 1 (some 0) none⟩) := rfl
  have second : StringLiteral.step ⟨read, .hex 1 (some 0) none⟩ '0' =
      .ok (.more ⟨read, .hex 2 (some 0) none⟩) := rfl
  have third : StringLiteral.step ⟨read, .hex 2 (some 0) none⟩
      (StringLiteral.hexLetter (c.toNat / 16)) =
      .ok (.more ⟨read, .hex 3 (some (c.toNat / 16)) none⟩) := by
    simp [StringLiteral.step, hexDigit?_hexLetter _ high, utf8Size_hexLetter _ high]
  have fourth : StringLiteral.step ⟨read, .hex 3 (some (c.toNat / 16)) none⟩
      (StringLiteral.hexLetter (c.toNat % 16)) = .ok (.more ⟨c :: read, .plain⟩) := by
    have code : c.toNat / 16 * 16 + c.toNat % 16 = c.toNat := by omega
    simp [StringLiteral.step, hexDigit?_hexLetter _ low, utf8Size_hexLetter _ low, code,
      codeUnit_of_lt h, StringLiteral.push]
  exact .cons (step_string first) (.cons (step_string second)
    (.cons (step_string third) (.single (step_string fourth))))

theorem passes_escapeChar (place : StringPlace) (read : List Char) (stack : List Frame)
    (c : Char) :
    Passes limit ⟨place.mode ⟨read, .plain⟩, stack⟩ (StringLiteral.escapeChar c)
      ⟨place.mode ⟨c :: read, .plain⟩, stack⟩ := by
  have slash : StringLiteral.step ⟨read, .plain⟩ '\\' = .ok (.more ⟨read, .escape⟩) := rfl
  have h := escaped_escapeChar c
  generalize StringLiteral.escapeChar c = written at h
  cases h with
  | letter stands other =>
      refine .cons (step_string slash) (.single (step_string ?_))
      simp [StringLiteral.step, stands, other, StringLiteral.push]
  | code control =>
      have u : StringLiteral.step ⟨read, .escape⟩ 'u' =
          .ok (.more ⟨read, .hex 0 (some 0) none⟩) := rfl
      exact .cons (step_string slash) (.cons (step_string u) (passes_code place read stack control))
  | raw hq hs printable =>
      refine .single (step_string ?_)
      simp [StringLiteral.step, hq, hs, printable, StringLiteral.push]

theorem passes_escapeChars (place : StringPlace) (read : List Char) (stack : List Frame)
    (cs : List Char) :
    Passes limit ⟨place.mode ⟨read, .plain⟩, stack⟩ (cs.flatMap StringLiteral.escapeChar)
      ⟨place.mode ⟨cs.reverse ++ read, .plain⟩, stack⟩ := by
  induction cs generalizing read with
  | nil => exact .nil _
  | cons c cs ih =>
      rw [List.flatMap_cons, List.reverse_cons, List.append_assoc, List.singleton_append]
      exact (passes_escapeChar place read stack c).append (ih (c :: read))

/-! ### Quoted strings -/

theorem step_closingQuote (s : String) :
    StringLiteral.step ⟨s.toList.reverse ++ [], .plain⟩ '"' = .ok (.closed s) := by
  simp [StringLiteral.step, StringLiteral.text]

theorem passes_quote_value (stack : List Frame) (s : String) :
    Passes limit ⟨.value, stack⟩ (StringLiteral.quote s) (behind (.str s) stack) := by
  refine .cons rfl ((passes_escapeChars .value [] stack s.toList).append (.single ?_))
  simp only [StringPlace.mode, step, step_closingQuote]
  rfl

theorem passes_quote_key (done : Fields Json) (stack : List Frame) (key : String) :
    Passes limit ⟨.key done .start, stack⟩ (key.toList.flatMap StringLiteral.escapeChar ++ ['"'])
      ⟨.colon done key, stack⟩ := by
  refine (passes_escapeChars (.key done) [] stack key.toList).append (.single ?_)
  simp only [StringPlace.mode, step, step_closingQuote]
  rfl

end Reader
end TypeCatalog.Json
