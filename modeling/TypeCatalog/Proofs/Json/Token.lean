import TypeCatalog.Proofs.Json.Numeral
import TypeCatalog.Proofs.Json.StringLiteral
import TypeCatalog.Proofs.Text.Blank

/-! # Values without parts

The texts of words, numbers and strings, as they are taken character by character.  None of them
starts or ends with a blank or a semicolon, and outside strings they have neither quotes nor
commas. -/

namespace TypeCatalog.Json

/-! ### Texts read so far -/

/-- The text takes the reader to this place inside a number. -/
inductive Numeral.Spelled : Numeral → List Char → Prop
  | first {c : Char} {n : Numeral} : start? c = some n → Spelled n [c]
  | next {n n' : Numeral} {text : List Char} {c : Char} : Spelled n text →
      n.step c = .ok (some n') → Spelled n' (text ++ [c])

/-- The text behind the opening quote takes the reader to this place inside a string. -/
inductive StringLiteral.Spelled : StringLiteral → List Char → Prop
  | start : Spelled .start []
  | next {l l' : StringLiteral} {text : List Char} {c : Char} : Spelled l text →
      l.step c = .ok (.more l') → Spelled l' (text ++ [c])

/-! ### Complete texts -/

/-- The words that stand for values. -/
def words : List (List Char) :=
  [['n', 'u', 'l', 'l'], ['t', 'r', 'u', 'e'], ['f', 'a', 'l', 's', 'e']]

/-- The text is a string between its quotes. -/
inductive IsQuoted : List Char → Prop
  | quoted {l : StringLiteral} {text : List Char} {c : Char} {s : String} : l.Spelled text →
      l.step c = .ok (.closed s) → IsQuoted ('"' :: (text ++ [c]))

/-- The text is a word, a number or a string. -/
inductive IsScalar : List Char → Prop
  | word {text : List Char} : text ∈ words → IsScalar text
  | number {n : Numeral} {text : List Char} {v : Json} : n.Spelled text → n.finish = .ok v →
      IsScalar text
  | string {text : List Char} : IsQuoted text → IsScalar text

/-! ### Characters of numbers -/

theorem Numeral.isDigit_of_digit? {c : Char} (h : digit? c ≠ none) : c.isDigit = true := by
  by_contra hc
  exact h (by rw [digit?, if_neg hc])

theorem Numeral.Spelled.isDigit_or_mem_marks {n : Numeral} {text : List Char}
    (h : n.Spelled text) : ∀ c ∈ text, c.isDigit = true ∨ c ∈ marks := by
  induction h with
  | @first c n hc =>
      rw [List.forall_mem_singleton]
      by_cases minus : c = '-'
      · exact .inr (by rw [minus]; decide)
      · by_contra hn
        have digit : digit? c = none := by
          by_contra hd
          exact hn (.inl (isDigit_of_digit? hd))
        have zero : c ≠ '0' := by
          rintro rfl
          exact hn (.inl rfl)
        rw [start?, if_neg minus, if_neg zero, digit] at hc
        cases hc
  | @next n n' text c _ hs ih =>
      rw [List.forall_mem_append, List.forall_mem_singleton]
      refine ⟨ih, ?_⟩
      by_contra hn
      rw [not_or] at hn
      exact step_ne_some (by_contra fun hd => hn.1 (isDigit_of_digit? hd)) hn.2 hs

theorem Numeral.Spelled.exists_first {n : Numeral} {text : List Char} (h : n.Spelled text) :
    ∃ c rest first, text = c :: rest ∧ start? c = some first := by
  induction h with
  | @first c n hc => exact ⟨c, [], n, rfl, hc⟩
  | @next n n' text c _ _ ih =>
      obtain ⟨d, rest, first, rfl, hd⟩ := ih
      exact ⟨d, rest ++ [c], first, rfl, hd⟩

theorem foreign_of_isDigit_or_mem_marks {c : Char} (h : c.isDigit = true ∨ c ∈ Numeral.marks) :
    Text.isBlank c = false ∧ c ≠ '"' ∧ c ≠ ',' ∧ c ≠ ';' := by
  rcases h with h | h
  · refine ⟨Text.isBlank_of_isDigit h, ?_, ?_, ?_⟩ <;> rintro rfl <;> cases h
  · simp only [Numeral.marks, List.mem_cons, List.not_mem_nil, or_false] at h
    rcases h with rfl | rfl | rfl | rfl | rfl <;> decide

/-! ### First and last characters -/

theorem Reader.startValue_of_start? {limit : Nat} {stack : List Frame} {c : Char} {n : Numeral}
    (h : Numeral.start? c = some n) :
    Reader.startValue limit stack c = .ok ⟨.numeral n, stack⟩ := by
  unfold Reader.startValue
  split
  iterate 6 cases h
  rw [h]

theorem IsScalar.exists_first {text : List Char} (h : IsScalar text) :
    ∃ c rest s, text = c :: rest ∧ Reader.startValue 1 [] c = .ok s := by
  cases h with
  | word hw =>
      simp only [words, List.mem_cons, List.not_mem_nil, or_false] at hw
      rcases hw with rfl | rfl | rfl <;> exact ⟨_, _, _, rfl, rfl⟩
  | number hn _ =>
      obtain ⟨c, rest, first, rfl, hc⟩ := hn.exists_first
      exact ⟨c, rest, _, rfl, Reader.startValue_of_start? hc⟩
  | string hq =>
      cases hq with
      | quoted _ _ => exact ⟨_, _, _, rfl, rfl⟩

/-- A value without parts ends with a character that trimming leaves. -/
theorem IsScalar.exists_last {text : List Char} (h : IsScalar text) :
    ∃ front c, text = front ++ [c] ∧ Text.isBlank c = false ∧ c ≠ ';' := by
  cases h with
  | word hw =>
      simp only [words, List.mem_cons, List.not_mem_nil, or_false] at hw
      rcases hw with rfl | rfl | rfl
      · exact ⟨['n', 'u', 'l'], 'l', rfl, rfl, by decide⟩
      · exact ⟨['t', 'r', 'u'], 'e', rfl, rfl, by decide⟩
      · exact ⟨['f', 'a', 'l', 's'], 'e', rfl, rfl, by decide⟩
  | number hn _ =>
      obtain ⟨c, rest, -, rfl, -⟩ := hn.exists_first
      have hl := hn.isDigit_or_mem_marks _ (List.getLast_mem (List.cons_ne_nil c rest))
      obtain ⟨blank, -, -, semicolon⟩ := foreign_of_isDigit_or_mem_marks hl
      exact ⟨_, _, (List.dropLast_concat_getLast _).symm, blank, semicolon⟩
  | string hq =>
      cases hq with
      | @quoted l text c s _ hc =>
          have quote := (StringLiteral.eq_of_closed hc).2
          exact ⟨'"' :: text, c, rfl, by rw [quote]; rfl, by rw [quote]; decide⟩

end TypeCatalog.Json
