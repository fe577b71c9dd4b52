import TypeCatalog.Proofs.Snapshot.Scan

/-! # JSON texts with trailing commas

`Loosened` relates a JSON text to the texts that arise from it when at most one comma is put
before the closing bracket of each of its containers.  It follows the grammar of JSON: a value is
a word, a number or a string, or it is a container with brackets, entries between commas, and
blanks around all of them.  The comma may have blanks of its own around it.  A container without
entries may get one too, if `bare` holds. -/

namespace TypeCatalog.Snapshot

open Json Json.Reader

/-! ### Texts and their parts -/

/-- The two kinds of values with parts. -/
inductive Container where
  | list
  | object

namespace Container

/-- The bracket in front of the parts. -/
def opening : Container → Char
  | list => '['
  | object => '{'

/-- The bracket behind the parts. -/
def closing : Container → Char
  | list => ']'
  | object => '}'

theorem opening_ne (k : Container) : k.opening ≠ '"' ∧ k.opening ≠ ',' := by
  cases k <;> decide

theorem closing_ne (k : Container) : k.closing ≠ '"' ∧ k.closing ≠ ',' := by
  cases k <;> decide

theorem closing_eq (k : Container) : k.closing = '}' ∨ k.closing = ']' := by
  cases k
  · exact .inr rfl
  · exact .inl rfl

end Container

/-- The text has no characters but the blanks of JSON. -/
def Gap (text : List Char) : Prop := ∀ c ∈ text, Reader.isBlank c = true

/-- The kinds of texts that make up a JSON text. -/
inductive Part where
  | value
  /-- An element of a list, or a key with its value; in front of it there may be blanks. -/
  | entry (container : Container)
  /-- Entries with commas between them. -/
  | entries (container : Container)
  /-- A value with blanks around it. -/
  | text

/-- The blanks in front of a closing bracket, and the same with a comma put in. -/
inductive Ending (allowed : Prop) : List Char → List Char → Prop
  | plain {gap : List Char} : Gap gap → Ending allowed gap gap
  | comma {front back before behind : List Char} : allowed → Gap front → Gap back →
      Gap before → Gap behind →
      Ending allowed (front ++ back) (front ++ (before ++ ',' :: (behind ++ back)))

/-- The first text is a part of a JSON text, and the second is the same with a comma put before
the closing bracket of some of the containers in it: behind the last entry, and in a container
without entries only if `bare` holds. -/
inductive Loosened (bare : Prop) : Part → List Char → List Char → Prop
  | scalar {text : List Char} : IsScalar text → Loosened bare .value text text
  | empty {k : Container} {e e' : List Char} : Ending bare e e' →
      Loosened bare .value (k.opening :: (e ++ [k.closing])) (k.opening :: (e' ++ [k.closing]))
  | full {k : Container} {s t e e' : List Char} : Loosened bare (.entries k) s t →
      Ending True e e' →
      Loosened bare .value (k.opening :: (s ++ (e ++ [k.closing])))
        (k.opening :: (t ++ (e' ++ [k.closing])))
  | element {gap s t : List Char} : Gap gap → Loosened bare .value s t →
      Loosened bare (.entry .list) (gap ++ s) (gap ++ t)
  | member {gap key before behind s t : List Char} : Gap gap → IsQuoted key → Gap before →
      Gap behind → Loosened bare .value s t →
      Loosened bare (.entry .object) (gap ++ (key ++ (before ++ ':' :: (behind ++ s))))
        (gap ++ (key ++ (before ++ ':' :: (behind ++ t))))
  | one {k : Container} {s t : List Char} : Loosened bare (.entry k) s t →
      Loosened bare (.entries k) s t
  | more {k : Container} {gap s t s' t' : List Char} : Loosened bare (.entries k) s t →
      Gap gap → Loosened bare (.entry k) s' t' →
      Loosened bare (.entries k) (s ++ (gap ++ ',' :: s')) (t ++ (gap ++ ',' :: t'))
  | text {front back s t : List Char} : Gap front → Loosened bare .value s t → Gap back →
      Loosened bare .text (front ++ (s ++ back)) (front ++ (t ++ back))

/-- The second text is the JSON text `strict` with a comma behind the last entry of some lists and
objects. -/
def WithTrailingCommas (strict loose : List Char) : Prop := Loosened False .text strict loose

/-- The second text is the JSON text `strict` with a comma before the closing bracket of some lists
and objects, be it behind their last entry or because they have none. -/
def WithFinalCommas (strict loose : List Char) : Prop := Loosened True .text strict loose

/-! ### Blanks -/

theorem Gap.nil : Gap [] := nofun

theorem Gap.append {front back : List Char} (h₁ : Gap front) (h₂ : Gap back) :
    Gap (front ++ back) := List.forall_mem_append.mpr ⟨h₁, h₂⟩

theorem Gap.concat {gap : List Char} {c : Char} (h : Gap gap) (hc : Reader.isBlank c = true) :
    Gap (gap ++ [c]) := h.append (List.forall_mem_singleton.mpr hc)

theorem isBlank_of_json {c : Char} (h : Reader.isBlank c = true) : Text.isBlank c = true := by
  simp only [Reader.isBlank, Bool.or_eq_true, beq_iff_eq] at h
  rcases h with ((rfl | rfl) | rfl) | rfl <;> rfl

theorem Gap.isBlank {gap : List Char} (h : Gap gap) : ∀ c ∈ gap, Text.isBlank c = true :=
  fun c hc => isBlank_of_json (h c hc)

/-! ### Parts behind blanks -/

theorem Loosened.behind_gap {bare : Prop} {k : Container} {gap strict loose : List Char}
    (h : Loosened bare (.entry k) strict loose) (hg : Gap gap) :
    Loosened bare (.entry k) (gap ++ strict) (gap ++ loose) := by
  cases h with
  | element hg' hv => simpa using Loosened.element (hg.append hg') hv
  | member hg' hq hb hb' hv => simpa using Loosened.member (hg.append hg') hq hb hb' hv

theorem Ending.behind_gap {allowed : Prop} {gap e e' : List Char} (h : Ending allowed e e')
    (hg : Gap gap) : Ending allowed (gap ++ e) (gap ++ e') := by
  cases h with
  | plain hg' => exact .plain (hg.append hg')
  | comma ha hf hb hbefore hbehind =>
      simpa using Ending.comma ha (hg.append hf) hb hbefore hbehind

theorem Ending.mono {allowed : Prop} {e e' : List Char} (h : Ending allowed e e') :
    Ending True e e' := by
  cases h with
  | plain hg => exact .plain hg
  | comma _ hf hb hbefore hbehind => exact .comma trivial hf hb hbefore hbehind

/-! ### First and last characters -/

theorem Loosened.exists_start {bare : Prop} {strict loose : List Char}
    (h : Loosened bare .value strict loose) :
    ∃ c rest s, loose = c :: rest ∧ startValue 1 [] c = .ok s := by
  have opening (k : Container) : ∃ s, startValue 1 [] k.opening = .ok s := by
    cases k <;> exact ⟨_, rfl⟩
  cases h with
  | scalar hs => exact hs.exists_first
  | @empty k _ _ _ | @full k _ _ _ _ _ _ =>
      obtain ⟨s, hk⟩ := opening k
      exact ⟨_, _, s, rfl, hk⟩

/-- Every part starts, behind blanks, with a character that can start a value. -/
theorem Loosened.exists_first {bare : Prop} {p : Part} {strict loose : List Char}
    (h : Loosened bare p strict loose) :
    ∃ gap c rest s, loose = gap ++ c :: rest ∧ Gap gap ∧ startValue 1 [] c = .ok s := by
  have value {strict loose : List Char} (h : Loosened bare .value strict loose) :
      ∃ gap c rest s, loose = gap ++ c :: rest ∧ Gap gap ∧ startValue 1 [] c = .ok s := by
    obtain ⟨c, rest, s, hl, hc⟩ := h.exists_start
    exact ⟨[], c, rest, s, hl, .nil, hc⟩
  induction h with
  | scalar hs => exact value (.scalar hs)
  | empty he => exact value (.empty he)
  | full hs he _ => exact value (.full hs he)
  | @element gap _ _ hg _ ih =>
      obtain ⟨gap', c, rest, s, rfl, hg', hc⟩ := ih
      exact ⟨gap ++ gap', c, rest, s, by simp, hg.append hg', hc⟩
  | @member gap _ _ _ _ _ hg hq _ _ _ _ =>
      cases hq with
      | quoted _ _ => exact ⟨gap, _, _, _, rfl, hg, rfl⟩
  | one _ ih => exact ih
  | more _ _ _ ih _ =>
      obtain ⟨gap', c, rest, s, rfl, hg', hc⟩ := ih
      exact ⟨gap', c, _, s, List.append_assoc .., hg', hc⟩
  | @text front _ _ _ hf _ _ ih =>
      obtain ⟨gap', c, rest, s, rfl, hg', hc⟩ := ih
      exact ⟨front ++ gap', c, _, s, by simp; rfl, hf.append hg', hc⟩

theorem Loosened.closesNext_eq_false {bare : Prop} {p : Part} {strict loose : List Char}
    (h : Loosened bare p strict loose) (rest : List Char) : closesNext (loose ++ rest) = false := by
  obtain ⟨gap, c, back, s, rfl, hg, hc⟩ := h.exists_first
  have brace : c ≠ '}' := by
    rintro rfl
    cases hc
  have bracket : c ≠ ']' := by
    rintro rfl
    cases hc
  rw [List.append_assoc, closesNext_append_of_blank hg.isBlank, List.cons_append,
    closesNext_cons (isBlank_of_startValue hc)]
  simp [brace, bracket]

/-- A value ends with a character that trimming leaves. -/
theorem Loosened.exists_last {bare : Prop} {strict loose : List Char}
    (h : Loosened bare .value strict loose) :
    ∃ front c, loose = front ++ [c] ∧ Text.isBlank c = false ∧ c ≠ ';' := by
  have closing (k : Container) : Text.isBlank k.closing = false ∧ k.closing ≠ ';' := by
    cases k <;> decide
  cases h with
  | scalar hs => exact hs.exists_last
  | @empty k e e' _ => exact ⟨k.opening :: e', _, rfl, closing k⟩
  | @full k s t e e' _ _ => exact ⟨k.opening :: (t ++ e'), _, by simp, closing k⟩

end TypeCatalog.Snapshot
