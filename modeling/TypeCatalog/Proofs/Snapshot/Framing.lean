import TypeCatalog.Proofs.Snapshot.Declaration

/-! # What stands around a value

Outside declarations a snapshot text is a value with blanks around it and perhaps a semicolon
behind it (`Framed`).  Whether a text starts a declaration is said by its first words
(`StartsDeclaration`); a text that starts with a value does not. -/

namespace TypeCatalog.Snapshot

open Json Json.Reader

/-! ### Texts without a declaration -/

/-- The text starts, behind blanks, with a keyword and a blank, perhaps with `export` before. -/
def StartsDeclaration (text : List Char) : Prop :=
  ∃ front exported keyword c rest, text = front ++ (exported ++ (keyword ++ c :: rest)) ∧
    (∀ b ∈ front, Text.isBlank b = true) ∧
    (exported = [] ∨ exported = ['e', 'x', 'p', 'o', 'r', 't', ' ']) ∧
    keyword ∈ keywords ∧ Text.isBlank c = true

theorem eq_append_of_behind? {front text rest : List Char} (h : behind? front text = some rest) :
    text = front ++ rest := by
  induction front generalizing text with
  | nil =>
      cases h
      rfl
  | cons f fs ih =>
      cases text with
      | nil => cases h
      | cons c cs =>
          simp only [behind?] at h
          split at h
          · rename_i same
            rw [same, ih h, List.cons_append]
          · cases h

theorem exists_append_skipExport (text : List Char) :
    ∃ exported, (exported = [] ∨ exported = ['e', 'x', 'p', 'o', 'r', 't', ' ']) ∧
      text = exported ++ skipExport text := by
  rw [skipExport]
  cases h : behind? ['e', 'x', 'p', 'o', 'r', 't', ' '] text with
  | none => exact ⟨[], .inl rfl, rfl⟩
  | some rest => exact ⟨_, .inr rfl, eq_append_of_behind? h⟩

theorem exists_keyword_of_behindKeyword? {text rest : List Char}
    (h : behindKeyword? text = some rest) :
    ∃ keyword c cs, text = keyword ++ rest ∧ rest = c :: cs ∧ keyword ∈ keywords ∧
      Text.isBlank c = true := by
  obtain ⟨keyword, hk, h⟩ := List.exists_of_findSome?_eq_some h
  split at h
  · rename_i c cs hb
    split at h
    · rename_i blank
      cases h
      exact ⟨keyword, c, cs, eq_append_of_behind? hb, rfl, hk, blank⟩
    · cases h
  · cases h

theorem eq_append_of_cutDeclaration {text : List Char} {cut : Cut}
    (h : cutDeclaration text = .ok cut) : text = cut.skipped ++ cut.body := by
  have trimmed : Text.trimStart text <:+ text := List.dropWhile_suffix _
  simp only [cutDeclaration] at h
  split at h
  · cases h
    exact List.takeWhile_append_dropWhile.symm
  · rename_i rest hr
    obtain ⟨exported, -, exports⟩ := exists_append_skipExport (Text.trimStart text)
    obtain ⟨keyword, _, _, declares, -⟩ := exists_keyword_of_behindKeyword? hr
    split at h
    · cases h
    · rename_i sign body cut
      split at h <;> cases h
      have inRest : body <:+ rest := by
        have assigned : sign :: body <:+ rest := cut ▸ List.dropWhile_suffix _
        exact (List.suffix_cons sign body).trans assigned
      have inText : rest <:+ text := by
        refine .trans ⟨exported ++ keyword, ?_⟩ trimmed
        rw [List.append_assoc, ← declares, ← exports]
      exact (List.suffix_iff_eq_append.mp (inRest.trans inText)).symm

theorem readChars_eq {text : List Char} (h : ¬ StartsDeclaration text) :
    readChars text =
      readBody (text.takeWhile Text.isBlank) (trimBody (Text.trimStart text)) := by
  have plain : behindKeyword? (skipExport (Text.trimStart text)) = none := by
    rw [Option.eq_none_iff_forall_ne_some]
    intro rest hr
    obtain ⟨front, hf, htext⟩ := Text.exists_append_trimStart text
    obtain ⟨exported, he, hstart⟩ := exists_append_skipExport (Text.trimStart text)
    obtain ⟨keyword, c, cs, hbody, rfl, hk, hc⟩ := exists_keyword_of_behindKeyword? hr
    refine h ⟨front, exported, keyword, c, cs, ?_, hf, he, hk, hc⟩
    rw [← hbody, ← hstart]
    exact htext
  refine readChars_of_cut ?_
  simp only [cutDeclaration, plain]

theorem not_startsDeclaration {limit : Nat} {front rest : List Char} {c : Char} {s : State}
    (hf : ∀ b ∈ front, Text.isBlank b = true) (hc : startValue limit [] c = .ok s) :
    ¬ StartsDeclaration (front ++ c :: rest) := by
  rintro ⟨front', exported, keyword, d, rest', htext, hf', he, hk, -⟩
  have start : c :: rest = Text.trimStart (exported ++ (keyword ++ d :: rest')) := by
    rw [← Text.trimStart_append_of_blank hf', ← htext, Text.trimStart_append_of_blank hf,
      Text.trimStart, List.dropWhile_cons_of_neg (by simp [isBlank_of_startValue hc])]
  simp only [keywords, List.mem_cons, List.not_mem_nil, or_false] at hk
  rcases he with rfl | rfl <;> rcases hk with rfl | rfl | rfl <;>
    · injection start with first _
      subst first
      cases hc

theorem not_startsDeclaration_list (rest : List Char) : ¬ StartsDeclaration ('[' :: rest) := by
  have opening : startValue 1 [] '[' = .ok ⟨.listStart, []⟩ := rfl
  have blank : ∀ b ∈ ([] : List Char), Text.isBlank b = true := nofun
  exact not_startsDeclaration blank opening

/-! ### Trimming a body -/

/-- A text of blanks with at most one semicolon among them. -/
inductive Tail : List Char → Prop
  | blank {gap : List Char} : (∀ c ∈ gap, Text.isBlank c = true) → Tail gap
  | semicolon {gap gap' : List Char} : (∀ c ∈ gap, Text.isBlank c = true) →
      (∀ c ∈ gap', Text.isBlank c = true) → Tail (gap ++ ';' :: gap')

/-- The second text is the first one with blanks around it and perhaps a semicolon behind it. -/
inductive Framed : List Char → List Char → Prop
  | frame {front body tail : List Char} : (∀ c ∈ front, Text.isBlank c = true) → Tail tail →
      Framed body (front ++ (body ++ tail))

theorem Tail.append {gap tail : List Char} (hg : ∀ c ∈ gap, Text.isBlank c = true)
    (ht : Tail tail) : Tail (gap ++ tail) := by
  cases ht with
  | blank h => exact .blank (List.forall_mem_append.mpr ⟨hg, h⟩)
  | semicolon h h' =>
      rw [← List.append_assoc]
      exact .semicolon (List.forall_mem_append.mpr ⟨hg, h⟩) h'

/-- Trimming drops a tail, unless the text in front of it ends with a blank or a semicolon. -/
theorem trimBody_append {front tail : List Char} {c : Char} (hb : Text.isBlank c = false)
    (hc : c ≠ ';') (ht : Tail tail) : trimBody (front ++ [c] ++ tail) = front ++ [c] := by
  have kept : dropSemicolon (front ++ [c]) = front ++ [c] := by
    rw [dropSemicolon, List.getLast?_concat, if_neg (by simpa using hc)]
  cases ht with
  | blank h =>
      rw [trimBody, Text.trimEnd_append_of_blank h, Text.trimEnd_concat hb, kept,
        Text.trimEnd_concat hb]
  | @semicolon gap gap' h h' =>
      have semicolon : dropSemicolon (front ++ [c] ++ gap ++ [';']) = front ++ [c] ++ gap := by
        rw [dropSemicolon, List.getLast?_concat, if_pos rfl, List.dropLast_concat]
      have same : front ++ [c] ++ (gap ++ ';' :: gap') = front ++ [c] ++ gap ++ [';'] ++ gap' := by
        simp
      rw [trimBody, same, Text.trimEnd_append_of_blank h', Text.trimEnd_concat rfl, semicolon,
        Text.trimEnd_append_of_blank h, Text.trimEnd_concat hb]

theorem exists_trimBody_append (text : List Char) :
    ∃ tail, Tail tail ∧ text = trimBody text ++ tail := by
  obtain ⟨back, hb, htext⟩ := Text.exists_trimEnd_append text
  obtain ⟨gap, hg, hbody⟩ := Text.exists_trimEnd_append (dropSemicolon (Text.trimEnd text))
  rw [← trimBody] at hbody
  by_cases hl : (Text.trimEnd text).getLast? = some ';'
  · obtain ⟨front, hfront⟩ := List.getLast?_eq_some_iff.mp hl
    have dropped : dropSemicolon (Text.trimEnd text) = front := by
      rw [dropSemicolon, if_pos hl, hfront, List.dropLast_concat]
    refine ⟨gap ++ ';' :: back, .semicolon hg hb, ?_⟩
    rw [← List.append_assoc, ← hbody, dropped]
    calc text = front ++ [';'] ++ back := by rw [← hfront, ← htext]
      _ = front ++ ';' :: back := by simp
  · have dropped : dropSemicolon (Text.trimEnd text) = Text.trimEnd text := if_neg hl
    refine ⟨gap ++ back, .append hg (.blank hb), ?_⟩
    rw [← List.append_assoc, ← hbody, dropped, ← htext]

theorem dropSemicolon_append {back : List Char} (h : back ≠ []) (front : List Char) :
    dropSemicolon (front ++ back) = front ++ dropSemicolon back := by
  rw [dropSemicolon, dropSemicolon, List.getLast?_append_of_ne_nil _ h]
  split
  · rw [List.dropLast_append_of_ne_nil h]
  · rfl

/-- What is in front of a text that is not trimmed away is not trimmed at its end. -/
theorem trimBody_append_of_ne_nil {back : List Char} (h : trimBody back ≠ [])
    (front : List Char) : trimBody (front ++ back) = front ++ trimBody back := by
  have ends : Text.trimEnd back ≠ [] := by
    intro none
    rw [trimBody, none] at h
    exact h rfl
  rw [trimBody, Text.trimEnd_append ends, dropSemicolon_append ends, Text.trimEnd_append h,
    trimBody]

theorem trimBody_append_of_eq_nil {gap back : List Char}
    (hg : ∀ c ∈ gap, Text.isBlank c = true) (h : trimBody back = []) :
    trimBody (gap ++ back) = [] := by
  have blank : Text.trimEnd gap = [] := Text.trimEnd_eq_nil_iff.mpr hg
  by_cases ends : Text.trimEnd back = []
  · rw [trimBody, Text.trimEnd_append_of_blank (Text.trimEnd_eq_nil_iff.mp ends), blank]
    rfl
  · rw [trimBody, Text.trimEnd_append ends, dropSemicolon_append ends,
      Text.trimEnd_append_of_blank (Text.trimEnd_eq_nil_iff.mp h), blank]

theorem trimBody_append_cons {c : Char} (hb : Text.isBlank c = false) (hc : c ≠ ';')
    (front back : List Char) :
    trimBody (front ++ c :: back) = front ++ c :: trimBody back := by
  have semicolon (text : List Char) :
      dropSemicolon (front ++ c :: text) = front ++ c :: dropSemicolon text := by
    cases text with
    | nil =>
        rw [dropSemicolon, List.getLast?_concat, if_neg (by simpa using hc)]
        rfl
    | cons d ds =>
        have parts : front ++ c :: d :: ds = front ++ [c] ++ d :: ds := by simp
        rw [parts, dropSemicolon_append (List.cons_ne_nil d ds)]
        simp
  rw [trimBody, Text.trimEnd_append_cons hb, semicolon, Text.trimEnd_append_cons hb, trimBody]

/-- Without a declaration, what is read of a text is the text without its frame. -/
theorem exists_readChars_framed {text : List Char} (h : ¬ StartsDeclaration text) :
    ∃ skipped body, Framed body text ∧ readChars text = readBody skipped body := by
  obtain ⟨front, hf, htext⟩ := Text.exists_append_trimStart text
  obtain ⟨tail, ht, hbody⟩ := exists_trimBody_append (Text.trimStart text)
  refine ⟨_, trimBody (Text.trimStart text), ?_, readChars_eq h⟩
  have framed : Framed (trimBody (Text.trimStart text))
      (front ++ (trimBody (Text.trimStart text) ++ tail)) := .frame hf ht
  rw [← hbody, ← htext] at framed
  exact framed

theorem readChars_unreadable {front back : List Char} {c : Char}
    (h : ¬ StartsDeclaration (front ++ c :: back)) (hb : Text.isBlank c = false) (hc : c ≠ ';')
    (hp : ∀ v, parse (dropTrailingCommas (Text.trimStart front ++ c :: trimBody back)) ≠ .ok v) :
    ∃ position reason, readChars (front ++ c :: back) = .error (.unreadable position reason) := by
  have hr := readChars_eq h
  rw [Text.trimStart_append_cons hb, trimBody_append_cons hb hc] at hr
  obtain ⟨position, reason, he⟩ :=
    readBody_unreadable (List.mem_append_right _ (List.mem_cons_self ..)) hb hp _
  exact ⟨position, reason, hr.trans he⟩

end TypeCatalog.Snapshot
