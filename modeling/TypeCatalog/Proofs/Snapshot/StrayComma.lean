import TypeCatalog.Proofs.Snapshot.Tolerance

/-! # Commas that separate nothing

Without a declaration a text is read exactly if, but for what stands around it, it is a JSON text
with a comma before some of the closing brackets (`readChars_eq_ok_iff`).  That comma may be all
there is between two brackets.  Any other comma without an entry in front of it is refused: the
scan drops at most one of two commas in a row, and it drops one behind an opening bracket only if a
closing bracket follows (`parseWithin_ne_ok_of_two`, `parseWithin_ne_ok_of_leading`). -/

namespace TypeCatalog.Snapshot

open Json Json.Reader

variable {limit : Nat}

/-! ### What is read -/

/-- Without a declaration a text is read exactly if it is a JSON text with commas put in before
closing brackets, with blanks around it and perhaps a semicolon behind it. -/
theorem readChars_eq_ok_iff {text : List Char} {v : Json} (h : ¬ StartsDeclaration text) :
    readChars text = .ok v ↔
      ∃ body strict, Framed body text ∧ WithFinalCommas strict body ∧ parse strict = .ok v := by
  constructor
  · intro hr
    obtain ⟨skipped, body, framed, he⟩ := exists_readChars_framed h
    rw [he] at hr
    simp only [readBody] at hr
    split at hr
    · cases hr
    split at hr
    · rename_i w hw
      cases hr
      exact ⟨body, _, framed, loosened_of_parseWithin (.inl trivial) hw, hw⟩
    · cases hr
  · rintro ⟨body, strict, framed, loosened, parsed⟩
    exact readChars_of_loosened loosened parsed framed

/-! ### The reader at brackets and commas -/

theorem opened_of_step {s s' : Reader.State} {k : Container} (ho : Outside s.mode)
    (hs : Reader.step limit s k.opening = .ok s') :
    ∃ stack, spot? s' = some (.opened k stack) := by
  have value (stack : List Frame) (h : startValue limit stack k.opening = .ok s') :
      ∃ stack, spot? s' = some (.opened k stack) := by
    cases k with
    | list | object =>
        simp only [Container.opening, startValue] at h
        split at h <;> cases h
        exact ⟨_, rfl⟩
  have behind : ¬ Follows k.opening := by
    cases k <;> decide
  obtain ⟨mode, stack⟩ := s
  cases mode with
  | key | string => exact ho.elim
  | value => cases k <;> exact value stack hs
  | listStart => cases k <;> exact value (.list [] :: stack) hs
  | listItem done => cases k <;> exact value (.list done :: stack) hs
  | objectStart | objectKey | colon => cases k <;> cases hs
  | word =>
      have letter : k.opening.isAlpha = false := by
        cases k <;> rfl
      rw [(step_word ho hs).1] at letter
      cases letter
  | after => exact absurd (follows_of_stepAfter hs) behind
  | numeral n =>
      have digit : Numeral.digit? k.opening = none := by
        cases k <;> rfl
      have mark : k.opening ∉ Numeral.marks := by
        cases k <;> decide
      obtain ⟨place, stack', ha⟩ := exists_stepAfter_of_numeral digit mark hs
      exact absurd (follows_of_stepAfter ha) behind

theorem step_comma_of_opened {s s' : Reader.State} {k : Container} {stack : List Frame}
    (h : spot? s = some (.opened k stack)) : Reader.step limit s ',' ≠ .ok s' := by
  obtain ⟨mode, stack'⟩ := s
  cases mode with
  | listStart | objectStart => exact nofun
  | after place => cases place <;> cases h
  | _ => cases h

theorem not_passes_of_behindComma {s u : Reader.State} {gap rest : List Char}
    (hs : BehindComma s.mode) (hg : ∀ c ∈ gap, Text.isBlank c = true) :
    ¬ Passes limit s (gap ++ ',' :: rest) u := by
  intro hp
  induction gap with
  | nil =>
      obtain ⟨mode, stack⟩ := s
      cases hp with
      | cons hstep _ =>
          cases mode with
          | listItem | objectKey => cases hstep
          | _ => exact hs.elim
  | cons c cs ih =>
      rw [List.forall_mem_cons] at hg
      cases hp with
      | cons hstep hr =>
          cases eq_of_step_blank hs hg.1 hstep
          exact ih hg.2 hr

/-! ### What is refused -/

theorem exists_passes_of_outside {front back : List Char} {v : Json} (hf : OutsideStrings front)
    (h : parseWithin limit (dropTrailingCommas (front ++ back)) = .ok v) :
    ∃ s u, Outside s.mode ∧ Passes limit s (dropTrailingCommasFrom .outside back) u := by
  obtain ⟨u, hp, hv⟩ := parseWithin_eq_ok_iff.mp h
  obtain ⟨left, hl, hb⟩ := exists_dropTrailingCommasFrom .outside front back
  rw [hf] at hl hb
  rw [dropTrailingCommas, hl] at hp
  obtain ⟨s, hleft, hr⟩ := hp.exists_of_append
  have start : Outside State.start.mode := trivial
  exact ⟨s, u, OutsideStrings.mode_outside hb start hleft hr hv, hr⟩

theorem dropTrailingCommasFrom_comma_cases (back : List Char) :
    dropTrailingCommasFrom .outside (',' :: back) = ',' :: dropTrailingCommasFrom .outside back ∨
      ∃ gap c rest, back = gap ++ c :: rest ∧ (∀ b ∈ gap, Text.isBlank b = true) ∧
        (c = '}' ∨ c = ']') ∧ dropTrailingCommasFrom .outside (',' :: back) =
          gap ++ c :: dropTrailingCommasFrom .outside rest := by
  cases hc : isTrailingComma .outside ',' back with
  | false => exact .inl (dropTrailingCommasFrom_cons hc)
  | true =>
      obtain ⟨gap, c, rest, rfl, hg, hd⟩ := closesNext_iff.mp (isTrailingComma_iff.mp hc).2.2
      exact .inr ⟨gap, c, rest, rfl, hg, hd, dropTrailingCommasFrom_comma hg hd⟩

/-- **Two commas in a row are not read.** -/
theorem parseWithin_ne_ok_of_two {front gap back : List Char} {v : Json}
    (hf : OutsideStrings front) (hg : ∀ c ∈ gap, Text.isBlank c = true) :
    parseWithin limit (dropTrailingCommas (front ++ ',' :: (gap ++ ',' :: back))) ≠ .ok v := by
  intro h
  obtain ⟨s, u, ho, hp⟩ := exists_passes_of_outside hf h
  have kept : isTrailingComma .outside ',' (gap ++ ',' :: back) = false := by
    rw [isTrailingComma, closesNext_append_of_blank hg, closesNext_cons rfl]
    rfl
  rw [dropTrailingCommasFrom_cons kept, Scan.next_outside (by decide),
    cleans_of_isBlank hg (',' :: back)] at hp
  cases hp with
  | cons hs hr =>
      have behind := step_comma ho hs
      rcases dropTrailingCommasFrom_comma_cases back with e | ⟨gap', c, rest, -, hg', hc, e⟩
      · rw [e] at hr
        exact not_passes_of_behindComma behind hg hr
      · -- the second comma is dropped, and then the closing bracket stands behind the first one
        rw [e, ← List.append_assoc] at hr
        have blank : ∀ b ∈ gap ++ gap', Text.isBlank b = true :=
          List.forall_mem_append.mpr ⟨hg, hg'⟩
        exact not_passes_of_closesNext behind (closesNext_iff.mpr ⟨_, c, _, rfl, blank, hc⟩) hr

/-- **A comma behind an opening bracket is not read**, unless the closing bracket follows. -/
theorem parseWithin_ne_ok_of_leading {k : Container} {front gap back : List Char} {v : Json}
    (hf : OutsideStrings front) (hg : ∀ c ∈ gap, Text.isBlank c = true)
    (hb : ∀ gap' rest, (∀ c ∈ gap', Text.isBlank c = true) → back ≠ gap' ++ k.closing :: rest) :
    parseWithin limit (dropTrailingCommas (front ++ k.opening :: (gap ++ ',' :: back))) ≠
      .ok v := by
  intro h
  obtain ⟨s, u, ho, hp⟩ := exists_passes_of_outside hf h
  rw [dropTrailingCommasFrom_cons (isTrailingComma_of_ne k.opening_ne.2 _),
    Scan.next_outside k.opening_ne.1, cleans_of_isBlank hg (',' :: back)] at hp
  cases hp with
  | @cons _ s' _ _ _ hs hr =>
      obtain ⟨stack, hspot⟩ := opened_of_step ho hs
      have outside : Outside s'.mode := ho.step k.opening_ne.1 hs
      have skips : SkipsBlanks s'.mode := skipsBlanks_of_spot? hspot
      replace hr := (passes_blanks_append_iff skips (forall_isBlank_of_passes outside hg hr)).mp hr
      rcases dropTrailingCommasFrom_comma_cases back with e | ⟨gap', c, rest, rfl, hg', hc, e⟩
      · rw [e] at hr
        cases hr with
        | cons hcomma _ => exact step_comma_of_opened hspot hcomma
      · -- the comma is dropped, but the container cannot be closed by this bracket
        rw [e] at hr
        replace hr :=
          (passes_blanks_append_iff skips (forall_isBlank_of_passes outside hg' hr)).mp hr
        cases hr with
        | cons hclose _ =>
            obtain ⟨k', -, stack', rfl, -, place⟩ := closed_of_step skips hc hclose
            rcases place with place | place <;> rw [hspot] at place <;> cases place
            exact hb gap' rest hg' rfl

/-- Outside strings the text has a comma without an entry in front of it: it follows another comma,
or it follows an opening bracket and the closing one does not follow. -/
inductive StrayComma : List Char → Prop
  | two {front gap back : List Char} : OutsideStrings front →
      (∀ c ∈ gap, Text.isBlank c = true) → StrayComma (front ++ ',' :: (gap ++ ',' :: back))
  | leading {k : Container} {front gap back : List Char} : OutsideStrings front →
      (∀ c ∈ gap, Text.isBlank c = true) →
      (∀ gap' rest, (∀ c ∈ gap', Text.isBlank c = true) → back ≠ gap' ++ k.closing :: rest) →
      StrayComma (front ++ k.opening :: (gap ++ ',' :: back))

theorem readChars_of_strayComma {text : List Char} (h : ¬ StartsDeclaration text)
    (hc : StrayComma text) :
    ∃ position reason, readChars text = .error (.unreadable position reason) := by
  cases hc with
  | two hf hg =>
      refine readChars_unreadable h rfl (by decide) fun v => ?_
      rw [trimBody_append_cons rfl (by decide)]
      exact parseWithin_ne_ok_of_two hf.trimStart hg
  | @leading k front gap back hf hg hb =>
      have bracket : Text.isBlank k.opening = false ∧ k.opening ≠ ';' := by
        cases k <;> decide
      refine readChars_unreadable h bracket.1 bracket.2 fun v => ?_
      rw [trimBody_append_cons rfl (by decide)]
      refine parseWithin_ne_ok_of_leading hf.trimStart hg fun gap' rest hg' same => ?_
      obtain ⟨tail, -, hback⟩ := exists_trimBody_append back
      refine hb gap' (rest ++ tail) hg' ?_
      rw [hback, same, List.append_assoc, List.cons_append]

/-- **Nothing is read but JSON with commas before closing brackets**: a text without a declaration
has a value iff it is such a text for this value, and a comma without an entry in front of it is
refused, unless it stands alone in its container. -/
theorem read_only_finalCommas (text : String) (h : ¬ StartsDeclaration text.toList) :
    (∀ v, read text = .ok v ↔ ∃ body strict, Framed body text.toList ∧
      WithFinalCommas strict body ∧ parse strict = .ok v) ∧
    (StrayComma text.toList →
      ∃ position reason, read text = .error (.unreadable position reason)) :=
  ⟨fun _ => readChars_eq_ok_iff h, fun hc => readChars_of_strayComma h hc⟩

/-- A comma behind an element is dropped, but not one of two. -/
theorem read_only_finalCommas_of_lists :
    ¬ StartsDeclaration "[1,] ;".toList ∧ read "[1,] ;" = .ok (.arr [.int 1]) ∧
      (∃ body strict, Framed body "[1,] ;".toList ∧ WithFinalCommas strict body ∧
        parse strict = .ok (.arr [.int 1])) ∧
      ¬ StartsDeclaration "[1, ,]".toList ∧ StrayComma "[1, ,]".toList ∧
      ∃ position reason, read "[1, ,]" = .error (.unreadable position reason) := by
  have final : ¬ StartsDeclaration "[1,] ;".toList := not_startsDeclaration_list _
  have value : read "[1,] ;" = .ok (.arr [.int 1]) := rfl
  have double : ¬ StartsDeclaration "[1, ,]".toList := not_startsDeclaration_list _
  have outside : OutsideStrings ['[', '1'] := rfl
  have stray : StrayComma "[1, ,]".toList := .two outside (List.forall_mem_singleton.mpr rfl)
  exact ⟨final, value, ((read_only_finalCommas "[1,] ;" final).1 _).mp value, double, stray,
    (read_only_finalCommas "[1, ,]" double).2 stray⟩

/-- A comma that stands alone in its list is dropped. -/
theorem read_bareComma :
    ¬ StartsDeclaration "[,]".toList ∧ "[,]".toList = Container.list.opening :: ',' :: [']'] ∧
      read "[,]" = .ok (.arr []) :=
  ⟨not_startsDeclaration_list _, rfl, rfl⟩

end TypeCatalog.Snapshot
