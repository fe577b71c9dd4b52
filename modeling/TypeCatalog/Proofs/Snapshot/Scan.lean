import TypeCatalog.Proofs.Json.Token
import TypeCatalog.Proofs.Snapshot.TrailingComma

/-! # Scanning a text in parts

`Scan.behind` is where the scan stands behind a part of a text; a comma that is dropped does not
change it, so it is the same behind what is left of the part (`exists_dropTrailingCommasFrom`).
Whether a comma is dropped depends on what follows it.  `Cleans` says of a part of a text what is
left of it in front of anything; such parts can be joined (`Cleans.append`). -/

namespace TypeCatalog.Snapshot

open Json Json.Reader

variable {limit : Nat}

/-! ### Where the scan stands -/

/-- Where the scan stands behind a text. -/
def Scan.behind (scan : Scan) (text : List Char) : Scan := text.foldl Scan.next scan

/-- Behind the text the scan is not inside a string literal. -/
def OutsideStrings (text : List Char) : Prop := Scan.behind .outside text = .outside

@[simp] theorem Scan.behind_nil (scan : Scan) : scan.behind [] = scan := rfl

@[simp] theorem Scan.behind_cons (scan : Scan) (c : Char) (cs : List Char) :
    scan.behind (c :: cs) = (scan.next c).behind cs := rfl

@[simp] theorem Scan.behind_append (scan : Scan) (front back : List Char) :
    scan.behind (front ++ back) = (scan.behind front).behind back := List.foldl_append

theorem Scan.next_outside {c : Char} (h : c ≠ '"') : Scan.next .outside c = .outside := if_neg h

theorem outsideStrings_of_forall_ne {text : List Char} (h : ∀ c ∈ text, c ≠ '"') :
    OutsideStrings text := by
  induction text with
  | nil => rfl
  | cons c cs ih =>
      rw [List.forall_mem_cons] at h
      rw [OutsideStrings, Scan.behind_cons, Scan.next_outside h.1]
      exact ih h.2

theorem ne_of_isBlank {c : Char} (h : Text.isBlank c = true) : c ≠ '"' ∧ c ≠ ',' := by
  constructor <;> rintro rfl <;> cases h

theorem outsideStrings_of_isBlank {gap : List Char} (h : ∀ c ∈ gap, Text.isBlank c = true) :
    OutsideStrings gap :=
  outsideStrings_of_forall_ne fun c hc => (ne_of_isBlank (h c hc)).1

theorem OutsideStrings.append {front back : List Char} (h₁ : OutsideStrings front)
    (h₂ : OutsideStrings back) : OutsideStrings (front ++ back) := by
  rw [OutsideStrings, Scan.behind_append, h₁, h₂]

theorem OutsideStrings.trimStart {text : List Char} (h : OutsideStrings text) :
    OutsideStrings (Text.trimStart text) := by
  obtain ⟨gap, hg, htext⟩ := Text.exists_append_trimStart text
  rwa [OutsideStrings, htext, Scan.behind_append, outsideStrings_of_isBlank hg] at h

theorem Agrees.behind {scan : Scan} {s t : Reader.State} {text : List Char} (h : Agrees scan s)
    (hp : Passes limit s text t) : Agrees (scan.behind text) t := by
  induction hp generalizing scan with
  | nil => exact h
  | cons hs _ ih => exact ih (h.step hs)

/-- If the text is read to its end, then the reader is outside strings where the scan is. -/
theorem Agrees.mode_outside {s t : Reader.State} {text : List Char} {v : Json}
    (h : Agrees .outside s) (hp : Passes limit s text t) (hf : finish t = .ok v) :
    Outside s.mode := by
  cases h with
  | outside ho => exact ho
  | inString hl => exact absurd hl (StringLiteral.scan?_ne_outside _)
  | stuck hl => exact absurd hf (finish_ne_ok_of_stuck hl hp v)

theorem OutsideStrings.mode_outside {s t u : Reader.State} {part rest : List Char} {v : Json}
    (h : OutsideStrings part) (ho : Outside s.mode) (hp : Passes limit s part t)
    (hr : Passes limit t rest u) (hf : finish u = .ok v) : Outside t.mode := by
  have agrees : Agrees (Scan.behind .outside part) t := (Agrees.outside ho).behind hp
  rw [h] at agrees
  exact agrees.mode_outside hr hf

/-! ### Closing brackets -/

theorem closesNext_append_of_blank {gap : List Char} (h : ∀ c ∈ gap, Text.isBlank c = true)
    (text : List Char) : closesNext (gap ++ text) = closesNext text := by
  rw [closesNext, Text.trimStart_append_of_blank h, closesNext]

theorem closesNext_cons {c : Char} (h : Text.isBlank c = false) (text : List Char) :
    closesNext (c :: text) = (c == '}' || c == ']') := by
  have hb : ¬ Text.isBlank c = true := by simp [h]
  rw [closesNext, Text.trimStart, List.dropWhile_cons_of_neg hb]

theorem isBlank_of_closing {c : Char} (h : c = '}' ∨ c = ']') : Text.isBlank c = false := by
  rcases h with rfl | rfl <;> rfl

theorem closesNext_iff {text : List Char} :
    closesNext text = true ↔ ∃ gap c rest, text = gap ++ c :: rest ∧
      (∀ b ∈ gap, Text.isBlank b = true) ∧ (c = '}' ∨ c = ']') := by
  constructor
  · intro h
    have e : text = text.takeWhile Text.isBlank ++ Text.trimStart text :=
      List.takeWhile_append_dropWhile.symm
    rw [closesNext] at h
    split at h
    · rename_i c rest hc
      rw [hc] at e
      exact ⟨_, c, rest, e, fun _ => List.mem_takeWhile_imp, by simpa using h⟩
    · cases h
  · rintro ⟨gap, c, rest, rfl, hg, hc⟩
    rw [closesNext_append_of_blank hg, closesNext_cons (isBlank_of_closing hc)]
    simpa using hc

/-! ### Blanks that the reader takes -/

theorem isBlank_of_step {s s' : Reader.State} {c : Char} (ho : Outside s.mode)
    (hb : Text.isBlank c = true) (hs : Reader.step limit s c = .ok s') :
    Reader.isBlank c = true := by
  have follows (h : Follows c) : Reader.isBlank c = true := by
    refine h.resolve_right ?_
    rintro (rfl | rfl | rfl) <;> cases hb
  have value (stack : List Frame) : startValue limit stack c ≠ .ok s' := by
    intro h
    rw [isBlank_of_startValue h] at hb
    cases hb
  by_contra hc
  obtain ⟨mode, stack⟩ := s
  cases mode with
  | key | string => exact ho
  | value =>
      simp only [Reader.step, if_neg hc] at hs
      exact value _ hs
  | listStart | listItem =>
      simp only [Reader.step, if_neg hc] at hs
      split at hs
      · subst c
        cases hb
      · exact value _ hs
  | objectStart | objectKey =>
      simp only [Reader.step, if_neg hc] at hs
      split at hs
      · subst c
        cases hb
      · split at hs
        · subst c
          cases hb
        · cases hs
  | colon =>
      simp only [Reader.step, if_neg hc] at hs
      split at hs
      · subst c
        cases hb
      · cases hs
  | word =>
      rw [Text.isBlank_of_isAlpha (step_word ho hs).1] at hb
      cases hb
  | after => exact hc (follows (follows_of_stepAfter hs))
  | numeral n =>
      rcases step_numeral_cases hs with ⟨n', hn, -⟩ | ⟨place, stack', ha⟩
      · refine Numeral.step_ne_some ?_ (fun hm => ?_) hn
        · by_contra hd
          rw [Text.isBlank_of_isDigit (Numeral.isDigit_of_digit? hd)] at hb
          cases hb
        · rw [(foreign_of_isDigit_or_mem_marks (.inr hm)).1] at hb
          cases hb
      · exact hc (follows (follows_of_stepAfter ha))

theorem forall_isBlank_of_passes {s u : Reader.State} {gap rest : List Char}
    (ho : Outside s.mode) (hg : ∀ c ∈ gap, Text.isBlank c = true)
    (hp : Passes limit s (gap ++ rest) u) : ∀ c ∈ gap, Reader.isBlank c = true := by
  induction gap generalizing s with
  | nil => exact nofun
  | cons c cs ih =>
      rw [List.forall_mem_cons] at hg ⊢
      cases hp with
      | cons hs hr =>
          have quote : c ≠ '"' := by
            rintro rfl
            cases hg.1
          exact ⟨isBlank_of_step ho hg.1 hs, ih (ho.step quote hs) hg.2 hr⟩

/-! ### What is dropped -/

theorem dropTrailingCommasFrom_cons {scan : Scan} {c : Char} {cs : List Char}
    (h : isTrailingComma scan c cs = false) :
    dropTrailingCommasFrom scan (c :: cs) = c :: dropTrailingCommasFrom (scan.next c) cs := by
  simp [dropTrailingCommasFrom, h]

theorem isTrailingComma_of_ne {scan : Scan} {c : Char} (h : c ≠ ',') (cs : List Char) :
    isTrailingComma scan c cs = false := by
  simp [isTrailingComma, h]

theorem isTrailingComma_of_inside {scan : Scan} (h : scan ≠ .outside) (c : Char)
    (cs : List Char) : isTrailingComma scan c cs = false := by
  simp [isTrailingComma, h]

theorem isTrailingComma_iff {scan : Scan} {c : Char} {cs : List Char} :
    isTrailingComma scan c cs = true ↔ scan = .outside ∧ c = ',' ∧ closesNext cs = true := by
  simp [isTrailingComma, and_assoc]

/-- What is left of the front of a text takes the scan to where the front does. -/
theorem exists_dropTrailingCommasFrom (scan : Scan) (front back : List Char) :
    ∃ left, dropTrailingCommasFrom scan (front ++ back) =
      left ++ dropTrailingCommasFrom (scan.behind front) back ∧
      scan.behind left = scan.behind front := by
  induction front generalizing scan with
  | nil => exact ⟨[], rfl, rfl⟩
  | cons c cs ih =>
      cases hc : isTrailingComma scan c (cs ++ back) with
      | true =>
          obtain ⟨left, hl, hb⟩ := ih scan
          obtain ⟨rfl, rfl, -⟩ := isTrailingComma_iff.mp hc
          refine ⟨left, ?_, hb⟩
          rw [List.cons_append, dropTrailingCommasFrom, hc, if_pos rfl, hl]
          rfl
      | false =>
          obtain ⟨left, hl, hb⟩ := ih (scan.next c)
          refine ⟨c :: left, ?_, hb⟩
          rw [List.cons_append, dropTrailingCommasFrom_cons hc, hl]
          rfl

theorem dropTrailingCommasFrom_of_not_mem {front : List Char} (h : ',' ∉ front) (scan : Scan)
    (back : List Char) : dropTrailingCommasFrom scan (front ++ back) =
      front ++ dropTrailingCommasFrom (scan.behind front) back := by
  induction front generalizing scan with
  | nil => rfl
  | cons c cs ih =>
      rw [List.mem_cons, not_or] at h
      rw [List.cons_append, dropTrailingCommasFrom_cons (isTrailingComma_of_ne (Ne.symm h.1) _),
        ih h.2]
      rfl

theorem exists_dropTrailingCommas_eq {middle : List Char} (h : ',' ∉ middle)
    (front back : List Char) : ∃ left right,
      dropTrailingCommas (front ++ (middle ++ back)) = left ++ (middle ++ right) := by
  obtain ⟨left, hl, -⟩ := exists_dropTrailingCommasFrom .outside front (middle ++ back)
  exact ⟨left, _, by rw [dropTrailingCommas, hl, dropTrailingCommasFrom_of_not_mem h]⟩

theorem length_dropTrailingCommasFrom_le (scan : Scan) (text : List Char) :
    (dropTrailingCommasFrom scan text).length ≤ text.length := by
  induction text generalizing scan with
  | nil => exact Nat.le_refl 0
  | cons c cs ih =>
      rw [dropTrailingCommasFrom]
      split
      · exact Nat.le_succ_of_le (ih scan)
      · exact Nat.succ_le_succ (ih _)

/-! ### Parts that are cleaned on their own -/

/-- From outside strings this is left of a part of a text, whatever follows the part. -/
def Cleans (part left : List Char) : Prop :=
  ∀ rest, dropTrailingCommasFrom .outside (part ++ rest) =
    left ++ dropTrailingCommasFrom .outside rest

theorem Cleans.append {a a' b b' : List Char} (h₁ : Cleans a a') (h₂ : Cleans b b') :
    Cleans (a ++ b) (a' ++ b') := by
  intro rest
  rw [List.append_assoc, h₁, h₂, List.append_assoc]

theorem cleans_of_forall_ne {part : List Char} (h : ∀ c ∈ part, c ≠ '"' ∧ c ≠ ',') :
    Cleans part part := by
  have outside : OutsideStrings part := outsideStrings_of_forall_ne fun c hc => (h c hc).1
  have kept : ',' ∉ part := fun hc => (h ',' hc).2 rfl
  intro rest
  rw [dropTrailingCommasFrom_of_not_mem kept, outside]

theorem cleans_of_isBlank {gap : List Char} (h : ∀ c ∈ gap, Text.isBlank c = true) :
    Cleans gap gap :=
  cleans_of_forall_ne fun c hc => ne_of_isBlank (h c hc)

theorem Cleans.comma {part left : List Char} (h : Cleans part left)
    (hn : ∀ rest, closesNext (part ++ rest) = false) : Cleans (',' :: part) (',' :: left) := by
  intro rest
  have kept : isTrailingComma .outside ',' (part ++ rest) = false := by
    rw [isTrailingComma, hn, Bool.and_false]
  rw [List.cons_append, dropTrailingCommasFrom_cons kept, Scan.next_outside (by decide), h]
  rfl

theorem Cleans.trailing {part left : List Char} (h : Cleans part left)
    (hc : ∀ rest, closesNext (part ++ rest) = true) : Cleans (',' :: part) left := by
  intro rest
  rw [List.cons_append, dropTrailingCommasFrom,
    if_pos (isTrailingComma_iff.mpr ⟨rfl, rfl, hc rest⟩), h]

theorem dropTrailingCommasFrom_comma {gap rest : List Char} {c : Char}
    (hg : ∀ b ∈ gap, Text.isBlank b = true) (hc : c = '}' ∨ c = ']') :
    dropTrailingCommasFrom .outside (',' :: (gap ++ c :: rest)) =
      gap ++ c :: dropTrailingCommasFrom .outside rest := by
  have bracket : c ≠ '"' ∧ c ≠ ',' := by
    rcases hc with rfl | rfl <;> decide
  have part : Cleans (gap ++ [c]) (gap ++ [c]) :=
    (cleans_of_isBlank hg).append (cleans_of_forall_ne (List.forall_mem_singleton.mpr bracket))
  have closes (rest : List Char) : closesNext (gap ++ [c] ++ rest) = true :=
    closesNext_iff.mpr ⟨gap, c, rest, by simp, hg, hc⟩
  simpa using part.trailing closes rest

/-- What is left of a comma, blanks and a closing bracket is shorter than they are. -/
theorem dropTrailingCommasFrom_ne {gap rest : List Char} {c : Char} :
    gap ++ c :: dropTrailingCommasFrom .outside rest ≠ ',' :: (gap ++ c :: rest) := by
  intro same
  have shorter := length_dropTrailingCommasFrom_le .outside rest
  have longer := congrArg List.length same
  simp only [List.length_append, List.length_cons] at longer
  omega

/-! ### Strings -/

/-- The scan follows the text of a string, or the text cannot become a string any more. -/
theorem scan?_of_spelled {l : StringLiteral} {text : List Char} (h : l.Spelled text) :
    l.scan? = none ∨ l.scan? = some (Scan.behind .inside text) := by
  induction h with
  | start => exact .inr rfl
  | next _ hs ih =>
      rw [Scan.behind_append]
      rcases ih with hl | hl
      · obtain ⟨_, ⟨⟩, hl'⟩ := StringLiteral.stuck_of_scan?_none hl hs
        exact .inl hl'
      · exact StringLiteral.scan?_of_more hl hs

theorem dropTrailingCommasFrom_of_spelled {l : StringLiteral} {text : List Char}
    (h : l.Spelled text) (hl : l.scan? ≠ none) (rest : List Char) :
    dropTrailingCommasFrom .inside (text ++ rest) =
      text ++ dropTrailingCommasFrom (Scan.behind .inside text) rest := by
  induction h generalizing rest with
  | start => rfl
  | @next l l' text c hs hstep ih =>
      have before : l.scan? ≠ none := by
        intro hn
        obtain ⟨_, ⟨⟩, hl'⟩ := StringLiteral.stuck_of_scan?_none hn hstep
        exact hl hl'
      have inside : Scan.behind .inside text ≠ .outside := by
        intro ho
        have scan := (scan?_of_spelled hs).resolve_left before
        exact StringLiteral.scan?_ne_outside l (ho ▸ scan)
      rw [List.append_assoc, ih before, List.singleton_append,
        dropTrailingCommasFrom_cons (isTrailingComma_of_inside inside _ _), List.append_assoc]
      simp

theorem cleans_of_isQuoted {text : List Char} (h : IsQuoted text) :
    Cleans text text ∧ OutsideStrings text := by
  cases h with
  | @quoted l text c s hs hc =>
      have open_ : l.scan? ≠ none := by
        intro hn
        obtain ⟨_, ⟨⟩, -⟩ := StringLiteral.stuck_of_scan?_none hn hc
      have scan := (scan?_of_spelled hs).resolve_left open_
      have closed : (Scan.behind .inside text).next c = .outside :=
        StringLiteral.next_of_closed scan hc
      have inside : Scan.behind .inside text ≠ .outside := fun ho =>
        StringLiteral.scan?_ne_outside l (ho ▸ scan)
      refine ⟨fun rest => ?_, ?_⟩
      · rw [List.cons_append, dropTrailingCommasFrom_cons (isTrailingComma_of_ne (by decide) _),
          List.append_assoc]
        show '"' :: dropTrailingCommasFrom .inside (text ++ ([c] ++ rest)) = _
        rw [dropTrailingCommasFrom_of_spelled hs open_, List.singleton_append,
          dropTrailingCommasFrom_cons (isTrailingComma_of_inside inside _ _), closed]
        simp
      · show Scan.behind .inside (text ++ [c]) = .outside
        rw [Scan.behind_append]
        exact closed

theorem forall_ne_of_mem_words {text : List Char} (h : text ∈ words) :
    ∀ c ∈ text, c ≠ '"' ∧ c ≠ ',' := by
  simp only [words, List.mem_cons, List.not_mem_nil, or_false] at h
  rcases h with rfl | rfl | rfl <;> simp

theorem cleans_of_isScalar {text : List Char} (h : IsScalar text) :
    Cleans text text ∧ OutsideStrings text := by
  have plain (hn : ∀ c ∈ text, c ≠ '"' ∧ c ≠ ',') : Cleans text text ∧ OutsideStrings text :=
    ⟨cleans_of_forall_ne hn, outsideStrings_of_forall_ne fun c hc => (hn c hc).1⟩
  cases h with
  | word hw => exact plain (forall_ne_of_mem_words hw)
  | number hn _ =>
      refine plain fun c hc => ?_
      obtain ⟨-, quote, comma, -⟩ :=
        foreign_of_isDigit_or_mem_marks (hn.isDigit_or_mem_marks c hc)
      exact ⟨quote, comma⟩
  | string hq => exact cleans_of_isQuoted hq

end TypeCatalog.Snapshot
