import TypeCatalog.Proofs.Json.Outside
import TypeCatalog.Proofs.Text.Blank
import TypeCatalog.Snapshot.TrailingComma

/-! # The scan for trailing commas and the reader

The scan follows string literals with three states, the reader with many; on a text that the
reader takes to its end they agree (`Agrees.step`).  Only an escape of wrong digits lets them
drift apart, and behind one the reader is stuck in its string (`StringLiteral.scan?`).  Since the
reader takes no comma in front of a closing bracket, a text that is read is left as it is
(`dropTrailingCommas_of_parseWithin`). -/

namespace TypeCatalog

namespace Json.StringLiteral

open Snapshot (Scan)

/-! ### Inside a string -/

/-- Where the scan stands when a string was read so far; nothing behind a wrong digit of an
escape, where the string cannot be read to its end. -/
def scan? (l : StringLiteral) : Option Scan :=
  match l.phase with
  | .plain | .pairSlash _ => some .inside
  | .escape | .pairLetter _ => some .escaped
  | .hex _ value _ => value.map fun _ => .inside

theorem scan?_ne_outside (l : StringLiteral) : l.scan? ≠ some .outside := by
  obtain ⟨characters, phase⟩ := l
  cases phase with
  | hex taken value high => cases value <;> exact nofun
  | plain | escape | pairSlash | pairLetter => exact nofun

theorem scan?_of_codeUnit {l l' : StringLiteral} {n : Nat} {high : Option Nat}
    (h : l.codeUnit n high = .ok l') : l'.scan? = some .inside := by
  cases high <;> simp only [codeUnit] at h <;> (repeat' split at h) <;> cases h <;> rfl

theorem next_of_hexDigit? {c : Char} {d : Nat} (h : hexDigit? c = some d) :
    Scan.next .inside c = .inside := by
  have slash : c ≠ '\\' := by
    rintro rfl
    cases h
  have quote : c ≠ '"' := by
    rintro rfl
    cases h
  rw [Scan.next, if_neg slash, if_neg quote]

theorem scan?_of_more {l l' : StringLiteral} {scan : Scan} {c : Char} (hl : l.scan? = some scan)
    (h : l.step c = .ok (.more l')) : l'.scan? = none ∨ l'.scan? = some (scan.next c) := by
  obtain ⟨characters, phase⟩ := l
  cases phase with
  | plain =>
      cases hl
      simp only [step] at h
      split at h
      · cases h
      rename_i quote
      split at h
      · rename_i slash
        cases h
        rw [slash]
        exact .inr rfl
      rename_i slash
      split at h
      · cases h
      cases h
      rw [Scan.next, if_neg slash, if_neg quote]
      exact .inr rfl
  | escape =>
      cases hl
      simp only [step] at h
      split at h
      · cases h
        exact .inr rfl
      · split at h <;> cases h
        exact .inr rfl
  | hex taken value high =>
      obtain ⟨n, rfl, rfl⟩ := Option.map_eq_some_iff.mp hl
      simp only [step, Option.bind_some] at h
      cases hd : hexDigit? c with
      | none =>
          simp only [hd, Option.map_none] at h
          split at h <;> cases h
          exact .inl rfl
      | some d =>
          simp only [hd, Option.map_some] at h
          rw [next_of_hexDigit? hd]
          split at h
          · cases h
            exact .inr rfl
          · split at h
            · rename_i hu
              cases h
              exact .inr (scan?_of_codeUnit hu)
            · cases h
  | pairSlash high =>
      cases hl
      simp only [step] at h
      split at h
      · rename_i slash
        cases h
        rw [slash]
        exact .inr rfl
      · cases h
  | pairLetter high =>
      cases hl
      simp only [step] at h
      split at h <;> cases h
      exact .inr rfl

theorem next_of_closed {l : StringLiteral} {scan : Scan} {c : Char} {s : String}
    (hl : l.scan? = some scan) (h : l.step c = .ok (.closed s)) : scan.next c = .outside := by
  obtain ⟨phase, rfl⟩ := eq_of_closed h
  rw [scan?, phase] at hl
  cases hl
  rfl

/-- Behind a wrong digit the string does not end, and stays as it is. -/
theorem stuck_of_scan?_none {l : StringLiteral} {c : Char} {o : Outcome} (hl : l.scan? = none)
    (h : l.step c = .ok o) : ∃ l', o = .more l' ∧ l'.scan? = none := by
  obtain ⟨characters, phase⟩ := l
  cases phase with
  | plain | escape | pairSlash | pairLetter => cases hl
  | hex taken value high =>
      have hv : value = none := Option.map_eq_none_iff.mp hl
      subst hv
      simp only [step, Option.bind_none] at h
      split at h <;> cases h
      exact ⟨_, rfl, rfl⟩

end Json.StringLiteral

namespace Snapshot

open Json Json.Reader

variable {limit : Nat}

/-! ### The scan and the reader -/

/-- The scan stands where the reader does, or the reader is stuck in a string. -/
inductive Agrees : Scan → Reader.State → Prop
  | outside {s : Reader.State} : Outside s.mode → Agrees .outside s
  | inString {scan : Scan} {place : StringPlace} {l : StringLiteral} {stack : List Frame} :
      l.scan? = some scan → Agrees scan ⟨place.mode l, stack⟩
  | stuck {scan : Scan} {place : StringPlace} {l : StringLiteral} {stack : List Frame} :
      l.scan? = none → Agrees scan ⟨place.mode l, stack⟩

theorem Agrees.step {scan : Scan} {s s' : Reader.State} {c : Char} (h : Agrees scan s)
    (hs : Reader.step limit s c = .ok s') : Agrees (scan.next c) s' := by
  cases h with
  | outside ho =>
      by_cases hc : c = '"'
      · subst hc
        obtain ⟨place, stack, rfl⟩ := step_quote ho hs
        exact .inString rfl
      · rw [Scan.next, if_neg hc]
        exact .outside (ho.step hc hs)
  | inString hl =>
      rcases step_string_cases hs with ⟨l', hm, rfl⟩ | ⟨text, hm, ho⟩
      · rcases StringLiteral.scan?_of_more hl hm with hl' | hl'
        · exact .stuck hl'
        · exact .inString hl'
      · rw [StringLiteral.next_of_closed hl hm]
        exact .outside ho
  | stuck hl =>
      rcases step_string_cases hs with ⟨l', hm, rfl⟩ | ⟨text, hm, -⟩
      · obtain ⟨_, ⟨⟩, hl'⟩ := StringLiteral.stuck_of_scan?_none hl hm
        exact .stuck hl'
      · obtain ⟨_, ⟨⟩, -⟩ := StringLiteral.stuck_of_scan?_none hl hm

theorem finish_ne_ok_of_stuck {place : StringPlace} {l : StringLiteral} {stack : List Frame}
    {text : List Char} {t : Reader.State} (hl : l.scan? = none)
    (h : Passes limit ⟨place.mode l, stack⟩ text t) (v : Json) : finish t ≠ .ok v := by
  induction text generalizing l with
  | nil =>
      cases h
      cases place <;> exact nofun
  | cons c cs ih =>
      cases h with
      | cons hs hr =>
          rcases step_string_cases hs with ⟨l', hm, rfl⟩ | ⟨text, hm, -⟩
          · obtain ⟨_, ⟨⟩, hl'⟩ := StringLiteral.stuck_of_scan?_none hl hm
            exact ih hl' hr
          · obtain ⟨_, ⟨⟩, -⟩ := StringLiteral.stuck_of_scan?_none hl hm

/-! ### Commas in front of closing brackets -/

theorem isBlank_of_start? {c : Char} {n : Numeral} (h : Numeral.start? c = some n) :
    Text.isBlank c = false := by
  unfold Numeral.start? at h
  split at h
  · rename_i minus
    rw [minus]
    rfl
  split at h
  · rename_i zero
    rw [zero]
    rfl
  obtain ⟨d, hd, -⟩ := Option.map_eq_some_iff.mp h
  refine Text.isBlank_of_isDigit ?_
  by_contra hc
  rw [Numeral.digit?, if_neg hc] at hd
  cases hd

theorem isBlank_of_startValue {stack : List Frame} {c : Char} {s : Reader.State}
    (h : startValue limit stack c = .ok s) : Text.isBlank c = false := by
  unfold startValue at h
  split at h
  iterate 6 rfl
  split at h
  · rename_i hn
    exact isBlank_of_start? hn
  · cases h

theorem eq_of_step_blank {s s' : Reader.State} {c : Char} (hs : BehindComma s.mode)
    (hc : Text.isBlank c = true) (h : Reader.step limit s c = .ok s') : s' = s := by
  obtain ⟨mode, stack⟩ := s
  cases mode with
  | listItem =>
      simp only [Reader.step] at h
      split at h
      · cases h
        rfl
      · split at h
        · cases h
        · rw [isBlank_of_startValue h] at hc
          cases hc
  | objectKey =>
      simp only [Reader.step] at h
      split at h
      · cases h
        rfl
      · split at h
        · subst c
          cases hc
        · split at h <;> cases h
  | _ => exact hs.elim

/-- Behind a comma the reader takes no closing bracket, whatever blanks stand between the two. -/
theorem not_passes_of_closesNext {s t : Reader.State} {text : List Char}
    (hs : BehindComma s.mode) (ht : closesNext text = true) : ¬ Passes limit s text t := by
  intro hp
  induction text with
  | nil => cases ht
  | cons c cs ih =>
      cases hp with
      | @cons _ s' _ _ _ hstep hr =>
          by_cases hc : Text.isBlank c = true
          · have same : s' = s := eq_of_step_blank hs hc hstep
            rw [closesNext, Text.trimStart, List.dropWhile_cons_of_pos hc] at ht
            exact ih ht (same ▸ hr)
          · rw [closesNext, Text.trimStart, List.dropWhile_cons_of_neg hc] at ht
            simp only [Bool.or_eq_true, beq_iff_eq] at ht
            obtain ⟨mode, stack⟩ := s
            cases mode with
            | listItem | objectKey => rcases ht with rfl | rfl <;> cases hstep
            | _ => exact hs

theorem dropTrailingCommasFrom_of_passes {scan : Scan} {s t : Reader.State} {text : List Char}
    {v : Json} (h : Agrees scan s) (hp : Passes limit s text t) (hf : finish t = .ok v) :
    dropTrailingCommasFrom scan text = text := by
  induction text generalizing scan s with
  | nil => rfl
  | cons c cs ih =>
      have hp' := hp
      cases hp with
      | cons hs hr =>
          have kept : isTrailingComma scan c cs = false := by
            rw [Bool.eq_false_iff]
            intro hc
            simp only [isTrailingComma, Bool.and_eq_true, beq_iff_eq] at hc
            obtain ⟨⟨rfl, rfl⟩, closes⟩ := hc
            -- the reader has to be outside strings too, and then it is behind a comma
            cases h with
            | outside ho => exact not_passes_of_closesNext (step_comma ho hs) closes hr
            | inString hl => exact absurd hl (StringLiteral.scan?_ne_outside _)
            | stuck hl => exact finish_ne_ok_of_stuck hl hp' v hf
          rw [dropTrailingCommasFrom, kept, ih (h.step hs) hr]
          simp

/-- **A text that is read as JSON is left as it is.** -/
theorem dropTrailingCommas_of_parseWithin {text : List Char} {v : Json}
    (h : parseWithin limit text = .ok v) : dropTrailingCommas text = text := by
  obtain ⟨t, hp, hf⟩ := parseWithin_eq_ok_iff.mp h
  exact dropTrailingCommasFrom_of_passes (s := .start) (.outside trivial) hp hf

end Snapshot
end TypeCatalog
