import TypeCatalog.Proofs.Json.Offset
import TypeCatalog.Proofs.Outcome
import TypeCatalog.Proofs.Snapshot.Framing
import TypeCatalog.Proofs.Snapshot.Loosened
import TypeCatalog.Proofs.Snapshot.Place

/-! # Texts behind declarations

A declaration in front of a text changes nothing but the places of its faults, which are counted on
from the end of the declaration (`readChars_declared`).  The two texts are not cut alike: alone, a
text is read without its leading blanks, and these count as skipped; behind a declaration they
belong to the body.  Blanks of JSON may stand on either side of the cut
(`readBody_append_of_gap`). -/

namespace TypeCatalog

/-! ### Blanks and names -/

namespace Text

theorem isAlphanumeric_of_isBlank {c : Char} (h : isBlank c = true) :
    isAlphanumeric c = false := by
  have foreign : ∀ n ∈ [0x09, 0x0A, 0x0B, 0x0C, 0x0D, 0x20, 0x85, 0xA0, 0x1680, 0x2000, 0x2001,
      0x2002, 0x2003, 0x2004, 0x2005, 0x2006, 0x2007, 0x2008, 0x2009, 0x200A, 0x2028, 0x2029,
      0x202F, 0x205F, 0x3000], inRanges n alphanumericRanges = false := by decide +kernel
  refine foreign c.toNat ?_
  simp only [isBlank, Bool.or_eq_true, Bool.and_eq_true, decide_eq_true_eq, beq_iff_eq] at h
  simp only [List.mem_cons, List.not_mem_nil, or_false]
  omega

end Text

namespace Snapshot

open Json Json.Reader

theorem isNameChar_iff {c : Char} :
    isNameChar c = true ↔ Text.isAlphanumeric c = true ∨ c = '_' ∨ c = '$' := by
  simp [isNameChar, or_assoc]

theorem isBlank_of_isNameChar {c : Char} (h : isNameChar c = true) : Text.isBlank c = false := by
  rw [Bool.eq_false_iff]
  intro blank
  have letter : Text.isAlphanumeric c = false := Text.isAlphanumeric_of_isBlank blank
  simp only [isNameChar, letter, Bool.false_or, Bool.or_eq_true, beq_iff_eq] at h
  rcases h with rfl | rfl <;> cases blank

theorem ne_equals_of_isNameChar {c : Char} (h : isNameChar c = true) : c ≠ '=' := by
  rintro rfl
  exact absurd h (by decide +kernel)

theorem ne_equals_of_isBlank {c : Char} (h : Text.isBlank c = true) : c ≠ '=' := by
  rintro rfl
  cases h

/-! ### Declarations in front of a text -/

/-- The text declares a variable, up to its equals sign. -/
inductive IsDeclaration : List Char → Prop
  | declare {front exported keyword gap name gap' : List Char} :
      (∀ c ∈ front, Text.isBlank c = true) →
      (exported = [] ∨ exported = ['e', 'x', 'p', 'o', 'r', 't', ' ']) → keyword ∈ keywords →
      gap ≠ [] → (∀ c ∈ gap, Text.isBlank c = true) →
      name ≠ [] → (∀ c ∈ name, Text.isAlphanumeric c = true ∨ c = '_' ∨ c = '$') →
      (∀ c ∈ gap', Text.isBlank c = true) →
      IsDeclaration (front ++ (exported ++ (keyword ++ (gap ++ (name ++ (gap' ++ ['=']))))))

theorem behindKeyword?_skipExport {exported keyword : List Char} {c : Char}
    (he : exported = [] ∨ exported = ['e', 'x', 'p', 'o', 'r', 't', ' '])
    (hk : keyword ∈ keywords) (hc : Text.isBlank c = true) (rest : List Char) :
    behindKeyword? (skipExport (Text.trimStart (exported ++ (keyword ++ c :: rest)))) =
      some (c :: rest) := by
  have skipped : skipExport (Text.trimStart (exported ++ (keyword ++ c :: rest))) =
      keyword ++ c :: rest := by
    simp only [keywords, List.mem_cons, List.not_mem_nil, or_false] at hk
    rcases he with rfl | rfl <;> rcases hk with rfl | rfl | rfl <;> rfl
  rw [skipped]
  simp only [keywords, List.mem_cons, List.not_mem_nil, or_false] at hk
  rcases hk with rfl | rfl | rfl <;> simp [behindKeyword?, keywords, behind?, hc]

/-- **A declaration is cut off the text behind it.** -/
theorem cutDeclaration_append {declared : List Char} (h : IsDeclaration declared)
    (body : List Char) : cutDeclaration (declared ++ body) = .ok ⟨declared, body⟩ := by
  cases h with
  | @declare front exported keyword gap name gap' hf he hk hg hgap hn hname hlast =>
      obtain ⟨c, cs, rfl⟩ := List.exists_cons_of_ne_nil hg
      have nameChars : ∀ d ∈ name, isNameChar d = true :=
        fun d hd => isNameChar_iff.mpr (hname d hd)
      have valid : isVariableName name = true := by
        rw [isVariableName, Bool.and_eq_true, Bool.not_eq_true', List.isEmpty_eq_false_iff,
          List.all_eq_true]
        exact ⟨hn, nameChars⟩
      have trimmed : Text.trim (c :: cs ++ (name ++ gap')) = name := by
        rw [Text.trim_append_left hgap, Text.trim_append_right hlast,
          Text.trim_eq_self fun d hd => isBlank_of_isNameChar (nameChars d hd)]
      have named : '=' ∉ c :: cs ++ (name ++ gap') := by
        intro h
        rcases List.mem_append.mp h with h | h
        · exact ne_equals_of_isBlank (hgap '=' h) rfl
        rcases List.mem_append.mp h with h | h
        · exact ne_equals_of_isNameChar (nameChars '=' h) rfl
        · exact ne_equals_of_isBlank (hlast '=' h) rfl
      generalize hw : front ++ (exported ++ (keyword ++ (c :: cs ++ (name ++ (gap' ++ ['=']))))) =
        declared
      have start : behindKeyword? (skipExport (Text.trimStart (declared ++ body))) =
          some (c :: cs ++ (name ++ gap') ++ '=' :: body) := by
        have whole : declared ++ body = front ++ (exported ++ (keyword ++
            c :: (cs ++ (name ++ gap') ++ '=' :: body))) := by simp [← hw]
        rw [whole, Text.trimStart_append_of_blank hf,
          behindKeyword?_skipExport he hk (hgap c (List.mem_cons_self ..))]
        rfl
      -- the first equals sign is the one behind the name
      obtain ⟨before, behind⟩ := cut_at_equals named body
      simp only [cutDeclaration, start, before, behind, trimmed, valid, if_true]
      rw [List.length_append, Nat.add_sub_cancel, List.take_left]

/-! ### Bodies -/

/-- The error as it stands in a text with something in front. -/
def TextError.behind (skipped : List Char) : TextError → TextError
  | .empty => .empty
  | .unreadable position reason => .unreadable (placeBehind skipped position) reason

theorem readBody_append_skipped (front skipped body : List Char) :
    readBody (front ++ skipped) body = (readBody skipped body).mapError (.behind front) := by
  unfold readBody
  split
  · rfl
  · dsimp only
    cases parse (dropTrailingCommas body) with
    | ok v => rfl
    | error fault =>
        dsimp only
        rw [placeBehind_append _ _ (Text.Position.one_le_line_ofOffset _ _)]
        rfl

/-- Blanks may count as skipped or belong to the body. -/
theorem readBody_append_of_gap {gap : List Char} (hg : Gap gap) (skipped body : List Char) :
    readBody skipped (gap ++ body) = readBody (skipped ++ gap) body := by
  have cleaned : dropTrailingCommas (gap ++ body) = gap ++ dropTrailingCommas body :=
    cleans_of_isBlank hg.isBlank body
  rw [readBody, readBody, Text.trimStart_append_of_blank hg.isBlank, cleaned]
  split
  · rfl
  · dsimp only
    rw [parse, parse, parseWithin_append_of_blank hg]
    cases parseWithin depthLimit (dropTrailingCommas body) with
    | ok v => rfl
    | error fault =>
        simp only [Except.mapError, Fault.moved]
        rw [ofOffset_append, placeBehind_append _ _ (Text.Position.one_le_line_ofOffset _ _)]

theorem readChars_declared {declared body : List Char} (hd : IsDeclaration declared)
    (hb : ¬ StartsDeclaration body) (hg : Gap (body.takeWhile Text.isBlank)) :
    readChars (declared ++ body) = (readChars body).mapError (.behind declared) := by
  have parts : body.takeWhile Text.isBlank ++ Text.trimStart body = body :=
    List.takeWhile_append_dropWhile
  rw [readChars_of_cut (cutDeclaration_append hd body), readChars_eq hb,
    ← readBody_append_skipped]
  by_cases h : trimBody (Text.trimStart body) = []
  · have none : trimBody body = [] := by
      rw [← parts]
      exact trimBody_append_of_eq_nil hg.isBlank h
    rw [none, h]
    rfl
  · have some : trimBody body =
        body.takeWhile Text.isBlank ++ trimBody (Text.trimStart body) := by
      rw [← trimBody_append_of_ne_nil h, parts]
    rw [some, readBody_append_of_gap hg]

/-- **A declaration in front of a text is transparent.**  The text has the same value behind it, is
empty if it was empty, and is refused for the same reason at the place that is counted on from the
end of the declaration. -/
theorem read_behind_declaration (d b : String) (hd : IsDeclaration d.toList)
    (hb : ¬ StartsDeclaration b.toList) (hg : Gap (b.toList.takeWhile Text.isBlank)) :
    (∀ v, read (d ++ b) = .ok v ↔ read b = .ok v) ∧
      (read (d ++ b) = .error .empty ↔ read b = .error .empty) ∧
      ∀ l c reason,
        read (d ++ b) = .error (.unreadable ⟨l + Text.lineBreaks d.toList,
          if l = 1 then c + Text.byteLength (Text.lastLine d.toList) else c⟩ reason) ↔
        read b = .error (.unreadable ⟨l, c⟩ reason) := by
  have same : read (d ++ b) = (read b).mapError (.behind d.toList) := by
    rw [read, String.toList_append]
    exact readChars_declared hd hb hg
  rw [same]
  refine ⟨fun v => mapError_eq_ok_iff, ?_, fun l c reason => ?_⟩
  · rw [mapError_eq_error_iff]
    constructor
    · rintro ⟨e, he, moved⟩
      cases e with
      | empty => exact he
      | unreadable => cases moved
    · exact fun he => ⟨_, he, rfl⟩
  · rw [mapError_eq_error_iff]
    constructor
    · rintro ⟨e, he, moved⟩
      cases e with
      | empty => cases moved
      | unreadable position reason' =>
          simp only [TextError.behind, TextError.unreadable.injEq] at moved
          obtain ⟨place, rfl⟩ := moved
          have place : placeBehind d.toList position = placeBehind d.toList ⟨l, c⟩ := place
          rw [he, placeBehind_injective _ place]
    · exact fun he => ⟨_, he, rfl⟩

/-- A declaration on the second line, under a name with letters of two bytes. -/
def declaredSize : String := "\nexport let gr\u00f6\u00dfe ="

/-- An object without its colon, behind a blank. -/
def colonless : String := " \x7b\"a\" 1\x7d"

/-- The declaration takes twenty bytes of its line, and the fault moves by them. -/
theorem read_behind_declaration_of_size :
    IsDeclaration declaredSize.toList ∧ ¬ StartsDeclaration colonless.toList ∧
      Gap (colonless.toList.takeWhile Text.isBlank) ∧
      read colonless = .error (.unreadable ⟨1, 7⟩ (.json .expectedColon)) ∧
      read (declaredSize ++ colonless) =
        .error (.unreadable ⟨2, 27⟩ (.json .expectedColon)) := by
  have letters : ['g', 'r', '\u00f6', '\u00df', 'e'].all isNameChar = true := by decide +kernel
  have blank : ∀ b ∈ [' '], Text.isBlank b = true := List.forall_mem_singleton.mpr rfl
  have declared : IsDeclaration declaredSize.toList :=
    @IsDeclaration.declare ['\n'] ['e', 'x', 'p', 'o', 'r', 't', ' '] ['l', 'e', 't'] [' ']
      ['g', 'r', '\u00f6', '\u00df', 'e'] [' '] (List.forall_mem_singleton.mpr rfl) (.inr rfl)
      (by decide) (List.cons_ne_nil _ _) blank (List.cons_ne_nil _ _)
      (fun c hc => isNameChar_iff.mp (List.all_eq_true.mp letters c hc)) blank
  have plain : ¬ StartsDeclaration colonless.toList := by
    have opening : startValue 1 [] '{' = .ok ⟨.objectStart, []⟩ := rfl
    exact not_startsDeclaration blank opening
  have gap : Gap (colonless.toList.takeWhile Text.isBlank) := List.forall_mem_singleton.mpr rfl
  have refused : read colonless = .error (.unreadable ⟨1, 7⟩ (.json .expectedColon)) := rfl
  obtain ⟨-, -, moved⟩ := read_behind_declaration declaredSize colonless declared plain gap
  exact ⟨declared, plain, gap, refused, (moved 1 7 _).mpr refused⟩

end Snapshot
end TypeCatalog
