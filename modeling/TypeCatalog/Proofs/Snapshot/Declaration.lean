import TypeCatalog.Proofs.Catalog
import TypeCatalog.Proofs.Json.RoundTrip
import TypeCatalog.Proofs.Snapshot.Scan
import TypeCatalog.Snapshot.Text
import TypeCatalog.Snapshot.Write

/-! # Reading declarations back

A catalog that is written as the declaration of a variable is read back as its snapshot, provided
that the name can be declared; under any other name the text is refused
(`read_toDeclaration`).  The first equals sign of the text decides what is taken as the value.  If
the name has one of its own, then the declared sign and the opening brace with its line break
stand in what is taken as the value, and no JSON text has these in a row
(`parseWithin_assignment_ne_ok`). -/

namespace TypeCatalog.Snapshot

open Json Json.Reader

variable {limit : Nat}

/-! ### Equals signs in JSON texts -/

/-- Inside a string an equals sign stands for itself, or the string cannot end. -/
theorem plain_of_step_equals {l : StringLiteral} {o : StringLiteral.Outcome}
    (h : l.step '=' = .ok o) : ∃ l', o = .more l' ∧ (l'.phase = .plain ∨ l'.scan? = none) := by
  obtain ⟨characters, phase⟩ := l
  cases phase with
  | plain =>
      cases h
      exact ⟨_, rfl, .inl rfl⟩
  | escape | pairSlash | pairLetter => cases h
  | hex taken value high =>
      have digit : (value.bind fun n => (StringLiteral.hexDigit? '=').map (n * 16 + ·)) = none := by
        cases value <;> rfl
      simp only [StringLiteral.step, digit] at h
      split at h <;> cases h
      exact ⟨_, rfl, .inr rfl⟩

/-- The text between a declared name and the fields of a snapshot. -/
def assignment : List Char := [' ', '=', ' ', '{', '\n']

theorem not_passes_of_plain {place : StringPlace} {l : StringLiteral} {stack : List Frame}
    {back : List Char} {t : Reader.State} (hl : l.phase = .plain) :
    ¬ Passes limit ⟨place.mode l, stack⟩ (' ' :: '{' :: '\n' :: back) t := by
  obtain ⟨characters, _⟩ := l
  cases hl
  have first : StringLiteral.step ⟨characters, .plain⟩ ' ' =
      .ok (.more ⟨' ' :: characters, .plain⟩) := rfl
  have second : StringLiteral.step ⟨' ' :: characters, .plain⟩ '{' =
      .ok (.more ⟨'{' :: ' ' :: characters, .plain⟩) := rfl
  intro hp
  cases hp with
  | cons blank hp =>
      rw [step_string first] at blank
      cases blank
      cases hp with
      | cons brace hp =>
          rw [step_string second] at brace
          cases brace
          cases hp with
          | cons lineBreak _ => cases place <;> cases lineBreak

/-- **No JSON text holds an assignment.** -/
theorem parseWithin_assignment_ne_ok (front back : List Char) (v : Json) :
    parseWithin limit (front ++ (assignment ++ back)) ≠ .ok v := by
  intro h
  obtain ⟨t, hp, hf⟩ := parseWithin_eq_ok_iff.mp h
  obtain ⟨u, hu, hp⟩ := hp.exists_of_append
  have ha := (Agrees.outside (s := .start) trivial).behind hu
  generalize Scan.behind .outside front = scan at ha
  -- wherever the reader is behind `front`, it takes the equals sign inside a string only
  cases hp with
  | @cons _ u' _ _ _ blank hp =>
      replace ha := ha.step blank
      generalize scan.next ' ' = scan at ha
      cases hp with
      | cons equals hp =>
          cases ha with
          | outside ho => exact step_equals ho equals
          | inString hl =>
              rcases step_string_cases equals with ⟨l', hm, rfl⟩ | ⟨text, hm, -⟩
              · obtain ⟨_, ⟨⟩, hplain | hstuck⟩ := plain_of_step_equals hm
                · exact not_passes_of_plain hplain hp
                · exact finish_ne_ok_of_stuck hstuck hp v hf
              · obtain ⟨_, ⟨⟩, -⟩ := plain_of_step_equals hm
          | stuck hl => exact finish_ne_ok_of_stuck hl (.cons equals hp) v hf

/-! ### Cutting a declaration -/

theorem cut_at_equals {front : List Char} (h : '=' ∉ front) (back : List Char) :
    (front ++ '=' :: back).takeWhile (· != '=') = front ∧
      (front ++ '=' :: back).dropWhile (· != '=') = '=' :: back := by
  have other : ∀ c ∈ front, (c != '=') = true := by
    intro c hc
    rw [bne_iff_ne]
    rintro rfl
    exact h hc
  constructor
  · rw [List.takeWhile_append_of_pos other, List.takeWhile_cons_of_neg (by decide),
      List.append_nil]
  · rw [List.dropWhile_append_of_pos other, List.dropWhile_cons_of_neg (by decide)]

theorem cutDeclaration_const {name : List Char} (hn : '=' ∉ name) (body : List Char) :
    ∃ skipped, cutDeclaration (['c', 'o', 'n', 's', 't', ' '] ++ (name ++ '=' :: body)) =
      if isVariableName (Text.trim name) then .ok ⟨skipped, body⟩
      else .error (.badName (Text.trim name)) := by
  have named : '=' ∉ ' ' :: name := fun h => hn ((List.mem_cons.mp h).resolve_left (by decide))
  obtain ⟨front, back⟩ := cut_at_equals named body
  have keyword : behindKeyword? (skipExport (Text.trimStart
      (['c', 'o', 'n', 's', 't', ' '] ++ (name ++ '=' :: body)))) =
      some (' ' :: name ++ '=' :: body) := rfl
  have blank : Text.trim (' ' :: name) = Text.trim name := by
    rw [← List.singleton_append, Text.trim_append_left (List.forall_mem_singleton.mpr rfl)]
  simp only [cutDeclaration, keyword, front, back, blank]
  exact ⟨_, rfl⟩

/-- What a semicolon and a line break follow is left over, unless it ends with a blank. -/
theorem trimBody_concat {c : Char} (hc : Text.isBlank c = false) (text : List Char) :
    trimBody (text ++ [c] ++ [';', '\n']) = text ++ [c] := by
  have lineBreak : Text.trimEnd (text ++ [c] ++ [';'] ++ ['\n']) = text ++ [c] ++ [';'] := by
    rw [Text.trimEnd_append_of_blank (List.forall_mem_singleton.mpr rfl), Text.trimEnd_concat rfl]
  have semicolon : dropSemicolon (text ++ [c] ++ [';']) = text ++ [c] := by
    rw [dropSemicolon, List.getLast?_concat, if_pos rfl, List.dropLast_concat]
  have same : text ++ [c] ++ [';', '\n'] = text ++ [c] ++ [';'] ++ ['\n'] := by
    rw [List.append_assoc _ [';']]
    rfl
  rw [trimBody, same, lineBreak, semicolon, Text.trimEnd_concat hc]

/-! ### Reading the body -/

theorem readBody_eq {body : List Char} {c : Char} (hc : c ∈ body) (hb : Text.isBlank c = false)
    (skipped : List Char) : readBody skipped body =
      match parse (dropTrailingCommas body) with
      | .ok v => .ok v
      | .error fault => .error (.unreadable
          (placeBehind skipped (.ofOffset (dropTrailingCommas body) fault.offset))
          (.json fault.cause)) := by
  have some : (Text.trimStart body).isEmpty = false := by
    rw [List.isEmpty_eq_false_iff]
    exact List.ne_nil_of_mem (Text.mem_trimStart hc hb)
  rw [readBody, some]
  rfl

theorem readBody_eq_ok {body : List Char} {v : Json} {c : Char} (hc : c ∈ body)
    (hb : Text.isBlank c = false) (h : parse body = .ok v) (skipped : List Char) :
    readBody skipped body = .ok v := by
  rw [readBody_eq hc hb, dropTrailingCommas_of_parseWithin h, h]

theorem readBody_unreadable {body : List Char} {c : Char} (hc : c ∈ body)
    (hb : Text.isBlank c = false) (h : ∀ v, parse (dropTrailingCommas body) ≠ .ok v)
    (skipped : List Char) :
    ∃ position reason, readBody skipped body = .error (.unreadable position reason) := by
  rw [readBody_eq hc hb]
  cases hp : parse (dropTrailingCommas body) with
  | ok v => exact absurd hp (h v)
  | error fault => exact ⟨_, _, rfl⟩

/-! ### Written catalogs -/

theorem readable_modifiersValue (m : Modifiers) : (modifiersValue m).ReadableWithin 1 := by
  refine .obj ?_ ?_
  · rw [Fields.Normal, Fields.keys_map]
    exact m.tags.sorted
  · rw [List.forall_mem_map]
    exact fun tag _ => .str 0 _

theorem readable_typeValue (d : Descriptor) : (typeValue d).ReadableWithin 2 := by
  have keys : ["modifiers", "name", "packageName", "type"].Pairwise (· < ·) := by decide
  refine .obj keys ?_
  simp only [List.forall_mem_cons]
  exact ⟨readable_modifiersValue _, .str 1 _, .str 1 _, .str 1 _, nofun⟩

/-- How deep the documents and modules of a catalog may be for its snapshot to be readable. -/
def readableDepth : Nat := 125

theorem readable_toValue {c : Catalog}
    (h : ∀ v ∈ c.documents ++ c.modules, v.ReadableWithin readableDepth) :
    (toValue c).ReadableWithin depthLimit := by
  rw [List.forall_mem_append] at h
  have packages : ∀ v ∈ c.packages.map Json.str, v.ReadableWithin readableDepth := by
    rw [List.forall_mem_map]
    exact fun name _ => .str _ name
  have types : ∀ v ∈ c.types.map typeValue, v.ReadableWithin readableDepth := by
    rw [List.forall_mem_map]
    exact fun d _ => (readable_typeValue d).mono (by decide)
  have keys : ["documents", "modules", "packages", "types"].Pairwise (· < ·) := by decide
  refine .obj keys ?_
  simp only [List.forall_mem_cons]
  exact ⟨.arr h.1, .arr h.2, .arr packages, .arr types, nofun⟩

theorem exists_render_toValue (c : Catalog) : ∃ inner,
    (toValue c).render .indented 0 = '{' :: '\n' :: inner ++ ['}'] :=
  ⟨_, rfl⟩

/-! ### Names -/

/-- The name, without its outer blanks, is not empty and has only letters, digits, `_` and `$`. -/
def Declarable (name : String) : Prop :=
  Text.trim name.toList ≠ [] ∧
    ∀ c ∈ Text.trim name.toList, Text.isAlphanumeric c = true ∨ c = '_' ∨ c = '$'

theorem isVariableName_iff {name : String} :
    isVariableName (Text.trim name.toList) = true ↔ Declarable name := by
  simp [isVariableName, isNameChar, Declarable, or_assoc]

theorem not_declarable_of_equals {name : String} (h : '=' ∈ name.toList) : ¬ Declarable name := by
  rintro ⟨-, hc⟩
  have foreign : ¬ (Text.isAlphanumeric '=' = true ∨ '=' = '_' ∨ '=' = '$') := by decide +kernel
  exact foreign (hc '=' (Text.mem_trim h rfl))

/-! ### Declarations -/

theorem readChars_of_cut {text skipped body : List Char}
    (h : cutDeclaration text = .ok ⟨skipped, body⟩) :
    readChars text = readBody skipped (trimBody body) := by
  rw [readChars, h]

theorem readChars_unreadable_of_cut {text : List Char} {defect : DeclarationDefect}
    (h : cutDeclaration text = .error defect) :
    ∃ position reason, readChars text = .error (.unreadable position reason) := by
  rw [readChars, h]
  exact ⟨_, _, rfl⟩

theorem readChars_declaration {name : List Char} (hn : '=' ∉ name) {c : Char}
    (hc : Text.isBlank c = false) (value : List Char) :
    (isVariableName (Text.trim name) = true → ∃ skipped,
      readChars (['c', 'o', 'n', 's', 't', ' '] ++
        (name ++ ' ' :: '=' :: ' ' :: (value ++ [c]) ++ [';', '\n'])) =
        readBody skipped (' ' :: value ++ [c])) ∧
    (isVariableName (Text.trim name) = false → ∃ position reason,
      readChars (['c', 'o', 'n', 's', 't', ' '] ++
        (name ++ ' ' :: '=' :: ' ' :: (value ++ [c]) ++ [';', '\n'])) =
        .error (.unreadable position reason)) := by
  have named : '=' ∉ name ++ [' '] := by simpa using hn
  obtain ⟨skipped, hcut⟩ := cutDeclaration_const named (' ' :: value ++ [c] ++ [';', '\n'])
  rw [Text.trim_append_right (List.forall_mem_singleton.mpr rfl)] at hcut
  have text : name ++ ' ' :: '=' :: ' ' :: (value ++ [c]) ++ [';', '\n'] =
      name ++ [' '] ++ '=' :: (' ' :: value ++ [c] ++ [';', '\n']) := by simp
  rw [text]
  constructor
  · intro hv
    rw [if_pos hv] at hcut
    exact ⟨skipped, by rw [readChars_of_cut hcut, trimBody_concat hc]⟩
  · intro hv
    rw [hv] at hcut
    exact readChars_unreadable_of_cut hcut

theorem readChars_unreadable_of_equals {name : List Char} (hn : '=' ∈ name)
    (inner : List Char) : ∃ position reason,
    readChars (['c', 'o', 'n', 's', 't', ' '] ++
      (name ++ ' ' :: '=' :: ' ' :: ('{' :: '\n' :: inner ++ ['}']) ++ [';', '\n'])) =
      .error (.unreadable position reason) := by
  -- the value begins behind the first sign of the name, so it holds the declared one
  obtain ⟨front, back, rfl, hfront⟩ := List.eq_append_cons_of_mem hn
  have text : front ++ '=' :: back ++ ' ' :: '=' :: ' ' :: ('{' :: '\n' :: inner ++ ['}']) ++
      [';', '\n'] = front ++ '=' :: (back ++ assignment ++ inner ++ ['}'] ++ [';', '\n']) := by
    simp [assignment]
  obtain ⟨skipped, hcut⟩ :=
    cutDeclaration_const hfront (back ++ assignment ++ inner ++ ['}'] ++ [';', '\n'])
  rw [text]
  split at hcut
  · rw [readChars_of_cut hcut, trimBody_concat rfl]
    have equals : '=' ∈ back ++ assignment ++ inner ++ ['}'] := by simp [assignment]
    refine readBody_unreadable equals rfl (fun v => ?_) skipped
    obtain ⟨left, right, hleft⟩ :=
      exists_dropTrailingCommas_eq (by decide : ',' ∉ assignment) back (inner ++ ['}'])
    rw [List.append_assoc, List.append_assoc, hleft]
    exact parseWithin_assignment_ne_ok left right v
  · exact readChars_unreadable_of_cut hcut

theorem toList_toDeclaration (c : Catalog) (name : String) :
    (toDeclaration c name).toList = ['c', 'o', 'n', 's', 't', ' '] ++
      (name.toList ++ ' ' :: '=' :: ' ' :: (toValue c).render .indented 0 ++ [';', '\n']) := by
  simp [toDeclaration, indented]

/-- **A declaration reads back as the snapshot written**, or is refused: which of the two depends
on the name alone. -/
theorem read_toDeclaration (c : Catalog) (name : String)
    (h : ∀ v ∈ c.documents ++ c.modules, v.ReadableWithin readableDepth) :
    (Declarable name → read (toDeclaration c name) = .ok (toValue c)) ∧
    (¬ Declarable name → ∃ position reason,
      read (toDeclaration c name) = .error (.unreadable position reason)) := by
  obtain ⟨inner, hinner⟩ := exists_render_toValue c
  rw [read, toList_toDeclaration, hinner, ← isVariableName_iff, Bool.not_eq_true]
  by_cases hn : '=' ∈ name.toList
  · refine ⟨fun hd => absurd (isVariableName_iff.mp hd) (not_declarable_of_equals hn), fun _ => ?_⟩
    exact readChars_unreadable_of_equals hn inner
  · obtain ⟨accepted, refused⟩ :=
      readChars_declaration hn (by decide : Text.isBlank '}' = false) ('{' :: '\n' :: inner)
    refine ⟨fun hd => ?_, refused⟩
    obtain ⟨skipped, hr⟩ := accepted hd
    have back : parse ([' '] ++ (toValue c).render .indented 0) = .ok (toValue c) :=
      parseWithin_render Layout.blank_indented 0 (readable_toValue h)
        (List.forall_mem_singleton.mpr rfl)
    rw [hr]
    rw [hinner] at back
    exact readBody_eq_ok (List.mem_concat_self ..) rfl back skipped

/-- A document with a text that looks like the end of a declaration, and with the outermost
integers. -/
def noteDocument : Json :=
  .obj [("note", .str "a \\\", ]\x7d;\nconst b = \x7b"),
    ("range", .arr [.int minInt, .int (intBound - 1)])]

theorem readable_noteDocument : noteDocument.ReadableWithin readableDepth := by
  have keys : ["note", "range"].Pairwise (· < ·) := by decide
  have range : ∀ v ∈ [Json.int minInt, .int (intBound - 1)], v.ReadableWithin 0 := by
    simp only [List.forall_mem_cons]
    exact ⟨⟨⟨by decide, by decide⟩, trivial, by decide⟩,
      ⟨⟨by decide, by decide⟩, trivial, by decide⟩, nofun⟩
  have note : noteDocument.ReadableWithin 2 := by
    refine .obj keys ?_
    simp only [List.forall_mem_cons]
    exact ⟨.str _ _, .arr range, nofun⟩
  exact note.mono (by decide)

theorem read_toDeclaration_of_note :
    ∃ c : Catalog, c.documents = [noteDocument] ∧
      (∀ v ∈ c.documents ++ c.modules, v.ReadableWithin readableDepth) ∧
      read (toDeclaration c " $note ") = .ok (toValue c) ∧
      ∃ position reason,
        read (toDeclaration c "x = [1,]") = .error (.unreadable position reason) := by
  obtain ⟨c, hc⟩ : ∃ c : Catalog, c.HasParts [noteDocument] [] [] [] :=
    Catalog.exists_catalog_iff.mpr ⟨nofun, .nil, .nil, nofun⟩
  have readable : ∀ v ∈ c.documents ++ c.modules, v.ReadableWithin readableDepth := by
    rw [hc.documents, hc.modules, List.append_nil, List.forall_mem_singleton]
    exact readable_noteDocument
  have named : Declarable " $note " := isVariableName_iff.mp (by decide +kernel)
  have foreign : ¬ Declarable "x = [1,]" := not_declarable_of_equals (by decide)
  exact ⟨c, hc.documents, readable, (read_toDeclaration c _ readable).1 named,
    (read_toDeclaration c _ readable).2 foreign⟩

end TypeCatalog.Snapshot
