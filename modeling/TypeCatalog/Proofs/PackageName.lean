import Mathlib.Computability.Language
import TypeCatalog.Proofs.Name
import TypeCatalog.Proofs.Text.Blank

/-! # The grammar of names

A text that is joined from two by a dot has the pieces of both (`segments_append`), so a dotted name
is well formed iff its two sides are (`isPackageName_append`), wherever it is cut.  Without a dot
there is one piece, and the name is an identifier.  Cut at its last dot, a package name is the name
of its parent and a simple name (`exists_parent_of_isPackageName`).

`identifiers` and `packageNames` are the same rules as a grammar: an identifier is a starting
character with later ones behind it, a package name is an identifier with any number of identifiers
behind it, each after a dot. -/

namespace TypeCatalog.Name

open scoped Computability

/-! ### Characters -/

/-- An ASCII letter. -/
def IsLetter (c : Char) : Prop := ('A' ≤ c ∧ c ≤ 'Z') ∨ ('a' ≤ c ∧ c ≤ 'z')

/-- A character that an identifier may start with. -/
def Starts (c : Char) : Prop := IsLetter c ∨ c = '_' ∨ c = '$'

/-- A character that may stand in an identifier behind the first one. -/
def Continues (c : Char) : Prop := Starts c ∨ ('0' ≤ c ∧ c ≤ '9')

theorem isStart_iff {c : Char} : isStart c = true ↔ Starts c := by
  have letter : c.isAlpha = true ↔ IsLetter c := by
    show (decide ('A' ≤ c ∧ c ≤ 'Z') || (decide ('a' ≤ c) && decide (c ≤ 'z'))) = true ↔ _
    rw [Bool.or_eq_true, Bool.and_eq_true, decide_eq_true_eq, decide_eq_true_eq,
      decide_eq_true_eq, IsLetter]
  simp only [isStart, Starts, Bool.or_eq_true, letter, beq_iff_eq, or_assoc]

theorem isLater_iff {c : Char} : isLater c = true ↔ Continues c := by
  have digit : c.isDigit = true ↔ '0' ≤ c ∧ c ≤ '9' := by
    show (decide ('0' ≤ c) && decide (c ≤ '9')) = true ↔ _
    rw [Bool.and_eq_true, decide_eq_true_eq, decide_eq_true_eq]
  rw [isLater, Bool.or_eq_true, isStart_iff, digit, Continues]

theorem isBlank_of_isLater {c : Char} (h : isLater c = true) : Text.isBlank c = false := by
  simp only [isLater, isStart, Bool.or_eq_true, beq_iff_eq] at h
  rcases h with ((letter | rfl) | rfl) | digit
  · exact Text.isBlank_of_isAlpha letter
  · rfl
  · rfl
  · exact Text.isBlank_of_isDigit digit

/-! ### Identifiers -/

theorem isIdentifierChars_iff {word : List Char} :
    isIdentifierChars word = true ↔
      ∃ first later, word = first :: later ∧ Starts first ∧ ∀ c ∈ later, Continues c := by
  cases word with
  | nil => exact iff_of_false (by decide) nofun
  | cons first later =>
      simp [isIdentifierChars, isStart_iff, isLater_iff]

/-! ### Pieces -/

theorem segments_ne_nil (text : List Char) : segments text ≠ [] := by
  cases text with
  | nil => exact List.cons_ne_nil _ _
  | cons c cs =>
      unfold segments
      split
      · exact List.cons_ne_nil _ _
      · split <;> exact List.cons_ne_nil _ _

/-- What is joined by a dot has the pieces of both sides. -/
theorem segments_append (front back : List Char) :
    segments (front ++ '.' :: back) = segments front ++ segments back := by
  induction front with
  | nil => rfl
  | cons c cs ih =>
      rw [List.cons_append, segments, ih, segments]
      by_cases dot : c = '.'
      · rw [if_pos dot, if_pos dot, List.cons_append]
      · rw [if_neg dot, if_neg dot]
        cases h : segments cs with
        | nil => exact absurd h (segments_ne_nil cs)
        | cons piece pieces => rfl

theorem segments_of_not_mem {text : List Char} (h : '.' ∉ text) : segments text = [text] := by
  induction text with
  | nil => rfl
  | cons c cs ih =>
      rw [List.mem_cons, not_or] at h
      rw [segments, if_neg (Ne.symm h.1), ih h.2]

/-! ### Package names -/

theorem isPackageName_append (front back : String) :
    isPackageName (front ++ "." ++ back) = (isPackageName front && isPackageName back) := by
  rw [isPackageName, toList_dotted, segments_append, List.all_append]
  rfl

theorem isPackageName_of_not_mem {name : String} (h : '.' ∉ name.toList) :
    isPackageName name = isIdentifier name := by
  rw [isPackageName, segments_of_not_mem h, isIdentifier]
  simp

theorem exists_parent_of_isPackageName {name : String} (h : isPackageName name = true)
    (dot : '.' ∈ name.toList) :
    ∃ q, QualifiedName.parse? name = some q ∧ isPackageName q.package = true ∧
      isIdentifier q.name = true := by
  cases hs : splitAtLastDot name.toList with
  | none => exact absurd dot (splitAtLastDot_eq_none_iff.mp hs)
  | some parts =>
      obtain ⟨front, back⟩ := parts
      obtain ⟨same, last⟩ := splitAtLastDot_eq_some_iff.mp hs
      have joined : name = String.ofList front ++ "." ++ String.ofList back := by
        rw [← String.toList_inj, same, toList_dotted, String.toList_ofList, String.toList_ofList]
      have last : '.' ∉ (String.ofList back).toList := by simpa using last
      rw [joined, isPackageName_append, Bool.and_eq_true, isPackageName_of_not_mem last] at h
      refine ⟨⟨String.ofList front, String.ofList back⟩, ?_, h⟩
      exact QualifiedName.parse?_eq_some_iff.mpr
        ⟨joined.symm, ne_empty_of_isPackageName h.1, ne_empty_of_isIdentifier h.2, last⟩

theorem isPackageName_display (d : Descriptor) : isPackageName d.qualifiedName.display = true := by
  have noDot : '.' ∉ d.name.toList := not_mem_of_isIdentifier d.name_wellFormed
  rw [QualifiedName.display, isPackageName_append, Bool.and_eq_true]
  refine ⟨d.package_wellFormed, ?_⟩
  rw [Descriptor.qualifiedName, isPackageName_of_not_mem noDot]
  exact d.name_wellFormed

/-! ### The grammar -/

/-- The words of one character with a property. -/
def oneOf (p : Char → Prop) : Language Char := {word | ∃ c, word = [c] ∧ p c}

/-- A starting character and later ones. -/
def identifiers : Language Char := oneOf Starts * (oneOf Continues)∗

/-- An identifier, and any number of identifiers behind dots. -/
def packageNames : Language Char := identifiers * (oneOf (· = '.') * identifiers)∗

theorem mem_kstar_oneOf_iff {p : Char → Prop} {word : List Char} :
    word ∈ (oneOf p)∗ ↔ ∀ c ∈ word, p c := by
  rw [Language.mem_kstar]
  constructor
  · rintro ⟨words, rfl, single⟩ c hc
    obtain ⟨w, hw, hc⟩ := List.mem_flatten.mp hc
    obtain ⟨d, rfl, hd⟩ := single w hw
    obtain rfl := List.mem_singleton.mp hc
    exact hd
  · intro h
    refine ⟨word.map fun c => [c], ?_, ?_⟩
    · simp [← List.flatMap_def]
    · intro w hw
      obtain ⟨c, hc, rfl⟩ := List.mem_map.mp hw
      exact ⟨c, rfl, h c hc⟩

theorem mem_identifiers_iff {word : List Char} :
    word ∈ identifiers ↔ isIdentifierChars word = true := by
  rw [identifiers, Language.mem_mul, isIdentifierChars_iff]
  constructor
  · rintro ⟨_, ⟨c, rfl, starts⟩, later, continues, rfl⟩
    exact ⟨c, later, rfl, starts, mem_kstar_oneOf_iff.mp continues⟩
  · rintro ⟨c, later, rfl, starts, continues⟩
    exact ⟨[c], ⟨c, rfl, starts⟩, later, mem_kstar_oneOf_iff.mpr continues, rfl⟩

theorem mem_kstar_dotted_iff {text : List Char} :
    text ∈ (oneOf (· = '.') * identifiers)∗ ↔
      ∃ words : List (List Char), text = words.flatMap ('.' :: ·) ∧
        ∀ w ∈ words, isIdentifierChars w = true := by
  rw [Language.mem_kstar]
  constructor
  · rintro ⟨parts, rfl, dotted⟩
    induction parts with
    | nil => exact ⟨[], rfl, nofun⟩
    | cons part parts ih =>
        rw [List.forall_mem_cons] at dotted
        obtain ⟨_, ⟨_, rfl, rfl⟩, w, hw, rfl⟩ := Language.mem_mul.mp dotted.1
        obtain ⟨words, joined, identified⟩ := ih dotted.2
        refine ⟨w :: words, ?_, ?_⟩
        · rw [List.flatten_cons, joined, List.flatMap_cons]
          rfl
        · exact List.forall_mem_cons.mpr ⟨mem_identifiers_iff.mp hw, identified⟩
  · rintro ⟨words, rfl, identified⟩
    refine ⟨words.map ('.' :: ·), List.flatMap_def, ?_⟩
    intro part hp
    obtain ⟨w, hw, rfl⟩ := List.mem_map.mp hp
    exact Language.mem_mul.mpr
      ⟨['.'], ⟨'.', rfl, rfl⟩, w, mem_identifiers_iff.mpr (identified w hw), rfl⟩

theorem exists_segments_eq (text : List Char) :
    ∃ piece pieces, segments text = piece :: pieces ∧
      text = piece ++ pieces.flatMap ('.' :: ·) := by
  induction text with
  | nil => exact ⟨[], [], rfl, rfl⟩
  | cons c cs ih =>
      obtain ⟨piece, pieces, cut, joined⟩ := ih
      unfold segments
      by_cases dot : c = '.'
      · refine ⟨[], piece :: pieces, by rw [if_pos dot, cut], ?_⟩
        rw [List.nil_append, List.flatMap_cons, List.cons_append, ← joined, dot]
      · refine ⟨c :: piece, pieces, by rw [if_neg dot, cut], ?_⟩
        rw [List.cons_append, ← joined]

theorem segments_flatMap {first : List Char} (hf : '.' ∉ first) {words : List (List Char)}
    (hw : ∀ w ∈ words, '.' ∉ w) :
    segments (first ++ words.flatMap ('.' :: ·)) = first :: words := by
  induction words generalizing first with
  | nil => rw [List.flatMap_nil, List.append_nil, segments_of_not_mem hf]
  | cons w words ih =>
      rw [List.forall_mem_cons] at hw
      rw [List.flatMap_cons, List.cons_append, segments_append, segments_of_not_mem hf,
        ih hw.1 hw.2, List.singleton_append]

theorem mem_packageNames_iff {text : List Char} :
    text ∈ packageNames ↔ (segments text).all isIdentifierChars = true := by
  rw [packageNames, Language.mem_mul]
  constructor
  · rintro ⟨first, hf, rest, hr, rfl⟩
    rw [mem_identifiers_iff] at hf
    obtain ⟨words, rfl, identified⟩ := mem_kstar_dotted_iff.mp hr
    have noDot : ∀ w ∈ words, '.' ∉ w := fun w hw =>
      not_mem_of_isIdentifierChars (identified w hw)
    rw [segments_flatMap (not_mem_of_isIdentifierChars hf) noDot, List.all_cons, hf,
      Bool.true_and, List.all_eq_true]
    exact identified
  · intro h
    obtain ⟨piece, pieces, cut, joined⟩ := exists_segments_eq text
    rw [cut, List.all_cons, Bool.and_eq_true, List.all_eq_true] at h
    exact ⟨piece, mem_identifiers_iff.mpr h.1, _, mem_kstar_dotted_iff.mpr ⟨pieces, rfl, h.2⟩,
      joined.symm⟩

/-- **The grammar of names.**  A package name is a word of the grammar.  Joined by a dot, two texts
make a package name iff both are package names, and without a dot it is an identifier: a letter, `_`
or `$`, with letters, digits, `_` and `$` behind it, so that it has neither a dot nor a blank.  The
printed name of every type is a package name, and so is the name of its parent. -/
theorem isPackageName_grammar :
    (∀ name, isPackageName name = true ↔ name.toList ∈ packageNames) ∧
    (∀ front back, isPackageName (front ++ "." ++ back) = true ↔
      isPackageName front = true ∧ isPackageName back = true) ∧
    (∀ name, '.' ∉ name.toList → isPackageName name = isIdentifier name) ∧
    (∀ name, isIdentifier name = true ↔ ∃ first later, name.toList = first :: later ∧
      Starts first ∧ ∀ c ∈ later, Continues c) ∧
    (∀ name, isIdentifier name = true → ∀ c ∈ name.toList, c ≠ '.' ∧ Text.isBlank c = false) ∧
    ∀ d : Descriptor, isPackageName d.qualifiedName.display = true ∧
      ∃ parent, QualifiedName.parse? d.qualifiedName.display = some ⟨parent, d.name⟩ ∧
        isPackageName parent = true := by
  refine ⟨fun name => mem_packageNames_iff.symm, fun front back => ?_,
    fun name => isPackageName_of_not_mem, fun name => isIdentifierChars_iff, fun name h c hc => ?_,
    fun d => ⟨isPackageName_display d, d.package, d.parse?_display, d.package_wellFormed⟩⟩
  · rw [isPackageName_append, Bool.and_eq_true]
  · have later := isLater_of_mem h hc
    exact ⟨ne_dot_of_isLater later, isBlank_of_isLater later⟩

/-- Neither a dot nor a line break may end a name. -/
theorem isPackageName_grammar_of_leaf :
    '.' ∉ "leaf$2".toList ∧ isPackageName "leaf$2" = isIdentifier "leaf$2" ∧
      isPackageName "tree.leaf$2" = true ∧ ¬ isPackageName "tree.leaf$2." = true ∧
      isIdentifier "leaf$2" = true ∧ (∀ c ∈ "leaf$2".toList, c ≠ '.' ∧ Text.isBlank c = false) ∧
      ¬ isIdentifier "leaf$2\n" = true := by
  obtain ⟨-, joined, single, -, filled, -⟩ := isPackageName_grammar
  have noDot : '.' ∉ "leaf$2".toList := by decide
  have leaf : isIdentifier "leaf$2" = true := by decide
  refine ⟨noDot, single _ noDot, ?_, ?_, leaf, filled _ leaf, ?_⟩
  · exact (joined "tree" "leaf$2").mpr ⟨by decide, (single _ noDot).trans leaf⟩
  · intro h
    exact absurd ((joined "tree.leaf$2" "").mp h).2 (by decide)
  · intro h
    exact absurd (filled _ h '\n' (by decide)).2 (by decide)

end TypeCatalog.Name
