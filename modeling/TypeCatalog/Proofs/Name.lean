import TypeCatalog.Descriptor

/-! # Printed names

Cutting a text at its last dot takes back apart what was joined by a dot, provided that no dot
follows (`splitAtLastDot_eq_some_iff`).  A simple name has no dot and neither part of a qualified
name is empty, so the printed form of every type's name is read back as this name
(`Descriptor.parse?_display`), and what is read as a name is the printed form of it
(`parse?_eq_some_iff`). -/

namespace TypeCatalog

namespace Name

theorem toList_dotted (front back : String) :
    (front ++ "." ++ back).toList = front.toList ++ '.' :: back.toList := by
  simp

/-! ### The last dot -/

theorem splitAtLastDot_eq_none_iff {text : List Char} :
    splitAtLastDot text = none ↔ '.' ∉ text := by
  induction text with
  | nil => simp [splitAtLastDot]
  | cons c cs ih =>
      rw [List.mem_cons, not_or, ← ih, splitAtLastDot]
      cases splitAtLastDot cs with
      | some parts => exact iff_of_false nofun fun h => nomatch h.2
      | none =>
          dsimp only
          split
          · rename_i dot
            exact iff_of_false nofun fun h => h.1 dot.symm
          · rename_i other
            exact iff_of_true rfl ⟨fun dot => other dot.symm, rfl⟩

theorem splitAtLastDot_append {back : List Char} (h : '.' ∉ back) (front : List Char) :
    splitAtLastDot (front ++ '.' :: back) = some (front, back) := by
  induction front with
  | nil => simp [splitAtLastDot, splitAtLastDot_eq_none_iff.mpr h]
  | cons c cs ih => rw [List.cons_append, splitAtLastDot, ih]

theorem splitAtLastDot_eq_some_iff {text front back : List Char} :
    splitAtLastDot text = some (front, back) ↔ text = front ++ '.' :: back ∧ '.' ∉ back := by
  constructor
  · intro h
    induction text generalizing front with
    | nil => cases h
    | cons c cs ih =>
        unfold splitAtLastDot at h
        cases hs : splitAtLastDot cs with
        | some parts =>
            rw [hs] at h
            cases h
            obtain ⟨same, last⟩ := ih hs
            exact ⟨by rw [same, List.cons_append], last⟩
        | none =>
            rw [hs] at h
            dsimp only at h
            split at h <;> cases h
            rename_i dot
            exact ⟨by rw [dot, List.nil_append], splitAtLastDot_eq_none_iff.mp hs⟩
  · rintro ⟨rfl, last⟩
    exact splitAtLastDot_append last front

/-! ### Well-formed names -/

theorem ne_dot_of_isLater {c : Char} (h : isLater c = true) : c ≠ '.' := by
  rintro rfl
  exact absurd h (by decide)

theorem isLater_of_mem {word : List Char} (h : isIdentifierChars word = true) {c : Char}
    (hc : c ∈ word) : isLater c = true := by
  cases word with
  | nil => cases hc
  | cons d ds =>
      rw [isIdentifierChars, Bool.and_eq_true, List.all_eq_true] at h
      rcases List.mem_cons.mp hc with rfl | hc
      · rw [isLater, h.1, Bool.true_or]
      · exact h.2 c hc

theorem not_mem_of_isIdentifierChars {word : List Char} (h : isIdentifierChars word = true) :
    '.' ∉ word :=
  fun dot => ne_dot_of_isLater (isLater_of_mem h dot) rfl

theorem not_mem_of_isIdentifier {name : String} (h : isIdentifier name = true) :
    '.' ∉ name.toList :=
  not_mem_of_isIdentifierChars h

theorem ne_empty_of_isIdentifier {name : String} (h : isIdentifier name = true) : name ≠ "" := by
  rintro rfl
  exact absurd h (by decide)

theorem exists_first_of_isPackageName {name : String} (h : isPackageName name = true) :
    ∃ c cs, name.toList = c :: cs ∧ isStart c = true := by
  rw [isPackageName] at h
  cases hn : name.toList with
  | nil =>
      rw [hn] at h
      cases h
  | cons c cs =>
      refine ⟨c, cs, rfl, ?_⟩
      rw [hn] at h
      unfold segments at h
      split at h
      · cases h
      · split at h <;>
          simp only [List.all_cons, isIdentifierChars, Bool.and_eq_true] at h
        · exact h.1.1
        · exact h.1.1

theorem exists_mem_segments {text : List Char} {c : Char} (hc : c ∈ text) (dot : c ≠ '.') :
    ∃ piece ∈ segments text, c ∈ piece := by
  induction text with
  | nil => cases hc
  | cons d ds ih =>
      rw [segments]
      split
      · rename_i hd
        have later : c ∈ ds := (List.mem_cons.mp hc).resolve_left fun same => dot (same.trans hd)
        obtain ⟨piece, hp, mem⟩ := ih later
        exact ⟨piece, List.mem_cons_of_mem _ hp, mem⟩
      · rcases List.mem_cons.mp hc with rfl | hc
        · split <;> exact ⟨_, List.mem_cons_self .., List.mem_cons_self ..⟩
        · obtain ⟨piece, hp, mem⟩ := ih hc
          split
          · rename_i none
            rw [none] at hp
            cases hp
          · rename_i first rest pieces
            rw [pieces] at hp
            rcases List.mem_cons.mp hp with rfl | hp
            · exact ⟨_, List.mem_cons_self .., List.mem_cons_of_mem _ mem⟩
            · exact ⟨piece, List.mem_cons_of_mem _ hp, mem⟩

theorem isLater_of_mem_packageName {name : String} (h : isPackageName name = true) {c : Char}
    (hc : c ∈ name.toList) (dot : c ≠ '.') : isLater c = true := by
  obtain ⟨piece, hp, mem⟩ := exists_mem_segments hc dot
  exact isLater_of_mem (List.all_eq_true.mp h piece hp) mem

theorem ne_empty_of_isPackageName {name : String} (h : isPackageName name = true) :
    name ≠ "" := by
  rintro rfl
  exact absurd h (by decide)

end Name

/-! ### Qualified names -/

namespace QualifiedName

theorem toList_display (q : QualifiedName) :
    q.display.toList = q.package.toList ++ '.' :: q.name.toList :=
  Name.toList_dotted q.package q.name

/-- A text is read as a name iff it is the printed form of it, both parts have some character, and
the simple name has no dot. -/
theorem parse?_eq_some_iff {text : String} {q : QualifiedName} :
    parse? text = some q ↔
      q.display = text ∧ q.package ≠ "" ∧ q.name ≠ "" ∧ '.' ∉ q.name.toList := by
  constructor
  · intro h
    unfold parse? at h
    split at h
    · cases h
    · rename_i front back hs
      split at h <;> cases h
      rename_i filled
      obtain ⟨same, last⟩ := Name.splitAtLastDot_eq_some_iff.mp hs
      rw [Bool.or_eq_true, not_or, List.isEmpty_iff, List.isEmpty_iff] at filled
      refine ⟨?_, by simpa using filled.1, by simpa using filled.2, by simpa using last⟩
      rw [← String.toList_inj, toList_display, String.toList_ofList, String.toList_ofList, same]
  · rintro ⟨rfl, package, name, last⟩
    have filled : ¬ (q.package.toList.isEmpty || q.name.toList.isEmpty) = true := by
      simp [package, name]
    rw [parse?, toList_display, Name.splitAtLastDot_append last]
    dsimp only
    rw [if_neg filled, String.ofList_toList, String.ofList_toList]

end QualifiedName

theorem Descriptor.isLater_of_mem_display (d : Descriptor) {c : Char}
    (hc : c ∈ d.qualifiedName.display.toList) (dot : c ≠ '.') : Name.isLater c = true := by
  rw [QualifiedName.toList_display, List.mem_append, List.mem_cons] at hc
  rcases hc with hc | rfl | hc
  · exact Name.isLater_of_mem_packageName d.package_wellFormed hc dot
  · exact absurd rfl dot
  · exact Name.isLater_of_mem d.name_wellFormed hc

/-- **The printed name of a type is read back.** -/
theorem Descriptor.parse?_display (d : Descriptor) :
    QualifiedName.parse? d.qualifiedName.display = some d.qualifiedName :=
  QualifiedName.parse?_eq_some_iff.mpr ⟨rfl, Name.ne_empty_of_isPackageName d.package_wellFormed,
    Name.ne_empty_of_isIdentifier d.name_wellFormed,
    Name.not_mem_of_isIdentifier d.name_wellFormed⟩

end TypeCatalog
