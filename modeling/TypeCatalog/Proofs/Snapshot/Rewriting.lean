import TypeCatalog.Proofs.Json.Made
import TypeCatalog.Proofs.Snapshot.FixedPoint
import TypeCatalog.Proofs.Snapshot.Prefixed
import TypeCatalog.Proofs.Snapshot.Tolerance

/-! # Writing what was read

A catalog that was loaded from a text has readable documents and modules, provided that their
numbers are integers (`readable_of_read`): the text was not too deep, and so are they.  Its
snapshot is read back from its printed form, whatever stands around it (`readChars_framed_toValue`,
`read_declared_toValue`), and loads to a catalog that is written in the same way
(`exists_load_toValue`). -/

namespace TypeCatalog.Snapshot

open Json Json.Reader

/-! ### Texts that were read -/

theorem fits_of_read {text : String} {v : Json} (h : read text = .ok v) :
    v.Normal ∧ v.depth ≤ depthLimit := by
  rw [read, readChars] at h
  split at h
  · cases h
  · unfold readBody at h
    split at h
    · cases h
    · dsimp only at h
      split at h
      · rename_i parsed
        cases h
        exact fits_of_parseWithin parsed
      · cases h

theorem fits_of_mem_list {limit : Nat} {root : Fields Json} {key : String} {items : List Json}
    (normal : (Json.obj root).Normal) (depth : (Json.obj root).depth ≤ limit + 2)
    (h : root.get? key = some (.arr items)) : ∀ v ∈ items, v.Normal ∧ v.depth ≤ limit := by
  have field : (key, Json.arr items) ∈ root := Fields.mem_of_get? h
  have fields : depthFields root ≤ limit + 1 := Nat.le_of_succ_le_succ depth
  have list : depthItems items ≤ limit :=
    Nat.le_of_succ_le_succ (depthFields_le_iff.mp fields _ field)
  have listNormal : NormalItems items := normalFields_iff.mp normal.2 _ field
  intro v hv
  exact ⟨normalItems_iff.mp listNormal v hv, depthItems_le_iff.mp list v hv⟩

/-- A catalog that was loaded from a text can be read back if all its numbers are integers. -/
theorem readable_of_read {settings : Settings} {text : String} {snapshot : Json} {c : Catalog}
    (hr : read text = .ok snapshot) (hl : (load settings snapshot).outcome = .ok c)
    (hi : ∀ v ∈ c.documents ++ c.modules, v.Integral) :
    ∀ v ∈ c.documents ++ c.modules, v.ReadableWithin readableDepth := by
  obtain ⟨normal, depth⟩ := fits_of_read hr
  obtain ⟨root, items, rfl, hc⟩ := load_eq_ok_iff.mp hl
  obtain ⟨key, -, documents⟩ := hc.documents
  intro v hv
  have fits : v.Normal ∧ v.depth ≤ readableDepth := by
    rcases List.mem_append.mp hv with hd | hm
    · exact fits_of_mem_list normal depth documents v hd
    · exact fits_of_mem_list normal depth hc.modules v hm
  exact ⟨fits.1, hi v hv, fits.2⟩

/-! ### Printed snapshots -/

section
variable {c : Catalog}

theorem readChars_framed_toValue {text : List Char}
    (h : ∀ v ∈ c.documents ++ c.modules, v.ReadableWithin readableDepth)
    (ht : Framed ((toValue c).render .indented 0) text) : readChars text = .ok (toValue c) := by
  have blank : ∀ b ∈ ([] : List Char), isBlank b = true := nofun
  have parsed : parse ((toValue c).render .indented 0) = .ok (toValue c) :=
    parseWithin_render Layout.blank_indented 0 (readable_toValue h) blank
  exact readChars_of_loosened (withTrailingCommas_self parsed) parsed ht

theorem isDeclaration_const {name : List Char} (hn : name ≠ [])
    (hc : ∀ d ∈ name, Text.isAlphanumeric d = true ∨ d = '_' ∨ d = '$') :
    IsDeclaration (['c', 'o', 'n', 's', 't', ' '] ++ (name ++ [' ', '='])) := by
  have blank : ∀ b ∈ [' '], Text.isBlank b = true := List.forall_mem_singleton.mpr rfl
  exact @IsDeclaration.declare [] [] ['c', 'o', 'n', 's', 't'] [' '] name [' '] nofun (.inl rfl)
    (List.mem_cons_self ..) (List.cons_ne_nil _ _) blank hn hc blank

theorem read_declared_toValue {name : String} (hn : name.toList ≠ [])
    (hc : ∀ d ∈ name.toList, Text.isAlphanumeric d = true ∨ d = '_' ∨ d = '$')
    (h : ∀ v ∈ c.documents ++ c.modules, v.ReadableWithin readableDepth) :
    read (toDeclaration c name) = .ok (toValue c) := by
  obtain ⟨inner, hinner⟩ := exists_render_toValue c
  have parts : (toDeclaration c name).toList =
      ['c', 'o', 'n', 's', 't', ' '] ++ (name.toList ++ [' ', '=']) ++
        ([' '] ++ ((toValue c).render .indented 0 ++ ([] ++ ';' :: ['\n']))) := by
    rw [toList_toDeclaration]
    simp
  have blank : ∀ b ∈ [' '], Text.isBlank b = true := List.forall_mem_singleton.mpr rfl
  have framed : Framed ((toValue c).render .indented 0)
      ([' '] ++ ((toValue c).render .indented 0 ++ ([] ++ ';' :: ['\n']))) :=
    .frame blank (.semicolon nofun (List.forall_mem_singleton.mpr rfl))
  have value := readChars_framed_toValue h framed
  rw [hinner] at parts value
  have plain : ¬ StartsDeclaration
      ([' '] ++ ('{' :: '\n' :: inner ++ ['}'] ++ ([] ++ ';' :: ['\n']))) := by
    have opening : startValue 1 [] '{' = .ok ⟨.objectStart, []⟩ := rfl
    exact not_startsDeclaration blank opening
  have gap : Gap (([' '] ++ ('{' :: '\n' :: inner ++ ['}'] ++ ([] ++ ';' :: ['\n']))).takeWhile
      Text.isBlank) := List.forall_mem_singleton.mpr rfl
  rw [read, parts, readChars_declared (isDeclaration_const hn hc) plain gap, value]
  rfl

end

/-! ### Written catalogs -/

theorem exists_load_toValue {settings : Settings} (h : AliasesApart settings) (c : Catalog) :
    ∃ c', (load settings (toValue c)).outcome = .ok c' ∧ toValue c' = toValue c := by
  obtain ⟨c', hc, parts⟩ := load_toValue h c
  exact ⟨c', hc, toValue_eq_of_reloaded parts⟩

end TypeCatalog.Snapshot
