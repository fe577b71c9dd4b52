import TypeCatalog.Inspect.Report
import TypeCatalog.Proofs.Json.RoundTrip
import TypeCatalog.Proofs.Name

/-! # Names in printed listings

A listing prints its types in order, each on a line behind a column of fixed width, or as an entry
of a JSON list (`lists_types`); so their names can be read off (`namesPrinted_types`).  A report
about one type starts with its name, or has it in two JSON fields (`nameShown_detail`). -/

namespace TypeCatalog.Inspect

/-! ### Reading reports -/

/-- The lines of a text. -/
def linesOf : List Char → List (List Char)
  | [] => []
  | c :: cs =>
    if c = '\n' then [] :: linesOf cs
    else match linesOf cs with
      | [] => [[c]]
      | line :: rest => (c :: line) :: rest

/-- The column in front of a listed name: the kind, filled up to fourteen characters, in cyan if
the output is coloured. -/
def kindColumn (coloured : Bool) (kind : Kind) : List Char :=
  let cell := kind.text.toList ++ List.replicate (14 - kind.text.length) ' '
  if coloured then ['\x1b', '[', '3', '6', 'm'] ++ cell ++ ['\x1b', '[', '0', 'm'] else cell

/-- The width of this column, the control sequences counted too. -/
def columnWidth (coloured : Bool) : Nat := if coloured then 23 else 14

/-- The line that a report about one type starts with. -/
def headLine (coloured : Bool) (d : Descriptor) : List Char :=
  if coloured then
    ['\x1b', '[', '1', 'm'] ++ d.qualifiedName.display.toList ++ ['\x1b', '[', '0', 'm']
  else d.qualifiedName.display.toList

/-- The name in the fields of a JSON entry. -/
def nameIn (entry : Json) : Option String :=
  match entry.field? "package_name", entry.field? "name" with
  | some (.str package), some (.str name) => some (QualifiedName.display ⟨package, name⟩)
  | _, _ => none

/-- The names that a listing prints. -/
def namesPrinted (m : Manner) (stdout : String) : List String :=
  if m.json then
    match Json.parse stdout.toList with
    | .ok (.arr entries) => entries.filterMap nameIn
    | _ => []
  else (linesOf stdout.toList).map fun line => String.ofList (line.drop (columnWidth m.coloured))

/-- The name that a report about one type shows: on its first line, in bold if the output is
coloured, or in its JSON fields. -/
def nameShown (m : Manner) (stdout : String) : Option String :=
  if m.json then
    match Json.parse stdout.toList with
    | .ok entry => nameIn entry
    | .error _ => none
  else (linesOf stdout.toList).head?.map fun line =>
    String.ofList (if m.coloured then (line.drop 4).take (line.length - 8) else line)

/-- The output lists the types: on lines, each behind the column of kinds, or as a JSON list of
entries with their names in two fields. -/
def Lists (m : Manner) (ds : List Descriptor) (stdout : String) : Prop :=
  if m.json then
    ∃ entries, Json.parse stdout.toList = .ok (.arr entries) ∧
      entries.map (fun entry => (entry.field? "package_name", entry.field? "name")) =
        ds.map fun d => (some (.str d.package), some (.str d.name))
  else linesOf stdout.toList =
    ds.map fun d => kindColumn m.coloured d.kind ++ d.qualifiedName.display.toList

/-! ### Lines -/

theorem linesOf_append {line : List Char} (h : '\n' ∉ line) (rest : List Char) :
    linesOf (line ++ '\n' :: rest) = line :: linesOf rest := by
  induction line with
  | nil => rfl
  | cons c cs ih =>
      rw [List.mem_cons, not_or] at h
      rw [List.cons_append, linesOf, if_neg fun same => h.1 same.symm, ih h.2]

theorem toList_line (text : String) : (Report.line text).toList = text.toList ++ ['\n'] := by
  rw [Report.line, String.toList_append]
  rfl

/-- Lines that are joined are the lines of the whole. -/
theorem linesOf_join {texts : List String} (h : ∀ text ∈ texts, '\n' ∉ text.toList) :
    linesOf (String.join (texts.map Report.line)).toList = texts.map String.toList := by
  rw [String.toList_join]
  induction texts with
  | nil => rfl
  | cons text texts ih =>
      rw [List.forall_mem_cons] at h
      rw [List.map_cons, List.flatMap_cons, toList_line, List.append_assoc, List.singleton_append,
        linesOf_append h.1, ih h.2, List.map_cons]

/-! ### Printed names -/

theorem notMem_display (d : Descriptor) {c : Char} (hc : Name.isLater c = false) (dot : c ≠ '.') :
    c ∉ d.qualifiedName.display.toList := fun mem => by
  rw [d.isLater_of_mem_display mem dot] at hc
  cases hc

/-- No style ends in the text, so none is started anew. -/
theorem restart_of_notMem {text : List Char} (h : '\x1b' ∉ text) (style : Style) :
    style.restart text = text := by
  fun_induction Style.restart style text with
  | case1 => exact absurd (List.mem_cons_self ..) h
  | case2 c rest other ih => rw [ih fun mem => h (List.mem_cons_of_mem _ mem)]
  | case3 => rfl

theorem headLine_eq (coloured : Bool) (d : Descriptor) :
    (Style.bold.apply coloured d.qualifiedName.display).toList = headLine coloured d := by
  have plain := restart_of_notMem (notMem_display d (by decide) (by decide)) Style.bold
  have front : Style.bold.start = ['\x1b', '[', '1', 'm'] := rfl
  have back : styleEnd = ['\x1b', '[', '0', 'm'] := rfl
  cases coloured with
  | false => simp [Style.apply, Style.applyPadded, headLine, padTo]
  | true => simp [Style.apply, Style.applyPadded, headLine, padTo, plain, front, back]

theorem notMem_headLine (coloured : Bool) (d : Descriptor) : '\n' ∉ headLine coloured d := by
  have plain : '\n' ∉ d.qualifiedName.display.toList := notMem_display d (by decide) (by decide)
  cases coloured with
  | false => exact plain
  | true => simp [headLine, plain]

theorem kindColumn_eq (coloured : Bool) (kind : Kind) :
    (Style.cyan.applyPadded coloured Report.kindWidth kind.text).toList =
      kindColumn coloured kind := by
  cases coloured <;> cases kind <;> rfl

theorem length_kindColumn (coloured : Bool) (kind : Kind) :
    (kindColumn coloured kind).length = columnWidth coloured := by
  cases coloured <;> cases kind <;> rfl

theorem notMem_kindColumn (coloured : Bool) (kind : Kind) : '\n' ∉ kindColumn coloured kind := by
  cases coloured <;> cases kind <;> decide

/-! ### JSON reports -/

theorem parse_jsonLines {v : Json} (h : v.ReadableWithin Json.depthLimit) :
    Json.parse (Report.jsonLines v).toList = .ok v := by
  have front : ∀ c ∈ ([] : List Char), Json.Reader.isBlank c = true := nofun
  have back : ∀ c ∈ ['\n'], Json.Reader.isBlank c = true := List.forall_mem_singleton.mpr rfl
  have read := Json.Reader.parseWithin_render_append Json.Layout.blank_indented 0 h front back
  rwa [Report.jsonLines, toList_line, Json.indented, String.toList_ofList]

theorem readable_descriptorValue (d : Descriptor) :
    (Snapshot.descriptorValue d).ReadableWithin 3 := by
  have tags : (Json.ofStrings d.modifiers.tags.toList).ReadableWithin 1 :=
    .arr (List.forall_mem_map.mpr fun tag _ => .str 0 tag)
  have inner : ["immutable_by_construction", "provenance", "tags"].Pairwise (· < ·) := by decide
  have keys : ["kind", "modifiers", "name", "package_name"].Pairwise (· < ·) := by decide
  have flag : (Json.bool d.modifiers.immutable).ReadableWithin 1 :=
    ⟨trivial, trivial, Nat.zero_le _⟩
  refine .obj keys ?_
  simp only [List.forall_mem_cons]
  refine ⟨.str 2 _, .obj inner ?_, .str 2 _, .str 2 _, nofun⟩
  simp only [List.forall_mem_cons]
  refine ⟨flag, ?_, tags, nofun⟩
  cases d.modifiers.provenance with
  | none => exact ⟨trivial, trivial, Nat.zero_le _⟩
  | some text => exact .str 1 text

theorem parse_types (ds : List Descriptor) :
    Json.parse (Report.jsonLines (.arr (ds.map Snapshot.descriptorValue))).toList =
      .ok (.arr (ds.map Snapshot.descriptorValue)) := by
  have entries : ∀ v ∈ ds.map Snapshot.descriptorValue, v.ReadableWithin 3 :=
    List.forall_mem_map.mpr fun d _ => readable_descriptorValue d
  exact parse_jsonLines ((Json.ReadableWithin.arr entries).mono (by decide))

theorem nameIn_descriptorValue (d : Descriptor) :
    nameIn (Snapshot.descriptorValue d) = some d.qualifiedName.display := rfl

/-! ### Listings and reports -/

theorem linesOf_types {m : Manner} (h : m.json = false) (ds : List Descriptor) :
    linesOf (Report.types m ds).toList =
      ds.map fun d => kindColumn m.coloured d.kind ++ d.qualifiedName.display.toList := by
  have line (d : Descriptor) : (Style.cyan.applyPadded m.coloured Report.kindWidth d.kind.text ++
      d.qualifiedName.display).toList =
      kindColumn m.coloured d.kind ++ d.qualifiedName.display.toList := by
    rw [String.toList_append, kindColumn_eq]
  have unbroken : ∀ text ∈ ds.map fun d =>
      Style.cyan.applyPadded m.coloured Report.kindWidth d.kind.text ++ d.qualifiedName.display,
      '\n' ∉ text.toList := by
    rw [List.forall_mem_map]
    intro d _
    rw [line, List.mem_append, not_or]
    exact ⟨notMem_kindColumn m.coloured d.kind, notMem_display d (by decide) (by decide)⟩
  have lines := linesOf_join unbroken
  rw [List.map_map, List.map_map] at lines
  rw [Report.types, if_neg (ne_true_of_eq_false h)]
  exact lines.trans (List.map_congr_left fun d _ => line d)

/-- **A listing lists its types** in their order. -/
theorem lists_types (m : Manner) (ds : List Descriptor) : Lists m ds (Report.types m ds) := by
  cases hm : m.json with
  | false =>
      rw [Lists, if_neg (ne_true_of_eq_false hm)]
      exact linesOf_types hm ds
  | true =>
      rw [Lists, if_pos hm, Report.types, if_pos hm]
      exact ⟨_, parse_types ds, by rw [List.map_map]; rfl⟩

/-- **The names in a listing** are those of its types. -/
theorem namesPrinted_types (m : Manner) (ds : List Descriptor) :
    namesPrinted m (Report.types m ds) = ds.map fun d => d.qualifiedName.display := by
  cases hm : m.json with
  | false =>
      rw [namesPrinted, if_neg (ne_true_of_eq_false hm), linesOf_types hm, List.map_map]
      refine List.map_congr_left fun d _ => ?_
      rw [Function.comp_apply, ← length_kindColumn m.coloured d.kind, List.drop_left,
        String.ofList_toList]
  | true =>
      rw [namesPrinted, if_pos hm, Report.types, if_pos hm, parse_types]
      dsimp only
      rw [List.filterMap_map]
      exact congrFun List.filterMap_eq_map ds

/-- **A report about one type shows its name.** -/
theorem nameShown_detail (m : Manner) (d : Descriptor) :
    nameShown m (Report.detail m d) = some d.qualifiedName.display := by
  cases hm : m.json with
  | false =>
      obtain ⟨rest, hr⟩ : ∃ rest, Report.detail m d =
          Report.line (Style.bold.apply m.coloured d.qualifiedName.display) ++ rest := by
        rw [Report.detail, if_neg (ne_true_of_eq_false hm)]
        simp only [String.append_assoc]
        exact ⟨_, rfl⟩
      rw [nameShown, if_neg (ne_true_of_eq_false hm), hr, String.toList_append, toList_line,
        headLine_eq, List.append_assoc, List.singleton_append,
        linesOf_append (notMem_headLine m.coloured d), List.head?_cons, Option.map_some]
      cases m.coloured with
      | false => simp [headLine]
      | true => simp [headLine]
  | true =>
      have readable := (readable_descriptorValue d).mono (by decide : 3 ≤ Json.depthLimit)
      rw [nameShown, if_pos hm, Report.detail, if_pos hm, parse_jsonLines readable]
      exact nameIn_descriptorValue d

end TypeCatalog.Inspect
