import TypeCatalog.Proofs.Inspect.Run
import TypeCatalog.Proofs.Snapshot.Rewriting

/-! # Dumps as normal forms

A dump prints a catalog as a snapshot, plain or declared, and depends on nothing of the catalog but
its written snapshot (`dumped_eq_of_toValue_eq`).  What was printed is read back as this snapshot
(`read_dumped`), so that dumping it again, in either form, prints what dumping the first file in
that form prints (`dumps_dumped`). -/

namespace TypeCatalog.Inspect

open Snapshot

/-! ### What a dump prints -/

/-- Every run that is asked for a dump of a file with the text, under the settings, exits with 0
and prints `out`. -/
def Dumps (settings : Settings) (variableName : Option String) (text out : String) : Prop :=
  ∀ (s : Surroundings) (args : List String) (i : Invocation), Invocation.ofArguments args = .ok i →
    i.command = .dump variableName → settingsOf s i = .ok settings →
    s.read i.path = .ok text.toUTF8 → (run s args).exit = 0 ∧ (run s args).stdout = out

/-- The snapshot of the catalog, perhaps as the value of a declared variable. -/
def dumped (c : Catalog) : Option String → String
  | none => Report.jsonLines (toValue c)
  | some name => toDeclaration c name

theorem dumped_eq_of_toValue_eq {c c' : Catalog} (h : toValue c' = toValue c) :
    dumped c' = dumped c := by
  funext variableName
  cases variableName with
  | none => rw [dumped, dumped, h]
  | some name => rw [dumped, dumped, toDeclaration, toDeclaration, h]

theorem dumps_of_load {settings : Settings} {text : String} {v : Json} {c : Catalog}
    (hr : Snapshot.read text = .ok v) (hl : (load settings v).outcome = .ok c)
    (variableName : Option String) : Dumps settings variableName text (dumped c variableName) := by
  intro s args i ha hc hs hf
  have found : Finds s i c := ⟨settings, hs, catalogOf_eq_ok_iff.mpr ⟨text, v, hf, hr, hl⟩⟩
  have answered : answer (mannerOf s i) i.path c i.command = .ok (0, dumped c variableName) := by
    rw [hc]
    cases variableName <;> rfl
  rw [run_of_ofArguments ha]
  exact found.run_eq answered

/-! ### Dumps of dumps -/

/-- A variable may be declared under the name. -/
def IsVariableName (name : String) : Prop :=
  name ≠ "" ∧ ∀ d ∈ name.toList, Text.isAlphanumeric d = true ∨ d = '_' ∨ d = '$'

theorem read_dumped {c : Catalog} {variableName : Option String}
    (hn : ∀ name ∈ variableName, IsVariableName name)
    (h : ∀ v ∈ c.documents ++ c.modules, v.ReadableWithin readableDepth) :
    Snapshot.read (dumped c variableName) = .ok (toValue c) := by
  cases variableName with
  | none =>
      have framed : Framed ((toValue c).render .indented 0)
          ([] ++ ((toValue c).render .indented 0 ++ ['\n'])) :=
        .frame nofun (.blank (List.forall_mem_singleton.mpr rfl))
      have printed : (dumped c none).toList =
          [] ++ ((toValue c).render .indented 0 ++ ['\n']) := by
        simp [dumped, Report.jsonLines, Report.line, Json.indented]
      rw [Snapshot.read, printed]
      exact readChars_framed_toValue h framed
  | some name =>
      obtain ⟨filled, letters⟩ := hn name rfl
      have filled : name.toList ≠ [] := by simpa using filled
      exact read_declared_toValue filled letters h

theorem dumps_dumped {settings : Settings} (ha : AliasesApart settings) {c : Catalog}
    (h : ∀ v ∈ c.documents ++ c.modules, v.ReadableWithin readableDepth)
    {first : Option String} (hn : ∀ name ∈ first, IsVariableName name) (second : Option String) :
    Dumps settings second (dumped c first) (dumped c second) := by
  obtain ⟨c', hl, same⟩ := exists_load_toValue ha c
  have again := dumps_of_load (read_dumped hn h) hl second
  rwa [dumped_eq_of_toValue_eq same] at again

/-- **A dump is a normal form.**  If a text is a snapshot without floating-point numbers in its
documents and modules, under settings whose aliases leave the other three lists alone, then a dump
of its dump is the same dump, for plain dumps and for declared ones, and the plain dump of a
declared dump is the plain dump. -/
theorem dump_normalForm (settings : Settings) (ha : AliasesApart settings) (name text : String)
    (hn : IsVariableName name) (v : Json) (hr : Snapshot.read text = .ok v) (c : Catalog)
    (hl : (load settings v).outcome = .ok c)
    (hi : ∀ w ∈ c.documents ++ c.modules, w.Integral) :
    ∃ out declared, Dumps settings none text out ∧ Dumps settings (some name) text declared ∧
      Dumps settings none out out ∧ Dumps settings (some name) declared declared ∧
      Dumps settings none declared out := by
  have readable := readable_of_read hr hl hi
  have plain : ∀ n ∈ (none : Option String), IsVariableName n :=
    fun n hm => absurd hm (Option.not_mem_none n)
  have named : ∀ n ∈ some name, IsVariableName n := by
    intro n hm
    rw [← Option.mem_some_iff.mp hm]
    exact hn
  refine ⟨dumped c none, dumped c (some name), dumps_of_load hr hl none,
    dumps_of_load hr hl (some name), ?_, ?_, ?_⟩
  · exact dumps_dumped ha readable plain none
  · exact dumps_dumped ha readable named (some name)
  · exact dumps_dumped ha readable named none

/-- A snapshot with a document and without types, and with two trailing commas. -/
def treeText : String :=
  "\x7b\"packages\": [\"tree\",], \"modules\": [], \"documents\": [-1], \"types\": [],\x7d"

/-- The dumps of this snapshot, plain and declared, are dumped again as they are. -/
theorem dump_normalForm_of_tree :
    AliasesApart {} ∧ IsVariableName "root" ∧ ∃ v c, Snapshot.read treeText = .ok v ∧
      (load {} v).outcome = .ok c ∧ (∀ w ∈ c.documents ++ c.modules, w.Integral) ∧
      ∃ out declared, (run (oneFile treeText) ["dump", "tree.js"]).stdout = out ∧
        (run (oneFile treeText) ["dump", "--js", "root", "tree.js"]).stdout = declared ∧
        (run (oneFile out) ["dump", "tree.js"]).exit = 0 ∧
        (run (oneFile out) ["dump", "tree.js"]).stdout = out ∧
        (run (oneFile declared) ["dump", "--js", "root", "tree.js"]).stdout = declared ∧
        (run (oneFile declared) ["dump", "tree.js"]).stdout = out := by
  have apart : AliasesApart {} := by
    unfold AliasesApart
    decide
  have letters : ['r', 'o', 'o', 't'].all isNameChar = true := by decide +kernel
  have named : IsVariableName "root" :=
    ⟨by decide, fun d hd => isNameChar_iff.mp (List.all_eq_true.mp letters d hd)⟩
  obtain ⟨v, hr⟩ : ∃ v, Snapshot.read treeText = .ok v := ⟨_, rfl⟩
  obtain ⟨c, hl, hd⟩ : ∃ c, (load {} v).outcome = .ok c ∧
      c.documents ++ c.modules = [.int (-1)] := by
    cases hr
    exact ⟨_, rfl, rfl⟩
  have integral : ∀ w ∈ c.documents ++ c.modules, w.Integral := by
    rw [hd, List.forall_mem_singleton]
    trivial
  have asked : Invocation.ofArguments ["dump", "tree.js"] =
      .ok ⟨none, 0, false, "tree.js", .dump none⟩ := rfl
  have askedDeclared : Invocation.ofArguments ["dump", "--js", "root", "tree.js"] =
      .ok ⟨none, 0, false, "tree.js", .dump (some "root")⟩ := rfl
  have settings (text : String) (command : Command) : settingsOf (oneFile text)
      ⟨none, 0, false, "tree.js", command⟩ = .ok {} := settingsOf_eq_default rfl rfl
  obtain ⟨out, declared, printed, printedDeclared, again, againDeclared, plain⟩ :=
    dump_normalForm {} apart "root" treeText named v hr c hl integral
  obtain ⟨exit, stdout⟩ := again (oneFile out) _ _ asked rfl (settings ..) rfl
  exact ⟨apart, named, v, c, hr, hl, integral, out, declared,
    (printed (oneFile treeText) _ _ asked rfl (settings ..) rfl).2,
    (printedDeclared (oneFile treeText) _ _ askedDeclared rfl (settings ..) rfl).2,
    exit, stdout,
    (againDeclared (oneFile declared) _ _ askedDeclared rfl (settings ..) rfl).2,
    (plain (oneFile declared) _ _ asked rfl (settings ..) rfl).2⟩

end TypeCatalog.Inspect
