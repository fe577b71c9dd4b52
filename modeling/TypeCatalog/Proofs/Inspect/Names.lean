import TypeCatalog.Proofs.Grouping
import TypeCatalog.Proofs.Inspect.Arguments
import TypeCatalog.Proofs.Inspect.Printed
import TypeCatalog.Proofs.Inspect.Run
import TypeCatalog.Proofs.Lookup
import TypeCatalog.Proofs.Name

/-! # Printed names as questions

A text finds a type of a catalog iff it is the printed form of the type's name
(`bind_parse?_eq_some_iff`).  So a name from a listing can be asked for, the answer is about the
type that was listed, and nothing else can be asked for with success (`printedNames_exact`). -/

namespace TypeCatalog

namespace Catalog

/-! ### Texts that find a type -/

theorem bind_parse?_eq_some_iff {c : Catalog} {text : String} {d : Descriptor} :
    (QualifiedName.parse? text).bind c.find? = some d ↔
      d ∈ c.types ∧ d.qualifiedName.display = text := by
  rw [Option.bind_eq_some_iff]
  constructor
  · rintro ⟨q, hq, hd⟩
    obtain ⟨mem, rfl⟩ := find?_eq_some_iff.mp hd
    exact ⟨mem, (QualifiedName.parse?_eq_some_iff.mp hq).1⟩
  · rintro ⟨hd, rfl⟩
    exact ⟨_, d.parse?_display, find?_eq_some_iff.mpr ⟨hd, rfl⟩⟩

theorem eq_of_display_eq {c : Catalog} {i j : Nat} {d d' : Descriptor}
    (hi : c.types[i]? = some d) (hj : c.types[j]? = some d')
    (h : d.qualifiedName.display = d'.qualifiedName.display) : i = j := by
  have same : some d.qualifiedName = some d'.qualifiedName := by
    rw [← d.parse?_display, ← d'.parse?_display, h]
  exact eq_of_qualifiedName_eq hi hj (Option.some.inj same)

end Catalog

namespace Inspect

/-! ### Listings -/

/-- A listing shows those types of the catalog that it is asked for. -/
theorem listed_eq_filter (c : Catalog) (package : Option String) (kind : Option Kind) :
    listed c package kind = c.types.filter fun d =>
      decide ((∀ p ∈ package, d.package = p) ∧ ∀ k ∈ kind, d.kind = k) := by
  cases package with
  | none => cases kind <;> simp [listed]
  | some p =>
      cases kind with
      | none => simp [listed, Catalog.typesIn_eq_filter]
      | some k => simp [listed, Catalog.typesIn_eq_filter, List.filter_filter, Bool.and_comm]

/-! ### Questions about a type -/

theorem answer_describe_of_some {m : Manner} {path text : String} {c : Catalog} {d : Descriptor}
    (h : (QualifiedName.parse? text).bind c.find? = some d) :
    answer m path c (.describe text) = .ok (0, Report.detail m d) := by
  obtain ⟨q, hq, hd⟩ := Option.bind_eq_some_iff.mp h
  simp only [answer, hq, hd]

theorem Finds.exit_describe_of_none {s : Surroundings} {i : Invocation} {c : Catalog}
    {text : String} (hf : Finds s i c) (hi : i.command = .describe text)
    (h : (QualifiedName.parse? text).bind c.find? = none) : (runInvocation s i).exit = 1 := by
  cases hq : QualifiedName.parse? text with
  | none =>
      have refused : answer (mannerOf s i) i.path c i.command = .error (.notQualified text) := by
        simp only [hi, answer, hq]
      exact (hf.run_eq_of_error refused).1
  | some q =>
      rw [hq, Option.bind_some] at h
      have absent : answer (mannerOf s i) i.path c i.command =
          .ok (1, Report.absent (mannerOf s i) q) := by
        simp only [hi, answer, hq, h]
      exact (hf.run_eq absent).1

theorem isDashed_display (d : Descriptor) : isDashed d.qualifiedName.display = false := by
  obtain ⟨c, cs, hc, start⟩ := Name.exists_first_of_isPackageName d.package_wellFormed
  have first : d.qualifiedName.display.toList = c :: (cs ++ '.' :: d.name.toList) := by
    rw [QualifiedName.toList_display, Descriptor.qualifiedName, hc, List.cons_append]
  have letter : c ≠ '-' := by
    rintro rfl
    exact absurd start (by decide)
  unfold isDashed
  split
  · rename_i dash
    rw [first] at dash
    exact absurd (List.cons.inj dash).1 letter
  · rfl

theorem ofArguments_describe {path text : String} (hp : path ≠ "") (hd : isDashed path = false)
    (ht : isDashed text = false) : Invocation.ofArguments ["show", path, text] =
      .ok ⟨none, 0, false, path, .describe text⟩ := by
  have words : ∀ word ∈ [path, text], isDashed word = false := by
    simp [hd, ht]
  have filled : path.isEmpty = false := by simpa using hp
  have named : CommandName.ofWord? "show" = some .describe := rfl
  rw [ofArguments_words named words]
  simp [Invocation.ofCollected, filled]

/-- **Printed names identify types exactly.**  A text finds a type iff it is the printed form of
its name, and no two types are printed alike.  A listing prints those types of the catalog that it
is asked for, in their order and by their names; the printed name of each is understood as a
question, and answered with a report that shows this name; any other question fails. -/
theorem printedNames_exact (c : Catalog) :
    (∀ text d, (QualifiedName.parse? text).bind c.find? = some d ↔
      d ∈ c.types ∧ d.qualifiedName.display = text) ∧
    (∀ (i j : Nat) (d d' : Descriptor), c.types[i]? = some d → c.types[j]? = some d' →
      d.qualifiedName.display = d'.qualifiedName.display → i = j) ∧
    (∀ d ∈ c.types, ∀ path, path ≠ "" → isDashed path = false →
      Invocation.ofArguments ["show", path, d.qualifiedName.display] =
        .ok ⟨none, 0, false, path, .describe d.qualifiedName.display⟩) ∧
    ∀ (s : Surroundings) (args : List String) (i : Invocation),
      Invocation.ofArguments args = .ok i → Finds s i c →
      (∀ package kind, i.command = .types package kind → (run s args).exit = 0 ∧
        (run s args).stdout = Report.types (mannerOf s i) (listed c package kind) ∧
        Lists (mannerOf s i) (listed c package kind) (run s args).stdout ∧
        namesPrinted (mannerOf s i) (run s args).stdout =
          (listed c package kind).map (fun d => d.qualifiedName.display) ∧
        listed c package kind = c.types.filter (fun d =>
          decide ((∀ p ∈ package, d.package = p) ∧ ∀ k ∈ kind, d.kind = k)) ∧
        ∀ d ∈ listed c package kind, d ∈ c.types) ∧
      (∀ d ∈ c.types, i.command = .describe d.qualifiedName.display →
        (run s args).exit = 0 ∧ (run s args).stdout = Report.detail (mannerOf s i) d ∧
        nameShown (mannerOf s i) (run s args).stdout = some d.qualifiedName.display) ∧
      (∀ text, i.command = .describe text → (∀ d ∈ c.types, d.qualifiedName.display ≠ text) →
        (run s args).exit = 1) := by
  refine ⟨fun text d => Catalog.bind_parse?_eq_some_iff,
    fun i j d d' hi hj h => Catalog.eq_of_display_eq hi hj h,
    fun d _ path hp hd => ofArguments_describe hp hd (isDashed_display d),
    fun s args i ha hf => ?_⟩
  rw [run_of_ofArguments ha]
  refine ⟨fun package kind hi => ?_, fun d hd hi => ?_, fun text hi h => ?_⟩
  · have listing : answer (mannerOf s i) i.path c i.command =
        .ok (0, Report.types (mannerOf s i) (listed c package kind)) := by rw [hi, answer]
    obtain ⟨exit, stdout⟩ := hf.run_eq listing
    have filtered := listed_eq_filter c package kind
    rw [stdout]
    exact ⟨exit, rfl, lists_types _ _, namesPrinted_types _ _, filtered,
      fun d hd => (List.mem_filter.mp (filtered ▸ hd)).1⟩
  · have found : (QualifiedName.parse? d.qualifiedName.display).bind c.find? = some d :=
      Catalog.bind_parse?_eq_some_iff.mpr ⟨hd, rfl⟩
    obtain ⟨exit, stdout⟩ := hf.run_eq (hi ▸ answer_describe_of_some found)
    rw [stdout]
    exact ⟨exit, rfl, nameShown_detail _ d⟩
  · refine hf.exit_describe_of_none hi (Option.eq_none_iff_forall_ne_some.mpr fun d hd => ?_)
    obtain ⟨mem, same⟩ := Catalog.bind_parse?_eq_some_iff.mp hd
    exact h d mem same

/-- A snapshot with one type. -/
def leafText : String :=
  "\x7b\"documents\": [], \"modules\": [], \"packages\": [\"tree\"], \"types\": [\x7b" ++
    "\"name\": \"Leaf\", \"packageName\": \"tree\", \"type\": \"Enum\"\x7d]\x7d"

set_option maxRecDepth 2000 in
/-- The type is listed and shown under its printed name, and nothing is under another text. -/
theorem printedNames_of_leaf :
    ∃ c : Catalog, c.types = [Catalog.leaf] ∧
      (QualifiedName.parse? "tree.Leaf").bind c.find? = some Catalog.leaf ∧
      (run (oneFile leafText) ["types", "tree.js"]).stdout = "Enum          tree.Leaf\n" ∧
      namesPrinted ⟨false, false⟩ (run (oneFile leafText) ["types", "tree.js"]).stdout =
        ["tree.Leaf"] ∧
      namesPrinted ⟨true, false⟩ (run (oneFile leafText) ["types", "tree.js", "--json"]).stdout =
        ["tree.Leaf"] ∧
      (run (oneFile leafText) ["show", "tree.js", "tree.Leaf"]).exit = 0 ∧
      nameShown ⟨false, false⟩ (run (oneFile leafText) ["show", "tree.js", "tree.Leaf"]).stdout =
        some "tree.Leaf" ∧
      (run (oneFile leafText) ["show", "tree.js", "tree..Leaf"]).exit = 1 := by
  obtain ⟨v, hr⟩ : ∃ v, Snapshot.read leafText = .ok v := ⟨_, rfl⟩
  obtain ⟨c, hl, types⟩ : ∃ c, (Snapshot.load {} v).outcome = .ok c ∧
      c.types = [Catalog.leaf] := by
    cases hr
    exact ⟨_, rfl, rfl⟩
  have found (json : Bool) (command : Command) : Finds (oneFile leafText)
      ⟨none, 0, json, "tree.js", command⟩ c :=
    ⟨{}, settingsOf_eq_default rfl rfl, catalogOf_eq_ok_iff.mpr ⟨leafText, v, rfl, hr, hl⟩⟩
  have all : Invocation.ofArguments ["types", "tree.js"] =
      .ok ⟨none, 0, false, "tree.js", .types none none⟩ := rfl
  have allJson : Invocation.ofArguments ["types", "tree.js", "--json"] =
      .ok ⟨none, 0, true, "tree.js", .types none none⟩ := rfl
  have asked : Invocation.ofArguments ["show", "tree.js", "tree..Leaf"] =
      .ok ⟨none, 0, false, "tree.js", .describe "tree..Leaf"⟩ := rfl
  have mem : Catalog.leaf ∈ c.types := by
    rw [types]
    exact List.mem_singleton_self _
  have listing : listed c none none = [Catalog.leaf] := types
  obtain ⟨finds, -, accepted, runs⟩ := printedNames_exact c
  obtain ⟨-, stdout, -, names, -⟩ := (runs _ _ _ all (found _ _)).1 none none rfl
  obtain ⟨-, -, -, namesJson, -⟩ := (runs _ _ _ allJson (found _ _)).1 none none rfl
  obtain ⟨exit, -, shown⟩ :=
    (runs _ _ _ (accepted _ mem "tree.js" (by decide) rfl) (found _ _)).2.1 _ mem rfl
  have other : ∀ d ∈ c.types, d.qualifiedName.display ≠ "tree..Leaf" := by
    rw [types, List.forall_mem_singleton]
    decide
  rw [listing] at stdout names namesJson
  exact ⟨c, types, (finds _ _).mpr ⟨mem, rfl⟩, stdout.trans (by decide), names, namesJson, exit,
    shown, (runs _ _ _ asked (found _ _)).2.2 _ rfl other⟩

end Inspect
end TypeCatalog
