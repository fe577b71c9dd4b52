import TypeCatalog.Proofs.Snapshot.Acceptance
import Std.Data.String.ToNat

/-! # The first defect of a snapshot

A snapshot may have many defects at once.  `FirstDefect` says which of them counts: each
constructor states one defect together with the absence of all that are looked for before it, and
nothing about what comes later.  Loading fails with an error iff this is the error of the first
defect (`load_eq_error_iff`), and an error of an entry does not depend on the entries behind it. -/

namespace TypeCatalog

/-! ### Places -/

theorem toList_elementPlace (field : String) (i : Nat) :
    (elementPlace field i).toList = field.toList ++ '[' :: (i.repr.toList ++ [']']) := by
  simp [elementPlace, toString]

theorem elementPlace_injective {field : String} {i j : Nat}
    (h : elementPlace field i = elementPlace field j) : i = j := by
  have h' := congrArg String.toList h
  simp only [toList_elementPlace, List.append_cancel_left_eq, List.cons.injEq,
    List.append_cancel_right_eq, true_and] at h'
  exact Nat.repr_injective (String.toList_injective h')

theorem elementPlace_packages_ne_types (i j : Nat) :
    elementPlace "packages" i ≠ elementPlace "types" j := by
  intro h
  have h' := congrArg (fun s : String => s.toList.head?) h
  simp [toList_elementPlace] at h'

theorem ne_elementPlace_types (i : Nat) : "$" ≠ elementPlace "types" i := by
  intro h
  have h' := congrArg (fun s : String => s.toList.head?) h
  simp [toList_elementPlace] at h'

end TypeCatalog

namespace TypeCatalog.Snapshot

/-! ### The defect that counts -/

/-- The element at position `i` of the type list is the first thing that is wrong. -/
structure FailsAtEntry (settings : Settings) (root : Fields Json) (items : List Json) (i : Nat)
    (e : LoadError) : Prop where
  keys : KeysRecognized settings root
  documents : ∃ documents, DocumentsAt settings root documents
  modules : ∃ modules, root.get? "modules" = some (.arr modules)
  packages : ∃ names : List String, root.get? "packages" = some (.arr (names.map .str))
  types : root.get? "types" = some (.arr items)
  earlier : ∀ item ∈ items.take i, WellFormedItem item
  refused : ∃ item, items[i]? = some item ∧ ItemRefused i item e

/-- The first thing that is wrong with a snapshot. -/
inductive FirstDefect (settings : Settings) : Json → LoadError → Prop
  | shape {snapshot : Json} {e : LoadError} (refused : ShapeRefused settings snapshot e) :
      FirstDefect settings snapshot e
  | package {root : Fields Json} {s : Shape} {i : Nat} {item : Json}
      (lists : ListsAt settings root s) (element : s.packages[i]? = some item)
      (other : ∀ t, item ≠ .str t) (earlier : ∀ x ∈ s.packages.take i, ∃ t, x = .str t) :
      FirstDefect settings (.obj root) (.malformed (elementPlace "packages" i) .notString)
  | entry {root : Fields Json} {items : List Json} {i : Nat} {e : LoadError}
      (fails : FailsAtEntry settings root items i e) : FirstDefect settings (.obj root) e
  | assembly {root : Fields Json} {s : Shape} {names : List String} {ds : List Descriptor}
      {e : LoadError} (lists : ListsAt settings root s) (packages : s.packages = names.map .str)
      (entries : List.Forall₂ (DescribesItem settings) s.types ds)
      (refused : Catalog.assemble s.documents s.modules names ds = .error e) :
      FirstDefect settings (.obj root) e

/-- The error is one of the element at position `i` of the type list. -/
def ConcernsEntry (i : Nat) : LoadError → Prop
  | .malformed field reason => field = elementPlace "types" i ∧ reason = .notObject
  | .invalid d => d.location = elementPlace "types" i
  | _ => False

theorem load_eq_error_iff_of_shape {settings : Settings} {snapshot : Json} {e : LoadError} :
    (load settings snapshot).outcome = .error e ↔
      (shape settings snapshot).outcome = .error e ∨
      ∃ root s, snapshot = .obj root ∧ ListsAt settings root s ∧
        (packageNames 0 s.packages = .error e ∨
          ∃ names : List String, s.packages = names.map .str ∧
            (typesFrom settings 0 s.types = .error e ∨
              ∃ ds, List.Forall₂ (DescribesItem settings) s.types ds ∧
                Catalog.assemble s.documents s.modules names ds = .error e)) := by
  simp only [outcome_load, bind_eq_error_iff, shape_eq_ok_iff, packageNames_eq_ok_iff,
    typesFrom_eq_ok_iff]
  refine or_congr_right ?_
  constructor
  · rintro ⟨s, ⟨root, hr, hl⟩, h⟩
    exact ⟨root, s, hr, hl, h⟩
  · rintro ⟨root, s, hr, hl, h⟩
    exact ⟨s, ⟨root, hr, hl⟩, h⟩

theorem ListsAt.failsAtEntry {settings : Settings} {root : Fields Json} {s : Shape}
    {names : List String} {e : LoadError} (hl : ListsAt settings root s)
    (hp : s.packages = names.map .str) (h : typesFrom settings 0 s.types = .error e) :
    ∃ i, FailsAtEntry settings root s.types i e := by
  obtain ⟨i, item, hi, hr, hw⟩ := typesFrom_eq_error_iff.mp h
  rw [Nat.zero_add] at hr
  exact ⟨i, hl.keys, ⟨_, hl.documents⟩, ⟨_, hl.modules⟩, ⟨names, hp ▸ hl.packages⟩, hl.types, hw,
    item, hi, hr⟩

theorem FailsAtEntry.load_eq_error {settings : Settings} {root : Fields Json}
    {items : List Json} {i : Nat} {e : LoadError} (h : FailsAtEntry settings root items i e) :
    (load settings (.obj root)).outcome = .error e := by
  obtain ⟨documents, hd⟩ := h.documents
  obtain ⟨modules, hm⟩ := h.modules
  obtain ⟨names, hp⟩ := h.packages
  obtain ⟨item, hi, hr⟩ := h.refused
  refine load_eq_error_iff_of_shape.mpr (.inr ⟨root, ⟨documents, modules, names.map .str, items⟩,
    rfl, ⟨h.keys, hd, hm, hp, h.types⟩, .inr ⟨names, rfl, .inl ?_⟩⟩)
  exact typesFrom_eq_error_iff.mpr ⟨i, item, hi, by rwa [Nat.zero_add], h.earlier⟩

theorem load_eq_error_iff {settings : Settings} {snapshot : Json} {e : LoadError}
    (h : snapshot.Normal) :
    (load settings snapshot).outcome = .error e ↔ FirstDefect settings snapshot e := by
  constructor
  · intro hl
    rcases load_eq_error_iff_of_shape.mp hl with hs | ⟨root, s, rfl, hs, hp | ⟨names, hp, h⟩⟩
    · exact .shape ((shape_eq_error_iff h).mp hs)
    · obtain ⟨i, item, hi, hn, hw, rfl⟩ := packageNames_eq_error_iff.mp hp
      rw [Nat.zero_add]
      exact .package hs hi hn hw
    · rcases h with ht | ⟨ds, hds, ha⟩
      · obtain ⟨i, hf⟩ := hs.failsAtEntry hp ht
        exact .entry hf
      · exact .assembly hs hp hds ha
  · intro hf
    cases hf with
    | shape refused =>
        exact load_eq_error_iff_of_shape.mpr (.inl ((shape_eq_error_iff h).mpr refused))
    | @package root s i item lists element other earlier =>
        refine load_eq_error_iff_of_shape.mpr (.inr ⟨root, s, rfl, lists, .inl ?_⟩)
        exact packageNames_eq_error_iff.mpr ⟨i, item, element, other, earlier, by rw [Nat.zero_add]⟩
    | entry fails => exact fails.load_eq_error
    | assembly lists packages entries refused =>
        exact load_eq_error_iff_of_shape.mpr
          (.inr ⟨_, _, rfl, lists, .inr ⟨_, packages, .inr ⟨_, entries, refused⟩⟩⟩)

/-! ### Errors of entries -/

theorem EntryRefused.name_eq_some_iff {entry : Fields Json} {name : Option String}
    {reason : Reason} (h : EntryRefused entry name reason) (n : String) :
    name = some n ↔ entry.get? "name" = some (.str n) := by
  have named {m : String} (hm : entry.get? "name" = some (.str m)) :
      some m = some n ↔ entry.get? "name" = some (.str n) := by
    simp [hm]
  cases h with
  | name refused =>
      refine iff_of_false (by simp) fun hn => ?_
      rcases refused with ⟨absent⟩ | ⟨present, other⟩
      · rw [hn] at absent
        cases absent
      · rw [hn] at present
        cases present
        exact other n rfl
  | package name => exact named name
  | kind name => exact named name
  | modifiers name => exact named name
  | unknownKind name => exact named name
  | typeName name => exact named name
  | packageName name => exact named name

theorem ShapeRefused.not_concernsEntry {settings : Settings} {snapshot : Json} {e : LoadError}
    (h : ShapeRefused settings snapshot e) (i : Nat) : ¬ ConcernsEntry i e := by
  have list {root : Fields Json} {key : String} (h : ListRefused root key e) :
      ¬ ConcernsEntry i e := by
    cases h <;> rintro ⟨-, ⟨⟩⟩
  cases h with
  | root => exact fun hc => ne_elementPlace_types i hc.1
  | key => rintro ⟨-, ⟨⟩⟩
  | documents _ refused => cases refused <;> rintro ⟨-, ⟨⟩⟩
  | modules _ _ refused => exact list refused
  | packages _ _ _ refused => exact list refused
  | types _ _ _ _ refused => exact list refused

theorem ItemRefused.eq_of_concernsEntry {i j : Nat} {item : Json} {e : LoadError}
    (h : ItemRefused i item e) (hc : ConcernsEntry j e) : i = j := by
  cases h with
  | notObject => exact elementPlace_injective hc.1
  | entry => exact elementPlace_injective hc

/-- An error that is located at an entry comes from the check of this entry. -/
theorem FirstDefect.failsAtEntry {settings : Settings} {snapshot : Json} {e : LoadError}
    {i : Nat} (h : FirstDefect settings snapshot e) (hc : ConcernsEntry i e) :
    ∃ root items, snapshot = .obj root ∧ FailsAtEntry settings root items i e := by
  cases h with
  | shape refused => exact absurd hc (refused.not_concernsEntry i)
  | package => exact absurd hc.2 (by simp)
  | @entry root items j e fails =>
      obtain ⟨item, -, hr⟩ := fails.refused
      obtain rfl := hr.eq_of_concernsEntry hc
      exact ⟨root, items, rfl, fails⟩
  | assembly _ _ _ refused =>
      rcases Catalog.assemble_error_cases refused with
        ⟨j, reason, rfl⟩ | ⟨_, _, _, _, rfl⟩ | ⟨_, _, _, rfl⟩
      · exact absurd hc (elementPlace_packages_ne_types j i)
      · exact hc.elim
      · exact hc.elim

theorem FailsAtEntry.replace_later {settings : Settings} {root : Fields Json}
    {items : List Json} {i : Nat} {e : LoadError} (h : FailsAtEntry settings root items i e)
    (later : List Json) :
    FailsAtEntry settings (root.insert "types" (.arr (items.take (i + 1) ++ later)))
      (items.take (i + 1) ++ later) i e := by
  obtain ⟨item, hi, hr⟩ := h.refused
  have hlt : i < items.length := (List.getElem?_eq_some_iff.mp hi).1
  have hlen : i < (items.take (i + 1)).length := by
    rw [List.length_take]
    omega
  generalize hnew : items.take (i + 1) ++ later = items'
  have htake : items'.take i = items.take i := by
    rw [← hnew, List.take_append_of_le_length hlen.le, List.take_take]
    congr 1
    omega
  have hget : items'[i]? = items[i]? := by
    rw [← hnew, List.getElem?_append_left hlen, List.getElem?_take_of_succ]
  have other {key : String} (hk : key ≠ "types") :
      (root.insert "types" (.arr items')).get? key = root.get? key := by
    rw [Fields.get?_insert, if_neg hk.symm]
  have same : (root.insert "types" (.arr items')).get? "types" = some (.arr items') := by
    rw [Fields.get?_insert, if_pos rfl]
  have present : presentDocumentKeys settings (root.insert "types" (.arr items')) =
      presentDocumentKeys settings root := by
    refine List.filter_congr fun key _ => ?_
    by_cases hk : key = "types"
    · rw [Fields.hasKey, Fields.hasKey, hk, same, h.types]
      rfl
    · rw [Fields.hasKey, Fields.hasKey, other hk]
  refine ⟨fun hs key hk => ?_, ?_, ?_, ?_, same, ?_, item, hget.trans hi, hr⟩
  · rcases Fields.mem_keys_insert.mp hk with rfl | hk
    · exact .inr (.inr (.inl rfl))
    · exact h.keys hs key hk
  · obtain ⟨documents, key, hp, hg⟩ := h.documents
    -- the aliases may name `types`, and then the documents are replaced as well
    by_cases hk : key = "types"
    · exact ⟨items', key, present.trans hp, hk ▸ same⟩
    · exact ⟨documents, key, present.trans hp, (other hk).trans hg⟩
  · rw [other (by decide)]
    exact h.modules
  · rw [other (by decide)]
    exact h.packages
  · rw [htake]
    exact h.earlier

/-- **A failed load reports the first defect.**  If the error is one of the entry at position `i`,
then every earlier entry is well formed, the type is named iff the name of the entry is a text, and
the error stays the same whatever stands behind the entry. -/
theorem load_reports_firstDefect (settings : Settings) (snapshot : Json) (h : snapshot.Normal)
    (e : LoadError) :
    ((load settings snapshot).outcome = .error e ↔ FirstDefect settings snapshot e) ∧
    ∀ i, ConcernsEntry i e → (load settings snapshot).outcome = .error e →
      ∃ (root : Fields Json) (items : List Json), snapshot = .obj root ∧
        root.get? "types" = some (.arr items) ∧
        (∀ item ∈ items.take i, WellFormedItem item) ∧
        (∀ d, e = .invalid d → ∀ n, d.typeName = some n ↔
          ∃ item, items[i]? = some item ∧ item.field? "name" = some (.str n)) ∧
        ∀ later, (load settings (.obj (root.insert "types"
          (.arr (items.take (i + 1) ++ later))))).outcome = .error e := by
  refine ⟨load_eq_error_iff h, fun i hc hl => ?_⟩
  obtain ⟨root, items, rfl, hf⟩ := ((load_eq_error_iff h).mp hl).failsAtEntry hc
  refine ⟨root, items, rfl, hf.types, hf.earlier, ?_, fun later =>
    (hf.replace_later later).load_eq_error⟩
  rintro d rfl n
  obtain ⟨item, hi, hr⟩ := hf.refused
  cases hr with
  | entry refused => simpa [hi, Json.field?] using refused.name_eq_some_iff n

/-- Three entries, of which the second has a bad name and the third is no object. -/
def brokenEntries : List Json :=
  [.obj [("name", .str "Node"), ("packageName", .str "tree"), ("type", .str "Class")],
    .obj [("name", .str "1st"), ("packageName", .str "tree"), ("type", .str "Class")],
    .null]

/-- A snapshot with these entries and nothing else wrong. -/
def brokenRoot : Fields Json :=
  [("docs", .arr []), ("modules", .arr []), ("packages", .arr [.str "tree"]),
    ("types", .arr brokenEntries)]

/-- The error of the second entry. -/
def brokenEntriesError : LoadError :=
  .invalid ⟨"types[1]", some "1st", .badTypeName "1st"⟩

/-- The second entry decides, and the third may be replaced. -/
theorem load_reports_second_entry :
    Json.Normal (.obj brokenRoot) ∧ ConcernsEntry 1 brokenEntriesError ∧
      (load {} (.obj brokenRoot)).outcome = .error brokenEntriesError ∧
      ∀ later, (load {} (.obj (brokenRoot.insert "types"
        (.arr (brokenEntries.take 2 ++ later))))).outcome = .error brokenEntriesError := by
  have rootKeys : ["docs", "modules", "packages", "types"].Pairwise (· < ·) := by decide
  have entryKeys : ["name", "packageName", "type"].Pairwise (· < ·) := by decide
  have entry : ∀ name : String, Json.Normal
      (.obj [("name", .str name), ("packageName", .str "tree"), ("type", .str "Class")]) :=
    fun name => ⟨entryKeys, trivial, trivial, trivial, trivial⟩
  have normal : Json.Normal (.obj brokenRoot) :=
    ⟨rootKeys, trivial, trivial, ⟨trivial, trivial⟩, ⟨entry _, entry _, trivial, trivial⟩, trivial⟩
  have located : ConcernsEntry 1 brokenEntriesError := rfl
  have failed : (load {} (.obj brokenRoot)).outcome = .error brokenEntriesError := rfl
  refine ⟨normal, located, failed, ?_⟩
  obtain ⟨root, items, hr, ht, -, -, hl⟩ :=
    (load_reports_firstDefect {} _ normal _).2 1 located failed
  cases hr
  cases ht
  exact hl

end TypeCatalog.Snapshot
