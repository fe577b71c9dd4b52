import TypeCatalog.Proofs.Snapshot.FirstDefect
import TypeCatalog.Proofs.Snapshot.Stages

/-! # What the events of a load tell

The events tell how far a load came, also when it failed, and the error tells the same: what
concerns the top level, an element, or the lists taken together is refused after no stage, after
the first, and after the second (`Progress.error_cases`).  With the lengths that the events carry
this makes them a faithful trace of the load (`load_faithfulTrace`). -/

namespace TypeCatalog.Snapshot

variable {settings : Settings} {snapshot : Json}

/-! ### What an error concerns -/

/-- The error is one of the top level. -/
inductive ConcernsTop : LoadError → Prop
  | root : ConcernsTop (.malformed "$" .notObject)
  | missing (field : String) : ConcernsTop (.malformed field .missing)
  | notArray (field : String) : ConcernsTop (.malformed field .notArray)
  | unrecognized (field : String) : ConcernsTop (.malformed field .unrecognized)
  | doubled (field first : String) : ConcernsTop (.malformed field (.repeatsDocuments first))

/-- The error is one of a single element of the package list or the type list. -/
def ConcernsElement (e : LoadError) : Prop :=
  (∃ i, e = .malformed (elementPlace "packages" i) .notString) ∨ ∃ i, ConcernsEntry i e

/-- The error is one of the packages and types taken together. -/
inductive ConcernsWhole : LoadError → Prop
  | package {d : EntryDefect} {i : Nat} (located : d.location = elementPlace "packages" i) :
      ConcernsWhole (.invalid d)
  | duplicate (package name : String) (first duplicate : Nat) :
      ConcernsWhole (.duplicateType package name first duplicate)
  | undeclared (package typeName : String) (index : Nat) :
      ConcernsWhole (.undeclaredPackage package typeName index)

theorem ConcernsTop.not_concernsElement {e : LoadError} (h : ConcernsTop e) :
    ¬ ConcernsElement e := by
  cases h with
  | root =>
      rintro (⟨i, h⟩ | ⟨i, located, -⟩)
      · cases (LoadError.malformed.inj h).2
      · exact ne_elementPlace_types i located
  | _ => rintro (⟨i, ⟨⟩⟩ | ⟨i, -, ⟨⟩⟩)

theorem ConcernsTop.not_concernsWhole {e : LoadError} (h : ConcernsTop e) :
    ¬ ConcernsWhole e := by
  cases h <;> exact nofun

theorem ConcernsWhole.not_concernsElement {e : LoadError} (h : ConcernsWhole e) :
    ¬ ConcernsElement e := by
  cases h with
  | @package d i located =>
      rintro (⟨j, ⟨⟩⟩ | ⟨j, located'⟩)
      exact elementPlace_packages_ne_types i j (located.symm.trans located')
  | duplicate => rintro (⟨i, ⟨⟩⟩ | ⟨i, ⟨⟩⟩)
  | undeclared => rintro (⟨i, ⟨⟩⟩ | ⟨i, ⟨⟩⟩)

theorem ListRefused.concernsTop {root : Fields Json} {key : String} {e : LoadError}
    (h : ListRefused root key e) : ConcernsTop e := by
  cases h with
  | missing => exact .missing key
  | notArray => exact .notArray key

theorem DocumentsRefused.concernsTop {root : Fields Json} {e : LoadError}
    (h : DocumentsRefused settings root e) : ConcernsTop e := by
  cases h with
  | missing => exact .missing "documents"
  | @doubled key other => exact .doubled other key
  | @notArray key => exact .notArray key

theorem concernsTop_of_checkKeys {root : Fields Json} {e : LoadError}
    (h : checkKeys settings root = .error e) : ConcernsTop e := by
  unfold checkKeys at h
  split at h
  · split at h
    · cases h
      exact .unrecognized _
    · cases h
  · cases h

theorem concernsTop_of_shape {e : LoadError}
    (h : (shape settings snapshot).outcome = .error e) : ConcernsTop e := by
  simp only [outcome_shape, bind_eq_error_iff, rootFields_eq_error_iff, documentList_eq_error_iff,
    listAt_eq_error_iff] at h
  rcases h with ⟨-, rfl⟩ | ⟨root, -, hk | ⟨_, -, h⟩⟩
  · exact .root
  · exact concernsTop_of_checkKeys hk
  · rcases h with hd | ⟨_, -, hm | ⟨_, -, hp | ⟨_, -, ht | ⟨_, -, h⟩⟩⟩⟩
    · exact hd.concernsTop
    · exact hm.concernsTop
    · exact hp.concernsTop
    · exact ht.concernsTop
    · cases h

theorem concernsElement_of_packageNames {items : List Json} {e : LoadError}
    (h : packageNames 0 items = .error e) : ConcernsElement e := by
  obtain ⟨i, -, -, -, -, rfl⟩ := packageNames_eq_error_iff.mp h
  exact .inl ⟨_, rfl⟩

theorem concernsElement_of_typesFrom {items : List Json} {e : LoadError}
    (h : typesFrom settings 0 items = .error e) : ConcernsElement e := by
  obtain ⟨i, item, -, refused, -⟩ := typesFrom_eq_error_iff.mp h
  cases refused with
  | notObject => exact .inr ⟨_, rfl, rfl⟩
  | entry => exact .inr ⟨_, rfl⟩

theorem concernsWhole_of_assemble {documents modules : List Json} {packages : List String}
    {types : List Descriptor} {e : LoadError}
    (h : Catalog.assemble documents modules packages types = .error e) : ConcernsWhole e := by
  rcases Catalog.assemble_error_cases h with
    ⟨i, reason, rfl⟩ | ⟨package, name, i, j, rfl⟩ | ⟨package, name, i, rfl⟩
  · exact .package rfl
  · exact .duplicate package name i j
  · exact .undeclared package name i

/-- What the error concerns and which stages the load has passed go together. -/
theorem Progress.error_cases {later : List Event} {e : LoadError}
    (h : Progress settings snapshot later (.error e)) :
    (ConcernsTop e ∧ later = []) ∨
      ∃ s, HasLists settings snapshot s ∧
        ((ConcernsElement e ∧ later = (stages s).take 1) ∨
          (ConcernsWhole e ∧ later = (stages s).take 2)) := by
  cases h with
  | shape refused => exact .inl ⟨concernsTop_of_shape refused, rfl⟩
  | @packages s _ lists refused =>
      exact .inr ⟨s, lists, .inl ⟨concernsElement_of_packageNames refused, rfl⟩⟩
  | @types s _ lists refused =>
      exact .inr ⟨s, lists, .inl ⟨concernsElement_of_typesFrom refused, rfl⟩⟩
  | @assembly s _ _ _ lists packages entries refused =>
      exact .inr ⟨s, lists, .inr ⟨concernsWhole_of_assemble refused, rfl⟩⟩

/-! ### What the events say -/

theorem forall_exists_str_iff {items : List Json} :
    (∀ x ∈ items, ∃ name, x = .str name) ↔ ∃ names : List String, items = names.map .str := by
  constructor
  · intro h
    cases hn : packageNames 0 items with
    | ok names => exact ⟨names, packageNames_eq_ok_iff.mp hn⟩
    | error e =>
        obtain ⟨i, item, hi, other, -, -⟩ := packageNames_eq_error_iff.mp hn
        obtain ⟨name, hs⟩ := h item (List.mem_of_getElem? hi)
        exact absurd hs (other name)
  · rintro ⟨names, rfl⟩ x hx
    obtain ⟨name, -, rfl⟩ := List.mem_map.mp hx
    exact ⟨name, rfl⟩

theorem level_eq_info_iff {event : Event} :
    event.level = .info ↔ ∃ packages types, event = .loaded packages types := by
  cases event <;> simp [Event.level]

/-- Only an alias is warned of. -/
theorem Warns.eq_aliasUsed {warned : List Event} (h : Warns settings snapshot warned)
    {event : Event} (hm : event ∈ warned) : ∃ key, event = .aliasUsed key := by
  cases h with
  | @aliased key picked other => exact ⟨key, List.mem_singleton.mp hm⟩
  | silent => cases hm

section
variable {later : List Event} {outcome : Except LoadError Catalog}

/-- The stages passed are the first few for the four lists, and the first one is among them. -/
theorem Progress.eq_take (h : Progress settings snapshot later outcome) {s : Shape}
    (lists : HasLists settings snapshot s) : ∃ n, later = (stages s).take (n + 1) := by
  cases h with
  | shape refused =>
      rw [shape_eq_ok_iff.mpr lists] at refused
      cases refused
  | packages lists' => exact ⟨0, by rw [lists.unique lists']⟩
  | types lists' => exact ⟨0, by rw [lists.unique lists']⟩
  | assembly lists' => exact ⟨1, by rw [lists.unique lists']⟩
  | loaded lists' => exact ⟨2, by rw [lists.unique lists']; rfl⟩

theorem Progress.prefix_stages (h : Progress settings snapshot later outcome) :
    ∃ s, later <+: stages s := by
  cases h with
  | shape => exact ⟨⟨[], [], [], []⟩, List.nil_prefix⟩
  | @packages s => exact ⟨s, List.take_prefix 1 _⟩
  | @types s => exact ⟨s, List.take_prefix 1 _⟩
  | @assembly s => exact ⟨s, List.take_prefix 2 _⟩
  | @loaded s => exact ⟨s, List.prefix_rfl⟩

theorem Progress.shapeValidated_mem_iff (h : Progress settings snapshot later outcome)
    {documents modules packages types : Nat} :
    .shapeValidated documents modules packages types ∈ later ↔
      ∃ s, HasLists settings snapshot s ∧ documents = s.documents.length ∧
        modules = s.modules.length ∧ packages = s.packages.length ∧ types = s.types.length := by
  constructor
  · intro hm
    have found : ∃ s, HasLists settings snapshot s ∧
        .shapeValidated documents modules packages types ∈ stages s := by
      cases h with
      | shape => cases hm
      | packages lists => exact ⟨_, lists, List.mem_of_mem_take hm⟩
      | types lists => exact ⟨_, lists, List.mem_of_mem_take hm⟩
      | assembly lists => exact ⟨_, lists, List.mem_of_mem_take hm⟩
      | loaded lists => exact ⟨_, lists, hm⟩
    obtain ⟨s, lists, hm⟩ := found
    exact ⟨s, lists, by simpa [stages] using hm⟩
  · rintro ⟨s, lists, rfl, rfl, rfl, rfl⟩
    obtain ⟨n, rfl⟩ := h.eq_take lists
    exact List.mem_cons_self

theorem Progress.typesValidated_mem_iff (h : Progress settings snapshot later outcome)
    {types : Nat} :
    .typesValidated types ∈ later ↔
      ∃ s, HasLists settings snapshot s ∧ (∀ x ∈ s.packages, ∃ name, x = .str name) ∧
        (∀ item ∈ s.types, WellFormedItem item) ∧ types = s.types.length := by
  constructor
  · intro hm
    cases h with
    | shape => cases hm
    | packages => simp [stages] at hm
    | types => simp [stages] at hm
    | @assembly s names ds e lists packages entries =>
        exact ⟨s, lists, forall_exists_str_iff.mpr ⟨names, packages⟩,
          (forall_wellFormedItem_iff settings).mpr ⟨ds, entries⟩, by simpa [stages] using hm⟩
    | @loaded s c lists _ _ packages entries =>
        exact ⟨s, lists, forall_exists_str_iff.mpr ⟨_, packages⟩,
          (forall_wellFormedItem_iff settings).mpr ⟨_, entries⟩, by simpa [stages] using hm⟩
  · rintro ⟨s, lists, texts, wellFormed, rfl⟩
    obtain ⟨names, packages⟩ := forall_exists_str_iff.mp texts
    obtain ⟨ds, entries⟩ := (forall_wellFormedItem_iff settings).mp wellFormed
    cases h with
    | shape refused =>
        rw [shape_eq_ok_iff.mpr lists] at refused
        cases refused
    | packages lists' refused =>
        rw [lists'.unique lists, packageNames_eq_ok_iff.mpr packages] at refused
        cases refused
    | types lists' refused =>
        rw [lists'.unique lists, typesFrom_eq_ok_iff.mpr entries] at refused
        cases refused
    | assembly lists' =>
        rw [lists'.unique lists]
        simp [stages]
    | loaded lists' =>
        rw [lists'.unique lists]
        simp [stages]

theorem Progress.loaded_mem_iff (h : Progress settings snapshot later outcome)
    {packages types : Nat} :
    .loaded packages types ∈ later ↔
      ∃ c, outcome = .ok c ∧ packages = c.packages.length ∧ types = c.size := by
  cases h with
  | shape => simp
  | packages => simp [stages]
  | types => simp [stages]
  | assembly => simp [stages]
  | @loaded s c lists _ _ texts entries =>
      simp [stages, texts, entries.length_eq, Catalog.size]

end

/-- The events that matter for debugging. -/
def debugEvents (events : List Event) : List Event :=
  events.filter (·.level = .debug)

/-- The events tell how far a load came, and its outcome tells the same. -/
structure FaithfulTrace (settings : Settings) (snapshot : Json) (events : List Event)
    (outcome : Except LoadError Catalog) : Prop where
  /-- After the warning, if any, come the first few of the stages. -/
  ordered : ∃ warned later s, events = warned ++ later ∧ Warns settings snapshot warned ∧
    later <+: stages s
  shapeValidated : ∀ documents modules packages types,
    .shapeValidated documents modules packages types ∈ events ↔
      ∃ s, HasLists settings snapshot s ∧ documents = s.documents.length ∧
        modules = s.modules.length ∧ packages = s.packages.length ∧ types = s.types.length
  typesValidated : ∀ types, .typesValidated types ∈ events ↔
    ∃ s, HasLists settings snapshot s ∧ (∀ x ∈ s.packages, ∃ name, x = .str name) ∧
      (∀ item ∈ s.types, WellFormedItem item) ∧ types = s.types.length
  loaded : ∀ packages types, .loaded packages types ∈ events ↔
    ∃ c, outcome = .ok c ∧ packages = c.packages.length ∧ types = c.size
  info : (∃ event ∈ events, event.level = .info) ↔ ∃ c, outcome = .ok c
  /-- The catalog is as large as the lists. -/
  sizes : ∀ c, outcome = .ok c → ∃ s, HasLists settings snapshot s ∧
    c.documents.length = s.documents.length ∧ c.modules.length = s.modules.length ∧
    c.packages.length = s.packages.length ∧ c.size = s.types.length
  classified : ∀ e, outcome = .error e → ConcernsTop e ∨ ConcernsElement e ∨ ConcernsWhole e
  top : ∀ e, outcome = .error e → ConcernsTop e → debugEvents events = []
  element : ∀ e, outcome = .error e → ConcernsElement e →
    ∃ s, HasLists settings snapshot s ∧ debugEvents events = (stages s).take 1
  whole : ∀ e, outcome = .error e → ConcernsWhole e →
    ∃ s, HasLists settings snapshot s ∧ debugEvents events = (stages s).take 2

theorem Progress.sizes {later : List Event} {c : Catalog}
    (h : Progress settings snapshot later (.ok c)) : ∃ s, HasLists settings snapshot s ∧
      c.documents.length = s.documents.length ∧ c.modules.length = s.modules.length ∧
      c.packages.length = s.packages.length ∧ c.size = s.types.length := by
  cases h with
  | @loaded s _ lists documents modules packages entries =>
      refine ⟨s, lists, by rw [documents], by rw [modules], ?_, entries.length_eq.symm⟩
      rw [packages, List.length_map]

theorem Progress.faithfulTrace {warned later : List Event} {outcome : Except LoadError Catalog}
    (hw : Warns settings snapshot warned) (h : Progress settings snapshot later outcome) :
    FaithfulTrace settings snapshot (warned ++ later) outcome := by
  -- what is warned of is no stage
  have mem_iff {event : Event} (other : ∀ key, event ≠ .aliasUsed key) :
      event ∈ warned ++ later ↔ event ∈ later := by
    rw [List.mem_append]
    refine or_iff_right fun hm => ?_
    obtain ⟨key, he⟩ := hw.eq_aliasUsed hm
    exact other key he
  have debug : debugEvents (warned ++ later) = debugEvents later := by
    unfold debugEvents
    rw [List.filter_append, List.filter_eq_nil_iff.mpr, List.nil_append]
    intro event hm
    obtain ⟨key, rfl⟩ := hw.eq_aliasUsed hm
    simp [Event.level]
  obtain ⟨s, hp⟩ := h.prefix_stages
  constructor
  case ordered => exact ⟨warned, later, s, rfl, hw, hp⟩
  case shapeValidated =>
    intro documents modules packages types
    rw [mem_iff (by simp)]
    exact h.shapeValidated_mem_iff
  case typesValidated =>
    intro types
    rw [mem_iff (by simp)]
    exact h.typesValidated_mem_iff
  case loaded =>
    intro packages types
    rw [mem_iff (by simp)]
    exact h.loaded_mem_iff
  case info =>
    constructor
    · rintro ⟨event, hm, hl⟩
      obtain ⟨packages, types, rfl⟩ := level_eq_info_iff.mp hl
      obtain ⟨c, hc, -⟩ := h.loaded_mem_iff.mp ((mem_iff (by simp)).mp hm)
      exact ⟨c, hc⟩
    · rintro ⟨c, hc⟩
      exact ⟨_, (mem_iff (by simp)).mpr (h.loaded_mem_iff.mpr ⟨c, hc, rfl, rfl⟩), rfl⟩
  case sizes =>
    rintro c rfl
    exact h.sizes
  case classified =>
    rintro e rfl
    rcases h.error_cases with ⟨ht, -⟩ | ⟨s, -, ⟨he, -⟩ | ⟨hc, -⟩⟩
    · exact .inl ht
    · exact .inr (.inl he)
    · exact .inr (.inr hc)
  case top =>
    rintro e rfl ht
    rw [debug]
    rcases h.error_cases with ⟨-, rfl⟩ | ⟨s, -, ⟨he, -⟩ | ⟨hc, -⟩⟩
    · rfl
    · exact absurd he ht.not_concernsElement
    · exact absurd hc ht.not_concernsWhole
  case element =>
    rintro e rfl he
    rw [debug]
    rcases h.error_cases with ⟨ht, -⟩ | ⟨s, lists, ⟨-, rfl⟩ | ⟨hc, -⟩⟩
    · exact absurd he ht.not_concernsElement
    · exact ⟨s, lists, rfl⟩
    · exact absurd he hc.not_concernsElement
  case whole =>
    rintro e rfl hc
    rw [debug]
    rcases h.error_cases with ⟨ht, -⟩ | ⟨s, lists, ⟨he, -⟩ | ⟨-, rfl⟩⟩
    · exact absurd hc ht.not_concernsWhole
    · exact absurd he hc.not_concernsElement
    · exact ⟨s, lists, rfl⟩

/-- **The events of a load are a faithful trace of how far it got.**  After the warning of an
alias, which comes iff one is picked, stand the first few of the stages, each with the lengths of
the lists; the stages passed decide what the error of a failed load can concern. -/
theorem load_faithfulTrace (settings : Settings) (snapshot : Json) :
    FaithfulTrace settings snapshot (load settings snapshot).events
      (load settings snapshot).outcome := by
  obtain ⟨later, he, hp⟩ := load_progress settings snapshot
  rw [he]
  exact hp.faithfulTrace warns_shape

/-- The alias is warned of although the load fails, after the first stage, at its only entry. -/
example : load {} (.obj [("docs", .arr []), ("modules", .arr []), ("packages", .arr [.str "tree"]),
      ("types", .arr [.null])]) =
    ⟨[.aliasUsed "docs", .shapeValidated 0 0 1 1], .error (.malformed "types[0]" .notObject)⟩ :=
  rfl

end TypeCatalog.Snapshot
