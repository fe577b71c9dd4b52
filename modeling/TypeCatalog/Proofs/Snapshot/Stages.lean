import TypeCatalog.Proofs.Snapshot.Acceptance

/-! # The stages of a load

A load warns of an alias as soon as it has picked the key of the document list, and then it notes
one event for each stage that it has passed: the four lists, the elements of two of them, the
catalog.  `Progress` says for each end that a load may come to which of these stages it has passed,
and every load comes to one of these ends (`load_progress`). -/

namespace TypeCatalog.Snapshot

open Traced (bind_of_ok bind_of_error events_bind_of_silent)

variable {settings : Settings} {snapshot : Json}

/-! ### The warning -/

/-- The keys are accepted, and this is the one under which the document list should stand. -/
def PicksDocuments (settings : Settings) (snapshot : Json) (key : String) : Prop :=
  ∃ root, snapshot = .obj root ∧ KeysRecognized settings root ∧
    presentDocumentKeys settings root = [key]

/-- What is warned of before the four lists are there. -/
inductive Warns (settings : Settings) (snapshot : Json) : List Event → Prop
  | aliased {key : String} (picked : PicksDocuments settings snapshot key)
      (other : key ≠ "documents") : Warns settings snapshot [.aliasUsed key]
  | silent (canonical : ∀ key, PicksDocuments settings snapshot key → key = "documents") :
      Warns settings snapshot []

theorem PicksDocuments.unique {key key' : String} (h : PicksDocuments settings snapshot key)
    (h' : PicksDocuments settings snapshot key') : key = key' := by
  obtain ⟨root, rfl, -, present⟩ := h
  obtain ⟨_, ⟨⟩, -, present'⟩ := h'
  rw [present] at present'
  exact (List.cons.inj present').1

theorem events_documentList {root : Fields Json} {key : String}
    (h : presentDocumentKeys settings root = [key]) :
    (documentList settings root).events = if key = "documents" then [] else [.aliasUsed key] := by
  unfold documentList
  rw [bind_of_ok (documentKey_eq_ok_iff.mpr h)]
  by_cases hk : key = "documents"
  · subst hk
    rfl
  · simp only [bne_iff_ne, ne_eq, hk, not_false_eq_true, if_true, if_false]
    rfl

theorem documentList_of_error {root : Fields Json} {e : LoadError}
    (h : documentKey settings root = .error e) : documentList settings root = ⟨[], .error e⟩ := by
  unfold documentList
  rw [bind_of_error h]
  rfl

theorem events_shape_of_picks {key : String} (h : PicksDocuments settings snapshot key) :
    (shape settings snapshot).events = if key = "documents" then [] else [.aliasUsed key] := by
  obtain ⟨root, rfl, keys, present⟩ := h
  unfold shape
  rw [bind_of_ok rfl, bind_of_ok (checkKeys_eq_ok_iff.mpr keys), events_bind_of_silent]
  · exact events_documentList present
  · intro documents
    rw [events_bind_of_silent]
    · rfl
    · intro modules
      rw [events_bind_of_silent]
      · rfl
      · intro packages
        rw [events_bind_of_silent]
        · rfl
        · intro types
          rfl

/-- Without a key for the document list nothing is warned of. -/
theorem events_shape_of_not_picks (h : ∀ key, ¬ PicksDocuments settings snapshot key) :
    (shape settings snapshot).events = [] := by
  unfold shape
  -- a key is picked unless one of the first three checks fails, and these note nothing
  cases hr : rootFields snapshot with
  | error e =>
      rw [bind_of_error rfl]
      rfl
  | ok root =>
      rw [bind_of_ok rfl]
      cases hk : checkKeys settings root with
      | error e =>
          rw [bind_of_error rfl]
          rfl
      | ok u =>
          rw [bind_of_ok rfl]
          cases hd : documentKey settings root with
          | error e =>
              rw [documentList_of_error hd, bind_of_error rfl]
              rfl
          | ok key =>
              have picked : PicksDocuments settings snapshot key :=
                ⟨root, rootFields_eq_ok_iff.mp hr, checkKeys_eq_ok_iff.mp hk,
                  documentKey_eq_ok_iff.mp hd⟩
              exact absurd picked (h key)

theorem warns_shape : Warns settings snapshot (shape settings snapshot).events := by
  by_cases h : ∃ key, PicksDocuments settings snapshot key
  · obtain ⟨key, picked⟩ := h
    rw [events_shape_of_picks picked]
    by_cases hk : key = "documents"
    · rw [if_pos hk]
      exact .silent fun key' picked' => (picked'.unique picked).trans hk
    · rw [if_neg hk]
      exact .aliased picked hk
  · rw [not_exists] at h
    rw [events_shape_of_not_picks h]
    exact .silent fun key picked => absurd picked (h key)

/-! ### The stages -/

/-- The snapshot is an object in which these four lists stand. -/
def HasLists (settings : Settings) (snapshot : Json) (s : Shape) : Prop :=
  ∃ root, snapshot = .obj root ∧ ListsAt settings root s

theorem HasLists.unique {s s' : Shape} (h : HasLists settings snapshot s)
    (h' : HasLists settings snapshot s') : s = s' := by
  have hs : (shape settings snapshot).outcome = .ok s := shape_eq_ok_iff.mpr h
  rw [shape_eq_ok_iff.mpr h'] at hs
  exact (Except.ok.inj hs).symm

/-- What is noted once the four lists are there, if nothing fails from then on. -/
def stages (s : Shape) : List Event :=
  [.shapeValidated s.documents.length s.modules.length s.packages.length s.types.length,
    .typesValidated s.types.length, .loaded s.packages.length s.types.length]

/-- The ends that a load may come to, each with the stages that it has passed. -/
inductive Progress (settings : Settings) (snapshot : Json) :
    List Event → Except LoadError Catalog → Prop
  | shape {e : LoadError} (refused : (shape settings snapshot).outcome = .error e) :
      Progress settings snapshot [] (.error e)
  | packages {s : Shape} {e : LoadError} (lists : HasLists settings snapshot s)
      (refused : packageNames 0 s.packages = .error e) :
      Progress settings snapshot ((stages s).take 1) (.error e)
  | types {s : Shape} {e : LoadError} (lists : HasLists settings snapshot s)
      (refused : typesFrom settings 0 s.types = .error e) :
      Progress settings snapshot ((stages s).take 1) (.error e)
  | assembly {s : Shape} {names : List String} {ds : List Descriptor} {e : LoadError}
      (lists : HasLists settings snapshot s) (packages : s.packages = names.map .str)
      (entries : List.Forall₂ (DescribesItem settings) s.types ds)
      (refused : Catalog.assemble s.documents s.modules names ds = .error e) :
      Progress settings snapshot ((stages s).take 2) (.error e)
  | loaded {s : Shape} {c : Catalog} (lists : HasLists settings snapshot s)
      (documents : c.documents = s.documents) (modules : c.modules = s.modules)
      (packages : s.packages = c.packages.map .str)
      (entries : List.Forall₂ (DescribesItem settings) s.types c.types) :
      Progress settings snapshot (stages s) (.ok c)

/-- A load goes through its stages until something is refused. -/
theorem load_progress (settings : Settings) (snapshot : Json) : ∃ later,
    (load settings snapshot).events = (shape settings snapshot).events ++ later ∧
      Progress settings snapshot later (load settings snapshot).outcome := by
  unfold load
  cases hs : (shape settings snapshot).outcome with
  | error e =>
      rw [bind_of_error hs]
      exact ⟨[], (List.append_nil _).symm, .shape hs⟩
  | ok s =>
      have lists : HasLists settings snapshot s := shape_eq_ok_iff.mp hs
      rw [bind_of_ok hs, bind_of_ok rfl]
      refine ⟨_, rfl, ?_⟩
      -- from here on the events are those of the stages, and each check may be the last
      cases hp : packageNames 0 s.packages with
      | error e =>
          rw [bind_of_error rfl]
          exact .packages lists hp
      | ok names =>
          have packages : s.packages = names.map .str := packageNames_eq_ok_iff.mp hp
          rw [bind_of_ok rfl]
          cases ht : typesFrom settings 0 s.types with
          | error e =>
              rw [bind_of_error rfl]
              exact .types lists ht
          | ok ds =>
              have entries := typesFrom_eq_ok_iff.mp ht
              rw [bind_of_ok rfl, bind_of_ok rfl]
              cases hc : Catalog.assemble s.documents s.modules names ds with
              | error e =>
                  rw [bind_of_error rfl, ← entries.length_eq]
                  exact .assembly lists packages entries hc
              | ok c =>
                  obtain ⟨documents, modules, rfl, rfl⟩ := Catalog.assemble_eq_ok_iff.mp hc
                  have sizes : stages s =
                      [.shapeValidated s.documents.length s.modules.length s.packages.length
                        s.types.length, .typesValidated c.types.length,
                        .loaded c.packages.length c.size] := by
                    unfold stages
                    rw [packages, List.length_map, entries.length_eq]
                    rfl
                  have reached := Progress.loaded lists documents modules packages entries
                  rw [sizes] at reached
                  rw [bind_of_ok rfl, bind_of_ok rfl]
                  exact reached

end TypeCatalog.Snapshot
