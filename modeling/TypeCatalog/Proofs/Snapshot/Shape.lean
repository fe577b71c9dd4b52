import TypeCatalog.Proofs.Fields
import TypeCatalog.Proofs.Outcome
import TypeCatalog.Snapshot.Load

/-! # The four lists of a snapshot

`ListsAt` says which lists stand where in a snapshot, and `ShapeRefused` what may be wrong with
its top level, in the order in which it is looked at; `shape` succeeds iff the one holds and fails
with an error iff the other does (`shape_eq_ok_iff`, `shape_eq_error_iff`). -/

namespace TypeCatalog.Snapshot

/-! ### Keys -/

/-- A key under which the document list may stand. -/
def IsDocumentKey (settings : Settings) (key : String) : Prop :=
  key = "documents" ∨ key ∈ settings.documentAliases

/-- A top-level key that means something. -/
def IsRecognized (settings : Settings) (key : String) : Prop :=
  key = "modules" ∨ key = "packages" ∨ key = "types" ∨ IsDocumentKey settings key

/-- A strict reading meets no other keys. -/
def KeysRecognized (settings : Settings) (root : Fields Json) : Prop :=
  settings.rejectUnknownFields = true → ∀ key ∈ root.keys, IsRecognized settings key

/-- The keys present under which the document list may stand, `documents` first and then in the
order of the settings; a key that the settings repeat is repeated here. -/
def presentDocumentKeys (settings : Settings) (root : Fields Json) : List String :=
  (documentKeys settings).filter root.hasKey

theorem mem_documentKeys {settings : Settings} {key : String} :
    key ∈ documentKeys settings ↔ IsDocumentKey settings key := by
  by_cases h : key = "documents"
  · simp [documentKeys, IsDocumentKey, h]
  · simp [documentKeys, IsDocumentKey, h, List.mem_filter]

theorem mem_presentDocumentKeys {settings : Settings} {root : Fields Json} {key : String} :
    key ∈ presentDocumentKeys settings root ↔ IsDocumentKey settings key ∧ key ∈ root.keys := by
  rw [presentDocumentKeys, List.mem_filter, mem_documentKeys, Fields.hasKey_iff]

theorem isKnownKey_iff {settings : Settings} {key : String} :
    isKnownKey settings key = true ↔ IsRecognized settings key := by
  simp only [isKnownKey, IsRecognized, Bool.or_eq_true, beq_iff_eq, List.contains_iff_mem,
    mem_documentKeys, or_assoc]

theorem not_isKnownKey_iff {settings : Settings} {key : String} :
    (!isKnownKey settings key) = true ↔ ¬ IsRecognized settings key := by
  rw [← isKnownKey_iff]
  simp

/-- The first element with a property in an ascending list is the least one with it. -/
theorem find?_eq_some_iff_least {l : List String} {p : String → Bool} {a : String}
    (h : l.Pairwise (· < ·)) :
    l.find? p = some a ↔ a ∈ l ∧ p a = true ∧ ∀ b ∈ l, p b = true → a ≤ b := by
  induction l with
  | nil => simp
  | cons x xs ih =>
      obtain ⟨hx, hxs⟩ := List.pairwise_cons.mp h
      -- with the property `x` is found, and every later element is greater
      cases hp : p x with
      | true =>
          rw [List.find?_cons_of_pos hp, Option.some.injEq]
          constructor
          · rintro rfl
            refine ⟨List.mem_cons_self, hp, fun b hb _ => ?_⟩
            rcases List.mem_cons.mp hb with rfl | hb
            · exact String.le_refl _
            · exact String.not_lt.mp (String.lt_asymm (hx b hb))
          · rintro ⟨ha, -, hle⟩
            rcases List.mem_cons.mp ha with rfl | ha
            · rfl
            · exact absurd (hx a ha) (String.not_lt.mpr (hle x List.mem_cons_self hp))
      | false =>
          have hne {b : String} (hb : p b = true) : b ≠ x := fun e => by
            rw [e, hp] at hb
            cases hb
          rw [List.find?_cons_of_neg (by simp [hp]), ih hxs]
          constructor
          · rintro ⟨ha, hpa, hle⟩
            refine ⟨List.mem_cons_of_mem _ ha, hpa, fun b hb hpb => ?_⟩
            exact hle b (List.mem_of_ne_of_mem (hne hpb) hb) hpb
          · rintro ⟨ha, hpa, hle⟩
            exact ⟨List.mem_of_ne_of_mem (hne hpa) ha, hpa,
              fun b hb hpb => hle b (List.mem_cons_of_mem _ hb) hpb⟩

theorem checkKeys_eq_ok_iff {settings : Settings} {root : Fields Json} :
    checkKeys settings root = .ok () ↔ KeysRecognized settings root := by
  unfold checkKeys KeysRecognized
  split
  · rename_i hs
    simp only [hs, forall_const]
    split
    · rename_i key hk
      refine iff_of_false (by simp) fun h => ?_
      have hn : isKnownKey settings key = false := by simpa using List.find?_some hk
      rw [isKnownKey_iff.mpr (h key (List.mem_of_find?_eq_some hk))] at hn
      cases hn
    · rename_i hk
      refine iff_of_true rfl fun key hmem => isKnownKey_iff.mp ?_
      simpa using List.find?_eq_none.mp hk key hmem
  · rename_i hs
    exact iff_of_true rfl fun h => absurd h hs

/-- A strict reading is refused for the least key that means nothing. -/
theorem checkKeys_eq_error_iff {settings : Settings} {root : Fields Json} {e : LoadError}
    (h : root.Normal) :
    checkKeys settings root = .error e ↔
      settings.rejectUnknownFields = true ∧ ∃ key ∈ root.keys, ¬ IsRecognized settings key ∧
        (∀ other ∈ root.keys, ¬ IsRecognized settings other → key ≤ other) ∧
        e = .malformed key .unrecognized := by
  unfold checkKeys
  split
  · rename_i hs
    split
    · rename_i key hk
      rw [find?_eq_some_iff_least h] at hk
      simp only [not_isKnownKey_iff] at hk
      obtain ⟨hmem, hn, hle⟩ := hk
      rw [Except.error.injEq]
      constructor
      · rintro rfl
        exact ⟨hs, key, hmem, hn, hle, rfl⟩
      · rintro ⟨-, key', hmem', hn', hle', rfl⟩
        rw [String.le_antisymm (hle key' hmem' hn') (hle' key hmem hn)]
    · rename_i hk
      refine iff_of_false (by simp) ?_
      rintro ⟨-, key, hmem, hn, -⟩
      exact List.find?_eq_none.mp hk key hmem (not_isKnownKey_iff.mpr hn)
  · rename_i hs
    exact iff_of_false (by simp) fun h => hs h.1

/-! ### Lists under keys -/

/-- There is no list under a top-level key. -/
inductive ListRefused (root : Fields Json) (key : String) : LoadError → Prop
  | missing (absent : root.get? key = none) : ListRefused root key (.malformed key .missing)
  | notArray {v : Json} (present : root.get? key = some v) (other : ∀ items, v ≠ .arr items) :
      ListRefused root key (.malformed key .notArray)

/-- The document list stands under the only key present for it. -/
def DocumentsAt (settings : Settings) (root : Fields Json) (documents : List Json) : Prop :=
  ∃ key, presentDocumentKeys settings root = [key] ∧ root.get? key = some (.arr documents)

/-- There is no document list, or more than one key for it. -/
inductive DocumentsRefused (settings : Settings) (root : Fields Json) : LoadError → Prop
  | missing (absent : ∀ key, IsDocumentKey settings key → key ∉ root.keys) :
      DocumentsRefused settings root (.malformed "documents" .missing)
  | doubled {key other : String} {rest : List String}
      (present : presentDocumentKeys settings root = key :: other :: rest) :
      DocumentsRefused settings root (.malformed other (.repeatsDocuments key))
  | notArray {key : String} {v : Json} (only : presentDocumentKeys settings root = [key])
      (present : root.get? key = some v) (other : ∀ items, v ≠ .arr items) :
      DocumentsRefused settings root (.malformed key .notArray)

theorem listAt_eq_ok_iff {root : Fields Json} {key : String} {items : List Json} :
    listAt root key = .ok items ↔ root.get? key = some (.arr items) := by
  unfold listAt
  split <;> simp_all

theorem listAt_eq_error_iff {root : Fields Json} {key : String} {e : LoadError} :
    listAt root key = .error e ↔ ListRefused root key e := by
  unfold listAt
  constructor
  · intro h
    split at h
    · rename_i hn
      cases h
      exact .missing hn
    · cases h
    · rename_i v hv hk
      cases h
      exact .notArray hk hv
  · rintro (hn | ⟨hk, hv⟩)
    · rw [hn]
    · rename_i v
      rw [hk]
      cases v with
      | arr items => exact absurd rfl (hv items)
      | _ => rfl

theorem presentDocumentKeys_eq_nil_iff {settings : Settings} {root : Fields Json} :
    presentDocumentKeys settings root = [] ↔
      ∀ key, IsDocumentKey settings key → key ∉ root.keys := by
  simp only [List.eq_nil_iff_forall_not_mem, mem_presentDocumentKeys, not_and]

theorem documentKey_eq_ok_iff {settings : Settings} {root : Fields Json} {key : String} :
    documentKey settings root = .ok key ↔ presentDocumentKeys settings root = [key] := by
  unfold documentKey presentDocumentKeys
  split
  · rename_i hp
    simp [hp]
  · rename_i key' hp
    simp [hp]
  · rename_i hp
    simp [hp]

theorem outcome_documentList (settings : Settings) (root : Fields Json) :
    (documentList settings root).outcome =
      documentKey settings root >>= fun key => listAt root key := by
  rw [documentList, Traced.outcome_bind, Traced.outcome_lift]
  congr 1
  funext key
  dsimp only
  split
  · rw [Traced.outcome_bind]
    rfl
  · rfl

theorem documentList_eq_ok_iff {settings : Settings} {root : Fields Json}
    {documents : List Json} :
    (documentList settings root).outcome = .ok documents ↔
      DocumentsAt settings root documents := by
  simp only [outcome_documentList, bind_eq_ok_iff, documentKey_eq_ok_iff, listAt_eq_ok_iff,
    DocumentsAt]

theorem documentList_eq_error_iff {settings : Settings} {root : Fields Json} {e : LoadError} :
    (documentList settings root).outcome = .error e ↔ DocumentsRefused settings root e := by
  rw [outcome_documentList, bind_eq_error_iff]
  constructor
  · rintro (h | ⟨key, hk, h⟩)
    · unfold documentKey at h
      split at h
      · rename_i hp
        cases h
        exact .missing (presentDocumentKeys_eq_nil_iff.mp hp)
      · cases h
      · rename_i hp
        cases h
        exact .doubled hp
    · have hp := documentKey_eq_ok_iff.mp hk
      have hmem : key ∈ presentDocumentKeys settings root := by
        rw [hp]
        exact List.mem_singleton_self key
      obtain ⟨v, hv⟩ := Fields.mem_keys_iff.mp (mem_presentDocumentKeys.mp hmem).2
      rcases listAt_eq_error_iff.mp h with ⟨hn⟩ | ⟨hv, other⟩
      · rw [hv] at hn
        cases hn
      · exact .notArray hp hv other
  · intro h
    cases h with
    | missing absent =>
        have hp := presentDocumentKeys_eq_nil_iff.mpr absent
        rw [presentDocumentKeys] at hp
        exact .inl (by rw [documentKey, hp])
    | doubled present =>
        rw [presentDocumentKeys] at present
        exact .inl (by rw [documentKey, present])
    | @notArray key v only present other =>
        exact .inr ⟨key, documentKey_eq_ok_iff.mpr only,
          listAt_eq_error_iff.mpr (.notArray present other)⟩

/-! ### The four lists -/

/-- The lists of a snapshot with these top-level fields. -/
structure ListsAt (settings : Settings) (root : Fields Json) (s : Shape) : Prop where
  keys : KeysRecognized settings root
  documents : DocumentsAt settings root s.documents
  modules : root.get? "modules" = some (.arr s.modules)
  packages : root.get? "packages" = some (.arr s.packages)
  types : root.get? "types" = some (.arr s.types)

/-- The first thing that is wrong with the top level of a snapshot. -/
inductive ShapeRefused (settings : Settings) : Json → LoadError → Prop
  | root {snapshot : Json} (other : ∀ root, snapshot ≠ .obj root) :
      ShapeRefused settings snapshot (.malformed "$" .notObject)
  | key {root : Fields Json} {key : String} (strict : settings.rejectUnknownFields = true)
      (present : key ∈ root.keys) (unrecognized : ¬ IsRecognized settings key)
      (least : ∀ other ∈ root.keys, ¬ IsRecognized settings other → key ≤ other) :
      ShapeRefused settings (.obj root) (.malformed key .unrecognized)
  | documents {root : Fields Json} {e : LoadError} (keys : KeysRecognized settings root)
      (refused : DocumentsRefused settings root e) : ShapeRefused settings (.obj root) e
  | modules {root : Fields Json} {ds : List Json} {e : LoadError}
      (keys : KeysRecognized settings root) (documents : DocumentsAt settings root ds)
      (refused : ListRefused root "modules" e) : ShapeRefused settings (.obj root) e
  | packages {root : Fields Json} {ds ms : List Json} {e : LoadError}
      (keys : KeysRecognized settings root) (documents : DocumentsAt settings root ds)
      (modules : root.get? "modules" = some (.arr ms))
      (refused : ListRefused root "packages" e) : ShapeRefused settings (.obj root) e
  | types {root : Fields Json} {ds ms ps : List Json} {e : LoadError}
      (keys : KeysRecognized settings root) (documents : DocumentsAt settings root ds)
      (modules : root.get? "modules" = some (.arr ms))
      (packages : root.get? "packages" = some (.arr ps))
      (refused : ListRefused root "types" e) : ShapeRefused settings (.obj root) e

theorem rootFields_eq_ok_iff {snapshot : Json} {root : Fields Json} :
    rootFields snapshot = .ok root ↔ snapshot = .obj root := by
  cases snapshot <;> simp [rootFields]

theorem rootFields_eq_error_iff {snapshot : Json} {e : LoadError} :
    rootFields snapshot = .error e ↔
      (∀ root, snapshot ≠ .obj root) ∧ e = .malformed "$" .notObject := by
  cases snapshot <;> simp [rootFields, eq_comm]

theorem outcome_shape (settings : Settings) (snapshot : Json) :
    (shape settings snapshot).outcome = (do
      let root ← rootFields snapshot
      checkKeys settings root
      let documents ← (documentList settings root).outcome
      let modules ← listAt root "modules"
      let packages ← listAt root "packages"
      let types ← listAt root "types"
      return ⟨documents, modules, packages, types⟩) := by
  simp only [shape, Traced.outcome_bind, Traced.outcome_lift]
  rfl

theorem shape_eq_ok_iff {settings : Settings} {snapshot : Json} {s : Shape} :
    (shape settings snapshot).outcome = .ok s ↔
      ∃ root, snapshot = .obj root ∧ ListsAt settings root s := by
  simp only [outcome_shape, bind_eq_ok_iff, rootFields_eq_ok_iff, documentList_eq_ok_iff,
    listAt_eq_ok_iff]
  constructor
  · rintro ⟨root, rfl, _, hk, documents, hd, modules, hm, packages, hp, types, ht, h⟩
    cases h
    exact ⟨root, rfl, checkKeys_eq_ok_iff.mp hk, hd, hm, hp, ht⟩
  · rintro ⟨root, rfl, hk, hd, hm, hp, ht⟩
    exact ⟨root, rfl, (), checkKeys_eq_ok_iff.mpr hk, _, hd, _, hm, _, hp, _, ht, rfl⟩

theorem shape_eq_error_iff {settings : Settings} {snapshot : Json} {e : LoadError}
    (h : snapshot.Normal) :
    (shape settings snapshot).outcome = .error e ↔ ShapeRefused settings snapshot e := by
  simp only [outcome_shape, bind_eq_error_iff, rootFields_eq_ok_iff, rootFields_eq_error_iff,
    documentList_eq_ok_iff, documentList_eq_error_iff, listAt_eq_ok_iff, listAt_eq_error_iff]
  constructor
  · rintro (⟨hr, rfl⟩ | ⟨root, rfl, hk | ⟨_, hk, h⟩⟩)
    · exact .root hr
    · obtain ⟨hs, key, hmem, hn, hle, rfl⟩ := (checkKeys_eq_error_iff h.1).mp hk
      exact .key hs hmem hn hle
    · have hk := checkKeys_eq_ok_iff.mp hk
      rcases h with hd | ⟨documents, hd, hm | ⟨modules, hm, hp | ⟨packages, hp, h⟩⟩⟩
      · exact .documents hk hd
      · exact .modules hk hd hm
      · exact .packages hk hd hm hp
      · rcases h with ht | ⟨types, -, h⟩
        · exact .types hk hd hm hp ht
        · cases h
  · intro hr
    cases hr with
    | root other => exact .inl ⟨other, rfl⟩
    | @key root key strict present unrecognized least =>
        exact .inr ⟨root, rfl, .inl ((checkKeys_eq_error_iff h.1).mpr
          ⟨strict, key, present, unrecognized, least, rfl⟩)⟩
    | @documents root _ keys refused =>
        exact .inr ⟨root, rfl, .inr ⟨(), checkKeys_eq_ok_iff.mpr keys, .inl refused⟩⟩
    | @modules root _ _ keys documents refused =>
        exact .inr ⟨root, rfl, .inr ⟨(), checkKeys_eq_ok_iff.mpr keys,
          .inr ⟨_, documents, .inl refused⟩⟩⟩
    | @packages root _ _ _ keys documents modules refused =>
        exact .inr ⟨root, rfl, .inr ⟨(), checkKeys_eq_ok_iff.mpr keys,
          .inr ⟨_, documents, .inr ⟨_, modules, .inl refused⟩⟩⟩⟩
    | @types root _ _ _ _ keys documents modules packages refused =>
        exact .inr ⟨root, rfl, .inr ⟨(), checkKeys_eq_ok_iff.mpr keys,
          .inr ⟨_, documents, .inr ⟨_, modules, .inr ⟨_, packages, .inl refused⟩⟩⟩⟩⟩

/-! ### The package list -/

theorem packageNames_eq_ok_iff {pos : Nat} {items : List Json} {names : List String} :
    packageNames pos items = .ok names ↔ items = names.map .str := by
  induction items generalizing pos names with
  | nil => cases names <;> simp [packageNames]
  | cons item items ih =>
      cases item with
      | str s =>
          simp only [packageNames, bind_eq_ok_iff, ih]
          constructor
          · rintro ⟨names', rfl, h⟩
            cases h
            rfl
          · intro h
            cases names with
            | nil => cases h
            | cons name names =>
                cases h
                exact ⟨names, rfl, rfl⟩
      | _ => cases names <;> simp [packageNames]

/-- The package list is refused for its first element that is no string. -/
theorem packageNames_eq_error_iff {pos : Nat} {items : List Json} {e : LoadError} :
    packageNames pos items = .error e ↔
      ∃ i item, items[i]? = some item ∧ (∀ s, item ≠ .str s) ∧
        (∀ x ∈ items.take i, ∃ s, x = .str s) ∧
        e = .malformed (elementPlace "packages" (pos + i)) .notString := by
  induction items generalizing pos with
  | nil => simp [packageNames]
  | cons item items ih =>
      by_cases hs : ∃ s, item = .str s
      · obtain ⟨s, rfl⟩ := hs
        simp only [packageNames, bind_eq_error_iff, ih]
        constructor
        · rintro (⟨i, x, hx, hn, hw, rfl⟩ | ⟨names, -, h⟩)
          · refine ⟨i + 1, x, hx, hn, ?_, by rw [Nat.add_right_comm]; rfl⟩
            rw [List.take_succ_cons, List.forall_mem_cons]
            exact ⟨⟨s, rfl⟩, hw⟩
          · cases h
        · rintro ⟨i, x, hx, hn, hw, rfl⟩
          cases i with
          | zero =>
              cases hx
              exact absurd rfl (hn s)
          | succ i =>
              rw [List.take_succ_cons, List.forall_mem_cons] at hw
              exact .inl ⟨i, x, hx, hn, hw.2, by rw [Nat.add_right_comm]; rfl⟩
      · have hn (s : String) : item ≠ .str s := fun h => hs ⟨s, h⟩
        have e₀ : packageNames pos (item :: items) =
            .error (.malformed (elementPlace "packages" pos) .notString) := by
          cases item with
          | str s => exact absurd rfl (hn s)
          | _ => rfl
        rw [e₀, Except.error.injEq]
        constructor
        · rintro rfl
          exact ⟨0, item, rfl, hn, by simp, rfl⟩
        · rintro ⟨i, x, hx, -, hw, rfl⟩
          cases i with
          | zero => rfl
          | succ i =>
              obtain ⟨s, rfl⟩ := hw item (by simp)
              exact absurd rfl (hn s)

end TypeCatalog.Snapshot
