import TypeCatalog.Proofs.Course
import TypeCatalog.Proofs.Modifiers
import TypeCatalog.Proofs.Snapshot.Acceptance
import TypeCatalog.Proofs.Text.ByteOrder

/-! # Parts of a snapshot that are not looked at

A reading that is not strict looks at the recognized top-level keys, at four keys of each entry of
the type list, and at the keys of modifiers with the value of the provenance tag.  `Alike` relates
snapshots that agree in these parts.  Each check gives the same for alike arguments, so two alike
snapshots are loaded alike: same events, same catalog or same error.  A strict reading differs from
this only in that it refuses unrecognized top-level keys, and then it names the first of them in
the order of bytes (`load_ignores_unread`). -/

namespace TypeCatalog

/-- The same settings for a reading that is not strict. -/
def Settings.lenient (settings : Settings) : Settings :=
  { settings with rejectUnknownFields := false }

namespace Snapshot

open Traced (Matches matches_self)

/-! ### Alike snapshots -/

/-- What may stand under the key `modifiers` of alike entries: the same, or objects with the same
keys and the same provenance. -/
inductive ModifiersAlike : Option Json → Option Json → Prop
  | same (x : Option Json) : ModifiersAlike x x
  | objects {fields fields' : Fields Json} (keys : ∀ key, key ∈ fields.keys ↔ key ∈ fields'.keys)
      (provenance : fields.get? provenanceTag = fields'.get? provenanceTag) :
      ModifiersAlike (some (.obj fields)) (some (.obj fields'))

/-- The entries agree in the keys that an entry has a meaning under. -/
structure EntriesAlike (entry entry' : Fields Json) : Prop where
  name : entry.get? "name" = entry'.get? "name"
  package : entry.get? "packageName" = entry'.get? "packageName"
  kind : entry.get? "type" = entry'.get? "type"
  modifiers : ModifiersAlike (entry.get? "modifiers") (entry'.get? "modifiers")

/-- The same elements, or alike entries. -/
inductive ItemsAlike : Json → Json → Prop
  | same (item : Json) : ItemsAlike item item
  | entries {entry entry' : Fields Json} (alike : EntriesAlike entry entry') :
      ItemsAlike (.obj entry) (.obj entry')

/-- What may stand under the key `types` of alike snapshots: the same, or lists with alike elements
in the same order. -/
inductive TypesAlike : Option Json → Option Json → Prop
  | same (x : Option Json) : TypesAlike x x
  | lists {items items' : List Json} (alike : List.Forall₂ ItemsAlike items items') :
      TypesAlike (some (.arr items)) (some (.arr items'))

/-- The top-level fields agree under all recognized keys, but for unread parts of the types. -/
structure RootsAlike (settings : Settings) (root root' : Fields Json) : Prop where
  other : ∀ key, IsRecognized settings key → key ≠ "types" → root.get? key = root'.get? key
  types : TypesAlike (root.get? "types") (root'.get? "types")

/-- The snapshots differ at most in parts that are not looked at. -/
inductive Alike (settings : Settings) : Json → Json → Prop
  | same (snapshot : Json) : Alike settings snapshot snapshot
  | objects {root root' : Fields Json} (alike : RootsAlike settings root root') :
      Alike settings (.obj root) (.obj root')

/-! ### Entries -/

theorem stringAt_congr {entry entry' : Fields Json} {key : String}
    (h : entry.get? key = entry'.get? key) : stringAt entry key = stringAt entry' key := by
  unfold stringAt
  rw [h]

/-- Of the keys of modifiers only the set counts. -/
theorem modifiersOf_congr {settings : Settings} {x x' : Option Json} (h : ModifiersAlike x x') :
    modifiersOf settings x = modifiersOf settings x' := by
  cases h with
  | same x => rfl
  | @objects fields fields' keys provenance =>
      have sameProvenance : provenanceOf fields = provenanceOf fields' := by
        unfold provenanceOf
        rw [provenance]
      have sameTags : ∀ x, x ∈ (Fields.keys fields).filter (· != provenanceTag) ↔
          x ∈ (Fields.keys fields').filter (· != provenanceTag) := by
        intro x
        rw [List.mem_filter, List.mem_filter, keys x]
      rw [modifiersOf, modifiersOf, sameProvenance]
      congr 1
      funext p
      exact Modifiers.withProvenance_congr (Modifiers.given_congr sameTags) _

theorem typeOf_congr {settings : Settings} {entry entry' : Fields Json}
    (h : EntriesAlike entry entry') : typeOf settings entry = typeOf settings entry' := by
  unfold typeOf
  rw [stringAt_congr h.name, stringAt_congr h.package, stringAt_congr h.kind,
    modifiersOf_congr h.modifiers]

theorem typeAt_congr {settings : Settings} {pos : Nat} {item item' : Json}
    (h : ItemsAlike item item') : typeAt settings pos item = typeAt settings pos item' := by
  cases h with
  | same item => rfl
  | entries alike =>
      rw [typeAt, typeAt, typeOf_congr alike]

theorem typesFrom_congr {settings : Settings} {pos : Nat} {items items' : List Json}
    (h : List.Forall₂ ItemsAlike items items') :
    typesFrom settings pos items = typesFrom settings pos items' := by
  induction h generalizing pos with
  | nil => rfl
  | cons item _ ih =>
      unfold typesFrom
      rw [typeAt_congr item, ih]

/-! ### Top-level fields -/

theorem listAt_congr {root root' : Fields Json} {key : String}
    (h : root.get? key = root'.get? key) : listAt root key = listAt root' key := by
  unfold listAt
  rw [h]

/-- The document list is not among the types, so it stands where it stood. -/
theorem documentList_congr {settings : Settings} {root root' : Fields Json}
    (ha : "types" ∉ settings.documentAliases) (h : RootsAlike settings root root') :
    documentList settings root = documentList settings root' := by
  have same : ∀ key, IsDocumentKey settings key → root.get? key = root'.get? key := by
    intro key hk
    apply h.other key (.inr (.inr (.inr hk)))
    rintro rfl
    rcases hk with hk | hk
    · exact absurd hk (by decide)
    · exact ha hk
  have present : (documentKeys settings).filter root.hasKey =
      (documentKeys settings).filter root'.hasKey := by
    apply List.filter_congr
    intro key hk
    rw [Fields.hasKey, Fields.hasKey, same key (mem_documentKeys.mp hk)]
  have sameKey : documentKey settings root = documentKey settings root' := by
    unfold documentKey
    rw [present]
  apply Matches.eq
  unfold documentList
  rw [sameKey]
  apply Matches.bind (R := fun key key' => key = key' ∧ IsDocumentKey settings key)
  · cases hk : documentKey settings root' with
    | error e => exact .failure [] e
    | ok key =>
        have mem : key ∈ presentDocumentKeys settings root' := by
          rw [documentKey_eq_ok_iff.mp hk]
          exact List.mem_singleton_self key
        exact .result [] ⟨rfl, (mem_presentDocumentKeys.mp mem).1⟩
  · rintro key _ ⟨rfl, hk⟩
    rw [listAt_congr (same key hk)]
    exact matches_self _

theorem matches_listAt_types {root root' : Fields Json}
    (h : TypesAlike (root.get? "types") (root'.get? "types")) :
    Matches (ω := Event) (List.Forall₂ ItemsAlike) (Traced.lift (listAt root "types"))
      (Traced.lift (listAt root' "types")) := by
  have reflexive : ∀ items : List Json, List.Forall₂ ItemsAlike items items := by
    intro items
    exact List.forall₂_same.mpr fun item _ => .same item
  generalize hx : root.get? "types" = x at h
  generalize hx' : root'.get? "types" = x' at h
  cases h with
  | same x =>
      rw [listAt_congr (hx.trans hx'.symm)]
      cases listAt root' "types" with
      | ok items => exact .result [] (reflexive items)
      | error e => exact .failure [] e
  | lists alike =>
      rw [listAt_eq_ok_iff.mpr hx, listAt_eq_ok_iff.mpr hx']
      exact .result [] alike

/-- The same lists, but for unread parts of the types. -/
structure ShapesAlike (s s' : Shape) : Prop where
  documents : s.documents = s'.documents
  modules : s.modules = s'.modules
  packages : s.packages = s'.packages
  types : List.Forall₂ ItemsAlike s.types s'.types

theorem checkKeys_of_lenient {settings : Settings} (hs : settings.rejectUnknownFields = false)
    (root : Fields Json) : checkKeys settings root = .ok () := by
  unfold checkKeys
  rw [hs]
  rfl

theorem shape_matches {settings : Settings} {root root' : Fields Json}
    (hs : settings.rejectUnknownFields = false) (ha : "types" ∉ settings.documentAliases)
    (h : RootsAlike settings root root') :
    Matches ShapesAlike (shape settings (.obj root)) (shape settings (.obj root')) := by
  have modules : listAt root "modules" = listAt root' "modules" :=
    listAt_congr (h.other _ (.inl rfl) (by decide))
  have packages : listAt root "packages" = listAt root' "packages" :=
    listAt_congr (h.other _ (.inr (.inl rfl)) (by decide))
  unfold shape
  apply Matches.bind (R := fun r r' => r = root ∧ r' = root')
  · exact .result [] ⟨rfl, rfl⟩
  · rintro _ _ ⟨rfl, rfl⟩
    rw [checkKeys_of_lenient hs, checkKeys_of_lenient hs, documentList_congr ha h, modules,
      packages]
    apply (matches_self _).bind
    rintro _ _ rfl
    apply (matches_self _).bind
    rintro documents _ rfl
    apply (matches_self _).bind
    rintro modules _ rfl
    apply (matches_self _).bind
    rintro packages _ rfl
    apply (matches_listAt_types h.types).bind
    intro types types' alike
    exact .result [] ⟨rfl, rfl, rfl, alike⟩

/-! ### Loading alike snapshots -/

theorem load_congr {settings : Settings} {snapshot snapshot' : Json}
    (hs : settings.rejectUnknownFields = false) (ha : "types" ∉ settings.documentAliases)
    (h : Alike settings snapshot snapshot') : load settings snapshot = load settings snapshot' := by
  cases h with
  | same snapshot => rfl
  | @objects root root' alike =>
      apply Matches.eq
      unfold load
      apply (shape_matches hs ha alike).bind
      rintro ⟨documents, modules, packages, types⟩ ⟨_, _, _, types'⟩ ⟨rfl, rfl, rfl, sameTypes⟩
      dsimp only at sameTypes ⊢
      rw [typesFrom_congr sameTypes, sameTypes.length_eq]
      exact matches_self _

/-! ### Strict readings -/

/-- The key means nothing, and it is the first such key in the order of bytes. -/
structure LeastUnrecognized (settings : Settings) (root : Fields Json) (key : String) : Prop where
  present : key ∈ root.keys
  unrecognized : ¬ IsRecognized settings key
  least : ∀ other ∈ root.keys, ¬ IsRecognized settings other →
    Text.bytesOf key ≤ Text.bytesOf other

theorem exists_leastUnrecognized {settings : Settings} {root : Fields Json} (hn : root.Normal)
    (h : ∃ key ∈ root.keys, ¬ IsRecognized settings key) :
    ∃ key, LeastUnrecognized settings root key := by
  cases hf : root.keys.find? fun key => !isKnownKey settings key with
  | none =>
      obtain ⟨key, mem, un⟩ := h
      exact absurd (not_isKnownKey_iff.mpr un) (List.find?_eq_none.mp hf key mem)
  | some key =>
      obtain ⟨mem, un, least⟩ := (find?_eq_some_iff_least hn).mp hf
      refine ⟨key, mem, not_isKnownKey_iff.mp un, ?_⟩
      intro other hmem hun
      exact Text.bytesOf_le_iff.mpr (least other hmem (not_isKnownKey_iff.mpr hun))

theorem LeastUnrecognized.load_eq {settings : Settings} {root : Fields Json} {key : String}
    (h : LeastUnrecognized settings root key) (hs : settings.rejectUnknownFields = true)
    (hn : root.Normal) :
    load settings (.obj root) = ⟨[], .error (.malformed key .unrecognized)⟩ := by
  have least : ∀ other ∈ root.keys, ¬ IsRecognized settings other → key ≤ other :=
    fun other mem un => Text.bytesOf_le_iff.mp (h.least other mem un)
  have refused : checkKeys settings root = .error (.malformed key .unrecognized) :=
    (checkKeys_eq_error_iff hn).mpr ⟨hs, key, h.present, h.unrecognized, least, rfl⟩
  have shaped : shape settings (.obj root) = ⟨[], .error (.malformed key .unrecognized)⟩ := by
    unfold shape
    rw [Traced.bind_of_ok rfl, refused, Traced.bind_of_error rfl]
    rfl
  unfold load
  rw [shaped, Traced.bind_of_error rfl]

theorem typesFrom_lenient (settings : Settings) (pos : Nat) (items : List Json) :
    typesFrom settings pos items = typesFrom settings.lenient pos items := by
  have typeAt_lenient : ∀ pos item,
      typeAt settings pos item = typeAt settings.lenient pos item := by
    intro pos item
    cases item <;> rfl
  induction items generalizing pos with
  | nil => rfl
  | cons item items ih => rw [typesFrom, typesFrom, typeAt_lenient, ih]

/-- Where all keys are recognized a strict reading is like any other. -/
theorem load_lenient {settings : Settings} {snapshot : Json}
    (h : ∀ root : Fields Json, snapshot = .obj root →
      ∀ key ∈ root.keys, IsRecognized settings key) :
    load settings snapshot = load settings.lenient snapshot := by
  have sameShape : shape settings snapshot = shape settings.lenient snapshot := by
    apply Matches.eq
    unfold shape
    apply Matches.bind (R := fun root root' => root = root' ∧ snapshot = .obj root)
    · cases hr : rootFields snapshot with
      | ok root => exact .result [] ⟨rfl, rootFields_eq_ok_iff.mp hr⟩
      | error e => exact .failure [] e
    · rintro root _ ⟨rfl, hr⟩
      have sameList : documentList settings root = documentList settings.lenient root := rfl
      rw [checkKeys_eq_ok_iff.mpr fun _ => h root hr, checkKeys_of_lenient rfl, sameList]
      exact matches_self _
  apply Matches.eq
  unfold load
  rw [sameShape]
  apply (matches_self _).bind
  rintro s _ rfl
  rw [typesFrom_lenient]
  exact matches_self _

/-- **What is not looked at does not matter.**  Without strictness, and if the document list is not
looked for among the types, alike snapshots give the same events and the same catalog or error.  A
strict reading is refused, before anything happens, for the unrecognized key that is least in the
order of bytes; if there is none, it is the same as the reading that is not strict. -/
theorem load_ignores_unread (settings : Settings) :
    (settings.rejectUnknownFields = false → "types" ∉ settings.documentAliases →
      ∀ snapshot snapshot', Alike settings snapshot snapshot' →
        load settings snapshot = load settings snapshot') ∧
    (settings.rejectUnknownFields = true → ∀ snapshot,
      (∀ root : Fields Json, snapshot = .obj root → root.Normal →
        (∃ key ∈ root.keys, ¬ IsRecognized settings key) →
          ∃ key, LeastUnrecognized settings root key ∧
            load settings snapshot = ⟨[], .error (.malformed key .unrecognized)⟩) ∧
      ((∀ root : Fields Json, snapshot = .obj root → ∀ key ∈ root.keys, IsRecognized settings key) →
        load settings snapshot = load settings.lenient snapshot)) := by
  refine ⟨?_, ?_⟩
  · intro hs ha snapshot snapshot' alike
    exact load_congr hs ha alike
  · intro hs snapshot
    refine ⟨?_, load_lenient⟩
    rintro root rfl hn h
    obtain ⟨key, least⟩ := exists_leastUnrecognized hn h
    exact ⟨key, least, least.load_eq hs hn⟩

/-- The entry `leafEntry` with a key more, and with another value of a modifier. -/
def notedEntry : Json :=
  .obj [("modifiers", .obj [("#", .str "ImmutableSet"), ("final", .null)]),
    ("name", .str "Leaf"), ("packageName", .str "tree.leaf"), ("since", .int 3),
    ("type", .str "Enum")]

/-- The snapshot `aliasedRoot` with this entry and two keys more. -/
def notedRoot : Fields Json :=
  [("author", .str "x"), ("docs", .arr [.int 1]), ("modules", .arr []),
    ("packages", .arr [.str "tree.leaf"]), ("types", .arr [notedEntry]), ("version", .int 2)]

/-- The notes make no difference, and a strict reading is refused for the first of them. -/
theorem load_ignores_notes :
    Alike {} (.obj aliasedRoot) (.obj notedRoot) ∧
      load {} (.obj aliasedRoot) = load {} (.obj notedRoot) ∧
      load { rejectUnknownFields := true } (.obj notedRoot) =
        ⟨[], .error (.malformed "author" .unrecognized)⟩ ∧
      load { rejectUnknownFields := true } (.obj aliasedRoot) = load {} (.obj aliasedRoot) := by
  have entries : ItemsAlike leafEntry notedEntry := by
    apply ItemsAlike.entries
    refine ⟨rfl, rfl, rfl, ?_⟩
    apply ModifiersAlike.objects
    · simp [Fields.keys]
    · rfl
  have roots : RootsAlike {} aliasedRoot notedRoot := by
    refine ⟨?_, .lists (.cons entries .nil)⟩
    rintro key (rfl | rfl | rfl | rfl | hk) ht
    · rfl
    · rfl
    · exact absurd rfl ht
    · rfl
    · have cases : key = "documents" ∨ key = "docs" := by simpa using hk
      rcases cases with rfl | rfl <;> rfl
  have unrecognized : ∀ key ∈ notedRoot.keys,
      ¬ IsRecognized { rejectUnknownFields := true } key ↔ key = "author" ∨ key = "version" := by
    simp [notedRoot, Fields.keys, IsRecognized, IsDocumentKey]
  have normal : notedRoot.Normal := by
    unfold Fields.Normal
    decide
  obtain ⟨same, -⟩ := load_ignores_unread {}
  obtain ⟨-, strict⟩ := load_ignores_unread { rejectUnknownFields := true }
  refine ⟨.objects roots, same rfl (by decide) _ _ (.objects roots), ?_, ?_⟩
  · obtain ⟨key, least, refused⟩ := (strict rfl _).1 notedRoot rfl normal
      ⟨"author", by decide, (unrecognized _ (by decide)).mpr (.inl rfl)⟩
    have first := least.least "author" (by decide) ((unrecognized _ (by decide)).mpr (.inl rfl))
    rcases (unrecognized key least.present).mp least.unrecognized with rfl | rfl
    · exact refused
    · exact absurd (Text.bytesOf_le_iff.mp first) (by decide)
  · apply (strict rfl _).2
    rintro root ⟨⟩
    simp [aliasedRoot, Fields.keys, IsRecognized, IsDocumentKey]

end Snapshot
end TypeCatalog
