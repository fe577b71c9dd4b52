import TypeCatalog.Proofs.Descriptor
import TypeCatalog.Proofs.Fields
import TypeCatalog.Proofs.Outcome
import TypeCatalog.Snapshot.Load

/-! # Entries of the type list

An entry is an object.  `WellFormedEntry` says which objects are types, without regard to what
stands around them, and `Describes` which type an object is; `EntryRefused` lists what may be
wrong with an object in the order in which it is looked at, each defect under the condition that
all earlier ones are absent.  The three agree with `typeOf` (`typeOf_eq_ok_iff`,
`typeOf_eq_error_iff`, `exists_describes_iff`). -/

namespace TypeCatalog.Snapshot

/-! ### What an entry describes -/

/-- The modifiers that an entry has if this stands under its key `modifiers`: the keys of an
object are the tags, and the value of the provenance tag is the provenance. -/
inductive DescribesModifiers (markers : List String) : Option Json → Modifiers → Prop
  | absent : DescribesModifiers markers none .empty
  | object {fields : Fields Json} {m : Modifiers}
      (tags : ∀ x, x ∈ m.tags ↔ x ∈ fields.keys)
      (provenance : fields.get? provenanceTag = m.provenance.map .str)
      (immutable : m.immutable = true ↔ Marked markers m.provenance) :
      DescribesModifiers markers (some (.obj fields)) m

/-- The type `d` is what the fields of an entry say. -/
structure Describes (settings : Settings) (entry : Fields Json) (d : Descriptor) : Prop where
  name : entry.get? "name" = some (.str d.name)
  package : entry.get? "packageName" = some (.str d.package)
  kind : entry.get? "type" = some (.str d.kind.text)
  modifiers : DescribesModifiers settings.provenanceMarkers (entry.get? "modifiers") d.modifiers

/-- The fields of an entry are those of a type. -/
structure WellFormedEntry (entry : Fields Json) : Prop where
  name : ∃ s, entry.get? "name" = some (.str s) ∧ Name.isIdentifier s = true
  package : ∃ s, entry.get? "packageName" = some (.str s) ∧ Name.isPackageName s = true
  kind : ∃ kind : Kind, entry.get? "type" = some (.str kind.text)
  /-- Modifiers may be absent. -/
  modifiers : ∀ v, entry.get? "modifiers" = some v → ∃ fields : Fields Json, v = .obj fields ∧
    "" ∉ fields.keys ∧ ∀ w, fields.get? provenanceTag = some w → ∃ s, w = .str s

/-! ### What is wrong with an entry -/

/-- There is no text under a key of an entry. -/
inductive TextRefused (entry : Fields Json) (key : String) : Reason → Prop
  | missing (absent : entry.get? key = none) : TextRefused entry key (.missing key)
  | notString {v : Json} (present : entry.get? key = some v) (other : ∀ s, v ≠ .str s) :
      TextRefused entry key (.notString key)

/-- What stands under the key `modifiers` of an entry is refused. -/
inductive ModifiersRefused : Json → Reason → Prop
  | notObject {v : Json} (other : ∀ fields, v ≠ .obj fields) :
      ModifiersRefused v .modifiersNotObject
  | provenance {fields : Fields Json} {w : Json} (present : fields.get? provenanceTag = some w)
      (other : ∀ s, w ≠ .str s) : ModifiersRefused (.obj fields) .provenanceNotString
  | emptyTag {fields : Fields Json}
      (provenance : ∀ w, fields.get? provenanceTag = some w → ∃ s, w = .str s)
      (empty : "" ∈ fields.keys) : ModifiersRefused (.obj fields) .emptyTag

/-- Nothing is wrong with the modifiers of an entry. -/
def ModifiersAccepted (entry : Fields Json) : Prop :=
  ∀ v, entry.get? "modifiers" = some v → ∀ reason, ¬ ModifiersRefused v reason

/-- The first thing that is wrong with the fields of an entry, and the name of the type as far as
it is known by then. -/
inductive EntryRefused (entry : Fields Json) : Option String → Reason → Prop
  | name {reason : Reason} (refused : TextRefused entry "name" reason) :
      EntryRefused entry none reason
  | package {n : String} {reason : Reason} (name : entry.get? "name" = some (.str n))
      (refused : TextRefused entry "packageName" reason) : EntryRefused entry (some n) reason
  | kind {n p : String} {reason : Reason} (name : entry.get? "name" = some (.str n))
      (package : entry.get? "packageName" = some (.str p))
      (refused : TextRefused entry "type" reason) : EntryRefused entry (some n) reason
  | modifiers {n p k : String} {v : Json} {reason : Reason}
      (name : entry.get? "name" = some (.str n))
      (package : entry.get? "packageName" = some (.str p))
      (kind : entry.get? "type" = some (.str k)) (present : entry.get? "modifiers" = some v)
      (refused : ModifiersRefused v reason) : EntryRefused entry (some n) reason
  | unknownKind {n p k : String} (name : entry.get? "name" = some (.str n))
      (package : entry.get? "packageName" = some (.str p))
      (kind : entry.get? "type" = some (.str k)) (modifiers : ModifiersAccepted entry)
      (unknown : ∀ kind : Kind, k ≠ kind.text) : EntryRefused entry (some n) (.unknownKind k)
  | typeName {n p : String} {kind : Kind} (name : entry.get? "name" = some (.str n))
      (package : entry.get? "packageName" = some (.str p))
      (kind : entry.get? "type" = some (.str kind.text)) (modifiers : ModifiersAccepted entry)
      (bad : Name.isIdentifier n = false) : EntryRefused entry (some n) (.badTypeName n)
  | packageName {n p : String} {kind : Kind} (name : entry.get? "name" = some (.str n))
      (package : entry.get? "packageName" = some (.str p))
      (kind : entry.get? "type" = some (.str kind.text)) (modifiers : ModifiersAccepted entry)
      (good : Name.isIdentifier n = true) (bad : Name.isPackageName p = false) :
      EntryRefused entry (some n) (.badPackageName p)

/-! ### Texts under keys -/

theorem stringAt_eq_ok_iff {entry : Fields Json} {key s : String} :
    stringAt entry key = .ok s ↔ entry.get? key = some (.str s) := by
  unfold stringAt
  split <;> simp_all

theorem stringAt_eq_error_iff {entry : Fields Json} {key : String} {reason : Reason} :
    stringAt entry key = .error reason ↔ TextRefused entry key reason := by
  unfold stringAt
  constructor
  · intro h
    split at h
    · cases h
    · rename_i v hv hs
      cases h
      exact .notString hs hv
    · rename_i hn
      cases h
      exact .missing hn
  · rintro (hn | ⟨hv, hs⟩)
    · simp [hn]
    · rename_i v
      rw [hv]
      cases v with
      | str s => exact absurd rfl (hs s)
      | _ => rfl

/-! ### Modifiers -/

theorem provenanceOf_eq_ok_iff {fields : Fields Json} {p : Option String} :
    provenanceOf fields = .ok p ↔ fields.get? provenanceTag = p.map .str := by
  unfold provenanceOf
  split
  · rename_i h
    cases p <;> simp [h]
  · rename_i text h
    cases p <;> simp [h]
  · rename_i v hn h
    cases p with
    | none => simp [h]
    | some text =>
        have hv : ¬ v = .str text := hn text
        simp [h, hv]

theorem provenanceOf_eq_error_iff {fields : Fields Json} {reason : Reason} :
    provenanceOf fields = .error reason ↔
      (∃ w, fields.get? provenanceTag = some w ∧ ∀ s, w ≠ .str s) ∧
        reason = .provenanceNotString := by
  unfold provenanceOf
  split
  · rename_i h
    simp [h]
  · rename_i text h
    simp [h]
  · rename_i v hn h
    simp only [h, Except.error.injEq]
    exact ⟨fun e => ⟨⟨v, rfl, hn⟩, e.symm⟩, fun e => e.2.symm⟩

/-- The keys of modifiers are the tags made from the other keys and the provenance. -/
theorem mem_keys_iff_tag {fields : Fields Json} {p : Option String}
    (hp : fields.get? provenanceTag = p.map .str) (x : String) :
    x ∈ fields.keys ↔
      x ∈ (Fields.keys fields).filter (· != provenanceTag) ∨ x = provenanceTag ∧ p.isSome := by
  -- the provenance tag is a key iff there is a provenance, any other tag iff it is listed
  by_cases hx : x = provenanceTag
  · subst hx
    cases p <;> simp_all [Fields.mem_keys_iff]
  · simp [List.mem_filter, hx]

theorem modifiersOf_eq_ok_iff {settings : Settings} {x : Option Json} {m : Modifiers} :
    modifiersOf settings x = .ok m ↔ DescribesModifiers settings.provenanceMarkers x m := by
  constructor
  · intro h
    unfold modifiersOf at h
    split at h
    · cases h
      exact .absent
    · rename_i fields
      obtain ⟨p, hp, h⟩ := bind_eq_ok_iff.mp h
      obtain ⟨ht, hmp, hi⟩ := Modifiers.withProvenance_eq_ok_iff.mp h
      rw [provenanceOf_eq_ok_iff] at hp
      subst hmp
      exact .object (fun y => (ht y).trans (mem_keys_iff_tag hp y).symm) hp hi
    · cases h
  · rintro (_ | ⟨ht, hp, hi⟩)
    · rfl
    · refine bind_eq_ok_iff.mpr ⟨m.provenance, provenanceOf_eq_ok_iff.mpr hp, ?_⟩
      exact Modifiers.withProvenance_eq_ok_iff.mpr
        ⟨fun y => (ht y).trans (mem_keys_iff_tag hp y), rfl, hi⟩

theorem modifiersOf_eq_error_iff {settings : Settings} {x : Option Json} {reason : Reason} :
    modifiersOf settings x = .error reason ↔ ∃ v, x = some v ∧ ModifiersRefused v reason := by
  constructor
  · intro h
    unfold modifiersOf at h
    split at h
    · cases h
    · rename_i fields
      refine ⟨.obj fields, rfl, ?_⟩
      rcases bind_eq_error_iff.mp h with h | ⟨p, hp, h⟩
      · obtain ⟨⟨w, hw, hs⟩, rfl⟩ := provenanceOf_eq_error_iff.mp h
        exact .provenance hw hs
      · obtain ⟨he, rfl⟩ := Modifiers.withProvenance_eq_error_iff.mp h
        rw [provenanceOf_eq_ok_iff] at hp
        refine .emptyTag (fun w hw => ?_) ((mem_keys_iff_tag hp "").mpr (.inl he))
        rw [hp] at hw
        obtain ⟨s, -, rfl⟩ := Option.map_eq_some_iff.mp hw
        exact ⟨s, rfl⟩
    · rename_i v hv
      cases h
      exact ⟨v, rfl, .notObject fun fields e => hv fields (e ▸ rfl)⟩
  · rintro ⟨v, rfl, h⟩
    cases h with
    | notObject other =>
        cases v with
        | obj fields => exact absurd rfl (other fields)
        | _ => rfl
    | provenance present other =>
        exact bind_eq_error_iff.mpr
          (.inl (provenanceOf_eq_error_iff.mpr ⟨⟨_, present, other⟩, rfl⟩))
    | @emptyTag fields provenance empty =>
        have hp : ∃ p : Option String, fields.get? provenanceTag = p.map .str := by
          cases hw : fields.get? provenanceTag with
          | none => exact ⟨none, rfl⟩
          | some w =>
              obtain ⟨s, rfl⟩ := provenance w hw
              exact ⟨some s, rfl⟩
        obtain ⟨p, hp⟩ := hp
        refine bind_eq_error_iff.mpr (.inr ⟨p, provenanceOf_eq_ok_iff.mpr hp, ?_⟩)
        refine Modifiers.withProvenance_eq_error_iff.mpr ⟨?_, rfl⟩
        exact List.mem_filter.mpr ⟨empty, by decide⟩

theorem modifiersAccepted_iff (settings : Settings) {entry : Fields Json} :
    ModifiersAccepted entry ↔ ∃ m, modifiersOf settings (entry.get? "modifiers") = .ok m := by
  constructor
  · intro h
    cases hm : modifiersOf settings (entry.get? "modifiers") with
    | ok m => exact ⟨m, rfl⟩
    | error reason =>
        obtain ⟨v, hv, hr⟩ := modifiersOf_eq_error_iff.mp hm
        exact absurd hr (h v hv reason)
  · rintro ⟨m, hm⟩ v hv reason hr
    rw [modifiersOf_eq_error_iff.mpr ⟨v, hv, hr⟩] at hm
    cases hm

/-! ### Types -/

theorem typeOf_eq_ok_iff {settings : Settings} {entry : Fields Json} {d : Descriptor} :
    typeOf settings entry = .ok d ↔ Describes settings entry d := by
  simp only [typeOf, bind_eq_ok_iff, mapError_eq_ok_iff, stringAt_eq_ok_iff,
    modifiersOf_eq_ok_iff, Descriptor.ofTexts_eq_ok_iff]
  constructor
  · rintro ⟨_, hn, _, hp, _, hk, _, hm, rfl, rfl, rfl, rfl⟩
    exact ⟨hn, hp, hk, hm⟩
  · rintro ⟨hn, hp, hk, hm⟩
    exact ⟨_, hn, _, hp, _, hk, _, hm, rfl, rfl, rfl, rfl⟩

theorem typeOf_eq_error_iff {settings : Settings} {entry : Fields Json} {e : EntryDefect} :
    typeOf settings entry = .error e ↔
      ∃ name reason, e = ⟨"", name, reason⟩ ∧ EntryRefused entry name reason := by
  simp only [typeOf, bind_eq_error_iff, mapError_eq_ok_iff, mapError_eq_error_iff,
    stringAt_eq_ok_iff, stringAt_eq_error_iff, modifiersOf_eq_error_iff,
    Descriptor.ofTexts_eq_error_iff]
  constructor
  · rintro (⟨r, hr, rfl⟩ | ⟨n, hn, ⟨r, hr, rfl⟩ | ⟨p, hp, ⟨r, hr, rfl⟩ | ⟨k, hk, h⟩⟩⟩)
    · exact ⟨none, r, rfl, .name hr⟩
    · exact ⟨some n, r, rfl, .package hn hr⟩
    · exact ⟨some n, r, rfl, .kind hn hp hr⟩
    · rcases h with ⟨r, ⟨v, hv, hr⟩, rfl⟩ | ⟨m, hm, h⟩
      · exact ⟨some n, r, rfl, .modifiers hn hp hk hv hr⟩
      · have hm := (modifiersAccepted_iff settings).mpr ⟨m, hm⟩
        rcases h with ⟨hu, rfl⟩ | ⟨⟨kind, rfl⟩, ⟨hb, rfl⟩ | ⟨hg, hb, rfl⟩⟩
        · exact ⟨some n, _, rfl, .unknownKind hn hp hk hm hu⟩
        · exact ⟨some n, _, rfl, .typeName hn hp hk hm hb⟩
        · exact ⟨some n, _, rfl, .packageName hn hp hk hm hg hb⟩
  · rintro ⟨name, reason, rfl, h⟩
    cases h with
    | name hr => exact .inl ⟨reason, hr, rfl⟩
    | package hn hr => exact .inr ⟨_, hn, .inl ⟨reason, hr, rfl⟩⟩
    | kind hn hp hr => exact .inr ⟨_, hn, .inr ⟨_, hp, .inl ⟨reason, hr, rfl⟩⟩⟩
    | modifiers hn hp hk hv hr =>
        exact .inr ⟨_, hn, .inr ⟨_, hp, .inr ⟨_, hk, .inl ⟨reason, ⟨_, hv, hr⟩, rfl⟩⟩⟩⟩
    | unknownKind hn hp hk hm hu =>
        obtain ⟨m, hm⟩ := (modifiersAccepted_iff settings).mp hm
        exact .inr ⟨_, hn, .inr ⟨_, hp, .inr ⟨_, hk, .inr ⟨m, hm, .inl ⟨hu, rfl⟩⟩⟩⟩⟩
    | typeName hn hp hk hm hb =>
        obtain ⟨m, hm⟩ := (modifiersAccepted_iff settings).mp hm
        exact .inr ⟨_, hn, .inr ⟨_, hp, .inr ⟨_, hk, .inr ⟨m, hm, .inr ⟨⟨_, rfl⟩,
          .inl ⟨hb, rfl⟩⟩⟩⟩⟩⟩
    | packageName hn hp hk hm hg hb =>
        obtain ⟨m, hm⟩ := (modifiersAccepted_iff settings).mp hm
        exact .inr ⟨_, hn, .inr ⟨_, hp, .inr ⟨_, hk, .inr ⟨m, hm, .inr ⟨⟨_, rfl⟩,
          .inr ⟨hg, hb, rfl⟩⟩⟩⟩⟩⟩

/-- An object describes a type iff it is well formed. -/
theorem exists_describes_iff (settings : Settings) {entry : Fields Json} :
    (∃ d, Describes settings entry d) ↔ WellFormedEntry entry := by
  constructor
  · rintro ⟨d, hn, hp, hk, hm⟩
    refine ⟨⟨_, hn, d.name_wellFormed⟩, ⟨_, hp, d.package_wellFormed⟩, ⟨_, hk⟩, ?_⟩
    intro v hv
    rw [hv] at hm
    generalize d.modifiers = m at hm
    cases hm with
    | @object fields m ht hp hi =>
        refine ⟨fields, rfl, fun he => m.tags_nonempty ((ht "").mpr he), fun w hw => ?_⟩
        rw [hp] at hw
        obtain ⟨s, -, rfl⟩ := Option.map_eq_some_iff.mp hw
        exact ⟨s, rfl⟩
  · rintro ⟨⟨n, hn, hnw⟩, ⟨p, hp, hpw⟩, ⟨k, hk⟩, hm⟩
    have accepted : ModifiersAccepted entry := by
      intro v hv reason hr
      obtain ⟨fields, rfl, he, hw⟩ := hm v hv
      cases hr with
      | notObject other => exact other fields rfl
      | provenance present other =>
          obtain ⟨s, rfl⟩ := hw _ present
          exact other s rfl
      | emptyTag _ empty => exact he empty
    obtain ⟨m, hm⟩ := (modifiersAccepted_iff settings).mp accepted
    exact ⟨⟨n, p, k, m, hnw, hpw⟩, hn, hp, hk, modifiersOf_eq_ok_iff.mp hm⟩

/-! ### Elements of the type list -/

/-- An element of the type list is an object whose fields are those of a type. -/
def WellFormedItem (item : Json) : Prop := ∃ entry, item = .obj entry ∧ WellFormedEntry entry

/-- The element is an object that describes the type. -/
def DescribesItem (settings : Settings) (item : Json) (d : Descriptor) : Prop :=
  ∃ entry, item = .obj entry ∧ Describes settings entry d

/-- The error with which the element at position `i` is refused. -/
inductive ItemRefused (i : Nat) : Json → LoadError → Prop
  | notObject {item : Json} (other : ∀ entry, item ≠ .obj entry) :
      ItemRefused i item (.malformed (elementPlace "types" i) .notObject)
  | entry {entry : Fields Json} {name : Option String} {reason : Reason}
      (refused : EntryRefused entry name reason) :
      ItemRefused i (.obj entry) (.invalid ⟨elementPlace "types" i, name, reason⟩)

theorem exists_describesItem_iff (settings : Settings) {item : Json} :
    (∃ d, DescribesItem settings item d) ↔ WellFormedItem item := by
  constructor
  · rintro ⟨d, entry, rfl, h⟩
    exact ⟨entry, rfl, (exists_describes_iff settings).mp ⟨d, h⟩⟩
  · rintro ⟨entry, rfl, h⟩
    obtain ⟨d, h⟩ := (exists_describes_iff settings).mpr h
    exact ⟨d, entry, rfl, h⟩

theorem typeAt_eq_ok_iff {settings : Settings} {i : Nat} {item : Json} {d : Descriptor} :
    typeAt settings i item = .ok d ↔ DescribesItem settings item d := by
  cases item with
  | obj entry => simp [typeAt, DescribesItem, mapError_eq_ok_iff, typeOf_eq_ok_iff]
  | _ => simp [typeAt, DescribesItem]

theorem typeAt_eq_error_iff {settings : Settings} {i : Nat} {item : Json} {e : LoadError} :
    typeAt settings i item = .error e ↔ ItemRefused i item e := by
  constructor
  · intro h
    unfold typeAt at h
    split at h
    · obtain ⟨d, hd, rfl⟩ := mapError_eq_error_iff.mp h
      obtain ⟨name, reason, rfl, hr⟩ := typeOf_eq_error_iff.mp hd
      exact .entry hr
    · rename_i other
      cases h
      exact .notObject other
  · intro h
    cases h with
    | notObject other =>
        cases item with
        | obj entry => exact absurd rfl (other entry)
        | _ => rfl
    | @entry entry name reason refused =>
        exact mapError_eq_error_iff.mpr
          ⟨⟨"", name, reason⟩, typeOf_eq_error_iff.mpr ⟨name, reason, rfl, refused⟩, rfl⟩

/-! ### The type list -/

theorem typesFrom_eq_ok_iff {settings : Settings} {i : Nat} {items : List Json}
    {ds : List Descriptor} :
    typesFrom settings i items = .ok ds ↔ List.Forall₂ (DescribesItem settings) items ds := by
  induction items generalizing i ds with
  | nil => cases ds <;> simp [typesFrom]
  | cons item items ih =>
      simp only [typesFrom, bind_eq_ok_iff, typeAt_eq_ok_iff, ih]
      constructor
      · rintro ⟨d, hd, ds', hds, h⟩
        cases h
        exact .cons hd hds
      · rintro (_ | ⟨hd, hds⟩)
        exact ⟨_, hd, _, hds, rfl⟩

/-- The type list is refused for its first element that is no type. -/
theorem typesFrom_eq_error_iff {settings : Settings} {pos : Nat} {items : List Json}
    {e : LoadError} :
    typesFrom settings pos items = .error e ↔
      ∃ i item, items[i]? = some item ∧ ItemRefused (pos + i) item e ∧
        ∀ x ∈ items.take i, WellFormedItem x := by
  induction items generalizing pos with
  | nil => simp [typesFrom]
  | cons item items ih =>
      simp only [typesFrom, bind_eq_error_iff, typeAt_eq_error_iff, typeAt_eq_ok_iff, ih]
      constructor
      · rintro (h | ⟨d, hd, ⟨i, x, hx, hr, hw⟩ | ⟨ds, -, h⟩⟩)
        · exact ⟨0, item, rfl, h, by simp⟩
        · refine ⟨i + 1, x, hx, ?_, ?_⟩
          · rwa [Nat.add_right_comm] at hr
          · rw [List.take_succ_cons, List.forall_mem_cons]
            exact ⟨(exists_describesItem_iff settings).mp ⟨d, hd⟩, hw⟩
        · cases h
      · rintro ⟨i, x, hx, hr, hw⟩
        cases i with
        | zero =>
            cases hx
            exact .inl hr
        | succ i =>
            rw [List.take_succ_cons, List.forall_mem_cons] at hw
            obtain ⟨d, hd⟩ := (exists_describesItem_iff settings).mpr hw.1
            refine .inr ⟨d, hd, .inl ⟨i, x, hx, ?_, hw.2⟩⟩
            rwa [Nat.add_right_comm]

end TypeCatalog.Snapshot
