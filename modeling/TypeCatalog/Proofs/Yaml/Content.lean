import TypeCatalog.Proofs.Outcome
import TypeCatalog.Proofs.Settings.Merge
import TypeCatalog.Yaml.Content

/-! # Normal forms read from YAML

`Gives x P` says that whatever a reading gives has the property `P`; it says nothing of a reading
that fails.  The trees that a document gives are in normal form (`gives_settingsOf`): a dictionary
is made of its entries in normal form, and what a value or a tag of its own puts in the place of a
dictionary is in normal form as well. -/

namespace TypeCatalog.Yaml

/-! ### What readings give -/

section
variable {α β : Type} {P : α → Prop} {Q : β → Prop}

/-- Whatever the reading gives has the property. -/
def Gives (x : Reading α) (P : α → Prop) : Prop :=
  ∀ left a left', x.run left = .ok (a, left') → P a

theorem gives_pure {a : α} (h : P a) : Gives (pure a) P := by
  rintro left _ _ ⟨⟩
  exact h

theorem gives_throw (f : Fault) : Gives (throw f) P := nofun

theorem gives_true (x : Reading α) : Gives x fun _ => True := fun _ _ _ _ => trivial

theorem Gives.bind {x : Reading α} {f : α → Reading β} (h : Gives x P)
    (hf : ∀ a, P a → Gives (f a) Q) : Gives (x >>= f) Q := by
  intro left b left' hb
  cases hx : x.run left with
  | error e =>
      rw [StateT.run_bind, hx] at hb
      cases hb
  | ok state =>
      rw [StateT.run_bind, hx] at hb
      exact hf state.1 (h left _ _ hx) state.2 b left' hb

/-- What does not depend on an earlier part. -/
theorem gives_bind {x : Reading α} {f : α → Reading β} (hf : ∀ a, Gives (f a) Q) :
    Gives (x >>= f) Q :=
  (gives_true x).bind fun a _ => hf a

variable {anchored : List (Nat × Node)}

theorem gives_readItems {read : Path → Node → Reading α} (h : ∀ path n, Gives (read path n) P)
    (path : Path) (pos : Nat) (items : List Node) :
    Gives (readItems read path pos items) fun as => ∀ a ∈ as, P a := by
  induction items generalizing pos with
  | nil => exact gives_pure nofun
  | cons n ns ih =>
      exact (h _ n).bind fun a ha => (ih _).bind fun as has =>
        gives_pure (List.forall_mem_cons.mpr ⟨ha, has⟩)

theorem gives_readEntries {read : String → Path → Node → Reading α}
    (h : ∀ key path n, Gives (read key path n) P) (path : Path) (entries : List (Node × Node)) :
    Gives (readEntries anchored read path entries) fun as => ∀ a ∈ as, P a.2 := by
  induction entries with
  | nil => exact gives_pure nofun
  | cons entry rest ih =>
      exact gives_bind fun key => (h key _ _).bind fun a ha => ih.bind fun as has =>
        gives_pure (List.forall_mem_cons.mpr ⟨ha, has⟩)

end

/-! ### Trees -/

variable {τ : Type} (o : τ) (source : Nat → τ) {anchored : List (Nat × Node)}

/-- What stands under a key is in normal form. -/
def Entry.Normal (e : Entry τ) : Prop := ∀ t, e.tree? = some t → t.Normal

/-- The trees among the entries of a dictionary. -/
def Entry.trees (entries : List (String × Entry τ)) : List (String × Settings.Tree τ) :=
  entries.filterMap fun (key, e) => e.tree?.map fun t => (key, t)

/-- The tree that the entries of a dictionary spell is in normal form. -/
theorem normal_combine {entries : List (String × Entry τ)}
    (h : ∀ entry ∈ entries, entry.2.Normal) : (Entry.combine o source entries).Normal := by
  have fields : ∀ field ∈ Entry.trees entries, field.2.Normal := by
    intro field hf
    obtain ⟨⟨key, e⟩, he, hk⟩ := List.mem_filterMap.mp hf
    obtain ⟨t, ht, rfl⟩ := Option.map_eq_some_iff.mp hk
    exact h _ he t ht
  have value {key : String} {t : Settings.Tree τ} {p : String × Settings.Tree τ → Bool}
      (hv : ((Entry.trees entries).filter p).getLast? = some (key, t)) : t.Normal :=
    fields _ (List.mem_filter.mp (List.mem_of_getLast? hv)).1
  rw [Entry.combine]
  split
  · rename_i hv _
    exact (value hv).withOrigin _
  · rename_i hv _
    exact value hv
  · exact Settings.Tree.normal_dict_iff.mpr (Settings.Tree.normalFields_ofList fields)

theorem gives_contentOf {inside : Option (Inside τ)}
    (h : ∀ reader ∈ inside, ∀ path n, Gives (reader.tree path n) Settings.Tree.Normal)
    (path : Path) (n : Node) :
    Gives (contentOf o source anchored inside path n) Settings.Tree.Normal := by
  cases n with
  | scalar p isPlain text =>
      rw [contentOf]
      split
      · exact gives_pure (.scalar o _)
      · exact gives_throw _
  | list p items =>
      cases inside with
      | none => exact gives_throw _
      | some reader =>
          exact (gives_readItems (h reader rfl) path 0 items).bind fun ts hts =>
            gives_pure (.list o hts)
  | dict p entries =>
      cases inside with
      | none => exact gives_throw _
      | some reader =>
          have entry (key : String) (path : Path) (n : Node) :
              Gives (reader.entry key path n) Entry.Normal := by
            rw [Inside.entry]
            split
            · exact gives_bind fun number => gives_pure nofun
            · exact (h reader rfl path n).bind fun t ht => gives_pure fun _ he => by
                cases he
                exact ht
          exact (gives_readEntries entry path entries).bind fun es hes =>
            gives_pure (normal_combine o source hes)
  | _ => exact gives_throw _

theorem gives_taggedContentOf {inside : Option (Inside τ)}
    (h : ∀ reader ∈ inside, ∀ path n, Gives (reader.tree path n) Settings.Tree.Normal)
    (path : Path) (n : Node) :
    Gives (taggedContentOf o source anchored inside path n) Settings.Tree.Normal := by
  rw [taggedContentOf]
  refine gives_bind fun n => (gives_contentOf o source h path n).bind fun t ht => ?_
  split
  · exact gives_pure (ht.nest o _)
  · exact gives_pure ht

/-- What a node holds is in normal form. -/
theorem gives_settingsOf (depth : Nat) (path : Path) (n : Node) :
    Gives (settingsOf o source anchored depth path n) Settings.Tree.Normal := by
  induction depth generalizing path n with
  | zero =>
      exact gives_taggedContentOf o source (fun _ hr => absurd hr (Option.not_mem_none _)) path n
  | succ depth ih =>
      refine gives_taggedContentOf o source (fun reader hr => ?_) path n
      cases hr
      exact ih

theorem gives_readFields (root : Node) :
    Gives (Document.readFields o source root) Settings.Tree.NormalFields := by
  unfold Document.readFields
  split
  · exact (gives_readEntries (fun _ => gives_settingsOf o source _) [] _).bind fun _ h =>
      gives_pure (Settings.Tree.normalFields_ofList h)
  · split
    · exact gives_pure Settings.Tree.normalFields_nil
    · split <;> exact gives_throw _
  all_goals exact gives_throw _

/-- The fields of a document are in normal form. -/
theorem normalFields_of_fields {d : Document} {fields : List (String × Settings.Tree τ)}
    (h : d.fields o source = .ok fields) : Settings.Tree.NormalFields fields := by
  obtain ⟨⟨read, left⟩, hr, he⟩ := bind_eq_ok_iff.mp h
  have normal : Settings.Tree.NormalFields read := gives_readFields o source d.root _ _ _ hr
  cases hd : d.ending with
  | none =>
      rw [hd] at he
      cases he
      exact normal
  | some f =>
      rw [hd] at he
      cases he

end TypeCatalog.Yaml
