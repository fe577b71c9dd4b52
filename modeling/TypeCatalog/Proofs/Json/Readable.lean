import TypeCatalog.Json.Value

/-! # Readable values

The values that come back from their printed form: they are normal, all their numbers are
integers, and they are not too deep.  Readable parts make a readable container, one level deeper
(`ReadableWithin.arr`, `ReadableWithin.obj`). -/

namespace TypeCatalog.Json

/-! ### Values without floating-point numbers -/

mutual

/-- All numbers in the value are integers. -/
def Integral : Json → Prop
  | .float _ => False
  | .arr items => IntegralItems items
  | .obj fields => IntegralFields fields
  | _ => True

/-- All numbers in the elements are integers. -/
def IntegralItems : List Json → Prop
  | [] => True
  | v :: vs => Integral v ∧ IntegralItems vs

/-- All numbers in the field values are integers. -/
def IntegralFields : List (String × Json) → Prop
  | [] => True
  | (_, v) :: rest => Integral v ∧ IntegralFields rest

end

/-! ### Elements and field values, one by one -/

theorem normalItems_iff {vs : List Json} : NormalItems vs ↔ ∀ v ∈ vs, v.Normal := by
  induction vs with
  | nil => simp [NormalItems]
  | cons v vs ih => simp [NormalItems, ih]

theorem normalFields_iff {fields : Fields Json} :
    NormalFields fields ↔ ∀ field ∈ fields, field.2.Normal := by
  induction fields with
  | nil => simp [NormalFields]
  | cons field fields ih => rw [NormalFields, ih, List.forall_mem_cons]

theorem integralItems_iff {vs : List Json} : IntegralItems vs ↔ ∀ v ∈ vs, v.Integral := by
  induction vs with
  | nil => simp [IntegralItems]
  | cons v vs ih => simp [IntegralItems, ih]

theorem integralFields_iff {fields : Fields Json} :
    IntegralFields fields ↔ ∀ field ∈ fields, field.2.Integral := by
  induction fields with
  | nil => simp [IntegralFields]
  | cons field fields ih => rw [IntegralFields, ih, List.forall_mem_cons]

theorem depthItems_le_iff {vs : List Json} {n : Nat} :
    depthItems vs ≤ n ↔ ∀ v ∈ vs, v.depth ≤ n := by
  induction vs with
  | nil => simp [depthItems]
  | cons v vs ih => rw [depthItems, Nat.max_le, ih, List.forall_mem_cons]

theorem depthFields_le_iff {fields : Fields Json} {n : Nat} :
    depthFields fields ≤ n ↔ ∀ field ∈ fields, field.2.depth ≤ n := by
  induction fields with
  | nil => simp [depthFields]
  | cons field fields ih => rw [depthFields, Nat.max_le, ih, List.forall_mem_cons]

/-! ### Readable values -/

/-- The value is normal, its numbers are integers, and at most `limit` containers in it are inside
each other. -/
structure ReadableWithin (limit : Nat) (v : Json) : Prop where
  normal : v.Normal
  integral : v.Integral
  depth : v.depth ≤ limit

namespace ReadableWithin

variable {limit : Nat}

theorem mono {limit' : Nat} {v : Json} (h : v.ReadableWithin limit) (hl : limit ≤ limit') :
    v.ReadableWithin limit' :=
  ⟨h.normal, h.integral, Nat.le_trans h.depth hl⟩

theorem str (limit : Nat) (s : String) : (Json.str s).ReadableWithin limit :=
  ⟨trivial, trivial, Nat.zero_le _⟩

theorem arr {items : List Json} (h : ∀ v ∈ items, v.ReadableWithin limit) :
    (Json.arr items).ReadableWithin (limit + 1) where
  normal := normalItems_iff.mpr fun v hv => (h v hv).normal
  integral := integralItems_iff.mpr fun v hv => (h v hv).integral
  depth := Nat.succ_le_succ (depthItems_le_iff.mpr fun v hv => (h v hv).depth)

theorem obj {fields : Fields Json} (normal : fields.Normal)
    (h : ∀ field ∈ fields, field.2.ReadableWithin limit) :
    (Json.obj fields).ReadableWithin (limit + 1) where
  normal := ⟨normal, normalFields_iff.mpr fun field hf => (h field hf).normal⟩
  integral := integralFields_iff.mpr fun field hf => (h field hf).integral
  depth := Nat.succ_le_succ (depthFields_le_iff.mpr fun field hf => (h field hf).depth)

end ReadableWithin
end TypeCatalog.Json
