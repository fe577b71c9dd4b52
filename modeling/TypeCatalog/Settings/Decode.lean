import TypeCatalog.Settings.Basic
import TypeCatalog.Settings.Tree

/-!
# Settings from trees

A tree is well typed if every key is known and holds what the setting under it needs; settings
that a tree does not mention keep their defaults. Decoding stops at the first fault in the order
of the keys.
-/

namespace TypeCatalog.Settings

/-! ### Faults -/

/-- What a node should hold. -/
inductive Expected where
  | string
  | boolean
  | sequence
  /-- The fields of a named record. -/
  | record (name : String)
  deriving DecidableEq, Repr

/-- The wording of an expectation. -/
def Expected.text : Expected → String
  | .string => "a string"
  | .boolean => "a boolean"
  | .sequence => "a sequence"
  | .record name => "struct " ++ name

/-- Why a tree is refused. -/
inductive Cause where
  | wrongType (found : Found) (expected : Expected)
  /-- A record has only the fields `known`. -/
  | unknownField (name : String) (known : List String)
  /-- A list stands for a record and has more elements than the record has fields. -/
  | tooManyElements (count : Nat)
  deriving DecidableEq

/-- Why a tree is refused, at which node, and where that node comes from. -/
structure Fault (τ : Type) where
  /-- The keys and list positions that lead to the node. -/
  path : List String
  origin : τ
  cause : Cause

/-! ### Decoding -/

section
variable {τ α : Type}

/-- The fault of a tree that should hold something else. -/
def Tree.mismatch (t : Tree τ) (expected : Expected) : Fault τ :=
  ⟨[], t.origin, .wrongType t.found expected⟩

/-- Says under which key or at which position a fault was found. -/
def within (step : String) (x : Except (Fault τ) α) : Except (Fault τ) α :=
  x.mapError fun fault => { fault with path := step :: fault.path }

/-- A text. -/
def decodeText : Tree τ → Except (Fault τ) String
  | .scalar _ (.text s) => .ok s
  | t => .error (t.mismatch .string)

/-- A truth value. -/
def decodeFlag : Tree τ → Except (Fault τ) Bool
  | .scalar _ (.bool b) => .ok b
  | t => .error (t.mismatch .boolean)

/-- The texts at the positions from `pos` on. -/
def decodeTextsFrom (pos : Nat) : List (Tree τ) → Except (Fault τ) (List String)
  | [] => .ok []
  | t :: ts => do
    let s ← within (toString pos) (decodeText t)
    let ss ← decodeTextsFrom (pos + 1) ts
    return s :: ss

/-- A list of texts. -/
def decodeTexts : Tree τ → Except (Fault τ) (List String)
  | .list _ items => decodeTextsFrom 0 items
  | t => .error (t.mismatch .sequence)

/-- A record: how it is called, its field names in order, and how one field is set. -/
structure Record (τ α : Type) where
  name : String
  fields : List String
  set : α → String → Tree τ → Except (Fault τ) α

/-- Sets the fields under their names. -/
def Record.setFields (r : Record τ α) (a : α) :
    List (String × Tree τ) → Except (Fault τ) α
  | [] => .ok a
  | (key, t) :: rest => do
    let a ← within key
      (if r.fields.contains key then r.set a key t
        else .error ⟨[], t.origin, .unknownField key r.fields⟩)
    r.setFields a rest

/-- Sets the fields in their order, from position `pos` on. -/
def Record.setElements (r : Record τ α) (a : α) (pos : Nat) :
    List String → List (Tree τ) → Except (Fault τ) α
  | key :: keys, t :: ts => do
    let a ← within (toString pos) (r.set a key t)
    r.setElements a (pos + 1) keys ts
  | _, _ => .ok a

/-- The record that a tree holds, where `a` has the defaults. A list may stand for the fields in
their order; whether it may have further elements is told by `exact`. -/
def Record.decode (r : Record τ α) (exact : Bool) (a : α) : Tree τ → Except (Fault τ) α
  | .dict _ fields => r.setFields a fields
  | .list o items => do
    let a ← r.setElements a 0 r.fields items
    if exact ∧ r.fields.length < items.length then
      .error ⟨[], o, .tooManyElements items.length⟩
    else .ok a
  | t => .error (t.mismatch (.record r.name))

end

/-! ### The settings -/

/-- The settings of a load as a record. -/
def loadRecord (τ : Type) : Record τ Settings where
  name := "RegistryConfig"
  fields := ["documents_field_aliases", "reject_unknown_fields", "immutable_provenance_markers"]
  set s key t :=
    if key = "documents_field_aliases" then
      (decodeTexts t).map fun v => { s with documentAliases := v }
    else if key = "reject_unknown_fields" then
      (decodeFlag t).map fun v => { s with rejectUnknownFields := v }
    else (decodeTexts t).map fun v => { s with provenanceMarkers := v }

/-- The settings of the command line as a record: only those of a load, under `registry`. -/
def rootRecord (τ : Type) : Record τ Settings where
  name := "InspectConfig"
  fields := ["registry"]
  set _ _ t := (loadRecord τ).decode false {} t

end TypeCatalog.Settings
