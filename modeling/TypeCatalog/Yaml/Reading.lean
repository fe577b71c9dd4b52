import TypeCatalog.Yaml.Node

/-!
# Reading YAML nodes

What the readers of nodes share. Aliases are followed, but not too often; the elements and entries
of a collection are read in their order, up to the first fault.
-/

namespace TypeCatalog.Yaml

/-- Reading with a count of how many aliases may still be followed. -/
abbrev Reading := StateT Nat (Except Fault)

section
variable {α : Type}
/- The nodes with anchors. -/
variable (anchored : List (Nat × Node))

/-- The node that an alias stands for. -/
def followed (n : Node) : Reading Node :=
  match n with
  | .alias _ number => do
    let left ← get
    if left = 0 then throw .tooManyAliases
    set (left - 1)
    match anchored.lookup number with
    | some n => return n
    | none => throw .malformed
  | n => return n

/-- The elements of a list from the position `pos` on, where `read` reads an element. -/
def readItems (read : Path → Node → Reading α) (path : Path) (pos : Nat) :
    List Node → Reading (List α)
  | [] => return []
  | n :: ns => do
    let a ← read (path ++ [.index pos]) n
    return a :: (← readItems read path (pos + 1) ns)

/-- The text of a key of a dictionary at a path. -/
def readKey (path : Path) (k : Node) : Reading String := do
  match ← followed anchored k with
  | .scalar _ _ text => return text
  | .list p _ => throw (.misread path p.place (.notScalar .list))
  | .dict p _ => throw (.misread path p.place (.notScalar .dict))
  | .alias .. => throw .malformed
  | .cut f => throw f

/-- The step to the value of a key. -/
def stepOf : Node → Step
  | .scalar _ _ text => .key text
  | _ => .unnamed

/-- The entries of a dictionary, where `read` reads what stands under a key. -/
def readEntries (read : String → Path → Node → Reading α) (path : Path) :
    List (Node × Node) → Reading (List (String × α))
  | [] => return []
  | (k, v) :: rest => do
    let key ← readKey anchored path k
    let a ← read key (path ++ [stepOf k]) v
    return (key, a) :: (← readEntries read path rest)

end
end TypeCatalog.Yaml
