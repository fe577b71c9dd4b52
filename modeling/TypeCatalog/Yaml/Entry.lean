import TypeCatalog.Yaml.Reading
import TypeCatalog.Yaml.Scalar.Typed

/-!
# Entries of YAML dictionaries

Two keys have a meaning of their own. What stands under the first one is the value of the whole
dictionary; what stands under the second one is the number of the origin of that value. Of several
entries with such a key the last one counts.
-/

namespace TypeCatalog.Yaml

/-- The key of the value that a dictionary stands for. -/
def valueKey : String := "___figment_value_value"

/-- The key of the number of an origin. -/
def originKey : String := "___figment_value_id"

/-- What stands under a key of a dictionary. -/
inductive Entry (τ : Type) where
  | tree (t : Settings.Tree τ)
  /-- The number of an origin. -/
  | origin (number : Nat)

namespace Entry
variable {τ : Type}

/-- The tree under a key. -/
def tree? : Entry τ → Option (Settings.Tree τ)
  | .tree t => some t
  | .origin _ => none

/-- The number under a key. -/
def origin? : Entry τ → Option Nat
  | .tree _ => none
  | .origin number => some number

/-- The tree that the entries of a dictionary spell, where `source` tells the origins that numbers
stand for. A number alone says nothing. -/
def combine (o : τ) (source : Nat → τ) (entries : List (String × Entry τ)) : Settings.Tree τ :=
  let fields := entries.filterMap fun (key, e) => e.tree?.map fun t => (key, t)
  let values := fields.filter fun (key, _) => key == valueKey
  let numbers := entries.filterMap fun (_, e) => e.origin?
  match values.getLast?, numbers.getLast? with
  | some (_, t), some number => t.withOrigin (source number)
  | some (_, t), none => t
  | none, _ => .dict o (Fields.ofList fields)

end Entry

/-! ### Numbers of origins -/

/-- The bound of the numbers of origins. -/
def originBound : Nat := Nat.pow 2 64

/-- The number of an origin. A node with a tag of its own is none, and neither is a collection; one
that is too deep is refused for that. -/
def readOrigin (anchored : List (Nat × Node)) (isDeepest : Bool) (path : Path) (n : Node) :
    Reading Nat := do
  let refuse (p : Properties) (found : Option Settings.Found) : Reading Nat :=
    throw (.misread path p.place (.notOrigin found))
  let collection (p : Properties) (found : Settings.Found) : Reading Nat :=
    if (ownName? p.tag).isSome then refuse p none
    else if isDeepest then throw (.tooDeep p.place)
    else refuse p (some found)
  match ← followed anchored n with
  | .scalar p isPlain text =>
    if (ownName? p.tag).isSome then refuse p none
    else match scalarValue p.tag isPlain text with
      | .ok (.unsigned number) =>
        if number < originBound then return number
        else refuse p (some (.scalar (.unsigned number)))
      | .ok s => refuse p (some (.scalar s))
      | .error why => throw (.misread path p.place why)
  | .list p _ => collection p .list
  | .dict p _ => collection p .dict
  | .alias .. => throw .malformed
  | .cut f => throw f

end TypeCatalog.Yaml
