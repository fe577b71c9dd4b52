import TypeCatalog.Collection.Fields

/-!
# JSON values

Numbers are exact integers where the text was an integer of 64 bits, and binary floating-point
numbers elsewhere. `Json.Normal` says that every object in a value has its keys in ascending
order and every integer fits its range; the reader makes such values only.
-/

namespace TypeCatalog

/-- A JSON value. -/
inductive Json where
  | null
  | bool (b : Bool)
  | int (n : Int)
  | float (x : Float)
  | str (s : String)
  | arr (items : List Json)
  | obj (fields : List (String × Json))

namespace Json

instance : Inhabited Json := ⟨.null⟩

/-- The object with these fields, in normal form. -/
def ofFields (entries : List (String × Json)) : Json := .obj (Fields.ofList entries)

/-- The array of these texts. -/
def ofStrings (texts : List String) : Json := .arr (texts.map .str)

/-- The least integer below the range of exact integers is one less than this. -/
def minInt : Int := -Nat.pow 2 63

/-- Exact integers stay below this bound. -/
def intBound : Int := Nat.pow 2 64

mutual

/-- Objects have ascending keys, and integers fit their range, in all parts of the value. -/
def Normal : Json → Prop
  | .int n => minInt ≤ n ∧ n < intBound
  | .arr items => NormalItems items
  | .obj fields => Fields.Normal fields ∧ NormalFields fields
  | _ => True

/-- Every element is normal. -/
def NormalItems : List Json → Prop
  | [] => True
  | v :: vs => Normal v ∧ NormalItems vs

/-- Every field value is normal. -/
def NormalFields : List (String × Json) → Prop
  | [] => True
  | (_, v) :: rest => Normal v ∧ NormalFields rest

end

mutual

/-- How many containers enclose the innermost part of the value, the value itself included. -/
def depth : Json → Nat
  | .arr items => depthItems items + 1
  | .obj fields => depthFields fields + 1
  | _ => 0

/-- The greatest depth among the elements. -/
def depthItems : List Json → Nat
  | [] => 0
  | v :: vs => max (depth v) (depthItems vs)

/-- The greatest depth among the field values. -/
def depthFields : List (String × Json) → Nat
  | [] => 0
  | (_, v) :: rest => max (depth v) (depthFields rest)

end

/-- The field of an object under a key; nothing for other values. -/
def field? (key : String) : Json → Option Json
  | .obj fields => Fields.get? key fields
  | _ => none

end Json
end TypeCatalog
