import TypeCatalog.Collection.Fields

/-!
# Trees of settings

What a layer of settings says, before it is known to be well typed. Every node of a tree carries
its origin. Layers are merged key by key: where two trees both have fields the fields are merged,
elsewhere the later tree stands.
-/

namespace TypeCatalog.Settings

/-- A single setting. -/
inductive Scalar where
  | unit
  | bool (b : Bool)
  | unsigned (n : Nat)
  | signed (n : Int)
  | float (x : Float)
  | text (s : String)
  deriving DecidableEq

/-- What messages call an integer that needs more than 64 bits. -/
def Scalar.wideText? : Scalar → Option String
  | .unsigned n => if Nat.pow 2 64 ≤ n then some s!"integer `{n}` as u128" else none
  | .signed n => if n < -(Nat.pow 2 63 : Nat) then some s!"integer `{n}` as i128" else none
  | _ => none

/-- What a node holds, as far as messages show it. -/
inductive Found where
  | scalar (s : Scalar)
  | list
  | dict
  deriving DecidableEq

/-- A tree of settings; `τ` tells the origins of its nodes. -/
inductive Tree (τ : Type) where
  | scalar (origin : τ) (s : Scalar)
  | list (origin : τ) (items : List (Tree τ))
  | dict (origin : τ) (fields : List (String × Tree τ))

namespace Tree

variable {τ : Type}

/-- Where a node comes from. -/
def origin : Tree τ → τ
  | scalar o _ | list o _ | dict o _ => o

/-- What a tree holds at its root. -/
def found : Tree τ → Found
  | scalar _ s => .scalar s
  | list .. => .list
  | dict .. => .dict

/-- The tree under some keys inside one another, outermost first. -/
def nest (o : τ) (t : Tree τ) : List String → Tree τ
  | [] => t
  | key :: keys => .dict o [(key, nest o t keys)]

mutual

/-- The tree with another origin of all its nodes. -/
def withOrigin (o : τ) : Tree τ → Tree τ
  | scalar _ s => scalar o s
  | list _ items => list o (itemsWithOrigin o items)
  | dict _ fields => dict o (fieldsWithOrigin o fields)

/-- The elements of a list with another origin of all their nodes. -/
def itemsWithOrigin (o : τ) : List (Tree τ) → List (Tree τ)
  | [] => []
  | t :: ts => t.withOrigin o :: itemsWithOrigin o ts

/-- The fields of a dictionary with another origin of all their nodes. -/
def fieldsWithOrigin (o : τ) : List (String × Tree τ) → List (String × Tree τ)
  | [] => []
  | (key, t) :: rest => (key, t.withOrigin o) :: fieldsWithOrigin o rest

end

mutual

/-- The tree in which the second tree overrides the first one. -/
def merge : Tree τ → Tree τ → Tree τ
  | dict _ fields, dict o entries => dict o (mergeFields fields entries)
  | _, scalar o s => scalar o s
  | _, list o items => list o items
  | _, dict o entries => dict o entries
termination_by structural _ upper => upper

/-- The fields in which the second ones override the first ones. -/
def mergeFields : List (String × Tree τ) → List (String × Tree τ) → List (String × Tree τ)
  | fields, [] => fields
  | fields, entry :: rest => mergeFields (mergeEntry fields entry) rest
termination_by structural _ entries => entries

/-- The fields in which one entry overrides the one under its key. -/
def mergeEntry : List (String × Tree τ) → String × Tree τ → List (String × Tree τ)
  | fields, (key, upper) =>
    match Fields.get? key fields with
    | some lower => Fields.insert key (merge lower upper) fields
    | none => Fields.insert key upper fields
termination_by structural _ entry => entry

end

end Tree
end TypeCatalog.Settings
