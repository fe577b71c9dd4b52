import TypeCatalog.Yaml.Fault
import TypeCatalog.Yaml.Tag

/-!
# YAML nodes

A node as it is written: a scalar, a list, a dictionary, or an alias of a node with an anchor.
-/

namespace TypeCatalog.Yaml

/-- What stands before the content of a node. -/
structure Properties where
  /-- Where the node starts. -/
  place : Place
  /-- The number of the anchor. -/
  anchor : Option Nat := none
  tag : Option TagBytes := none
  deriving DecidableEq, Repr

/-- A node of a text. -/
inductive Node where
  | scalar (p : Properties) (isPlain : Bool) (text : String)
  | list (p : Properties) (items : List Node)
  | dict (p : Properties) (entries : List (Node × Node))
  /-- The node whose anchor has a number. -/
  | alias (place : Place) (number : Nat)
  /-- The text cannot be read on from here. -/
  | cut (f : Fault)

namespace Node

/-- The tag of a node. -/
def tag? : Node → Option TagBytes
  | .scalar p .. | .list p _ | .dict p _ => p.tag
  | .alias .. | .cut _ => none

/-- A node that is not written at all. -/
def absent (p : Properties) : Node := .scalar p true ""

mutual

/-- How many parts a node has: it has one for each scalar and alias, and two for each collection. -/
def partCount : Node → Nat
  | .scalar .. => 1
  | .list _ items => 2 + itemParts items
  | .dict _ entries => 2 + entryParts entries
  | .alias .. => 1
  | .cut _ => 0

/-- How many parts the elements of a list have. -/
def itemParts : List Node → Nat
  | [] => 0
  | n :: ns => n.partCount + itemParts ns

/-- How many parts the entries of a dictionary have. -/
def entryParts : List (Node × Node) → Nat
  | [] => 0
  | (k, v) :: rest => k.partCount + v.partCount + entryParts rest

end

/-- A node under the number of its anchor. -/
def entryOf (p : Properties) (n : Node) : List (Nat × Node) :=
  match p.anchor with
  | some number => [(number, n)]
  | none => []

mutual

/-- The nodes with anchors, last one first. -/
def anchored : Node → List (Nat × Node)
  | .scalar p isPlain text => entryOf p (.scalar p isPlain text)
  | .list p items => itemsAnchored items ++ entryOf p (.list p items)
  | .dict p entries => entriesAnchored entries ++ entryOf p (.dict p entries)
  | .alias .. => []
  | .cut _ => []

/-- The nodes with anchors among the elements of a list. -/
def itemsAnchored : List Node → List (Nat × Node)
  | [] => []
  | n :: ns => itemsAnchored ns ++ n.anchored

/-- The nodes with anchors among the entries of a dictionary. -/
def entriesAnchored : List (Node × Node) → List (Nat × Node)
  | [] => []
  | (k, v) :: rest => entriesAnchored rest ++ (v.anchored ++ k.anchored)

end

end Node
end TypeCatalog.Yaml
