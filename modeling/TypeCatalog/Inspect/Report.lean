import TypeCatalog.Inspect.Style
import TypeCatalog.Snapshot.Write

/-!
# Reports

What the commands print, as lines of text or as JSON.
-/

namespace TypeCatalog.Inspect

/-- How reports are written. -/
structure Manner where
  json : Bool
  coloured : Bool
  deriving DecidableEq, Repr

namespace Report

/-- A line of text. -/
def line (text : String) : String := text ++ "\n"

/-- A JSON value on indented lines. -/
def jsonLines (v : Json) : String := line v.indented

/-- The width of the column of kinds. -/
def kindWidth : Nat := 14

/-- A text filled up to the column of kinds. -/
def inKindColumn (text : String) : String := String.ofList (padTo kindWidth text.toList)

/-- How many types of a kind there are. -/
def kindCount (c : Catalog) (kind : Kind) : Nat := (c.typesOfKind kind).length

/-- A snapshot is usable; how much is in it. -/
def usable (m : Manner) (path : String) (c : Catalog) : String :=
  if m.json then
    jsonLines (.ofFields [("ok", .bool true), ("path", .str path),
      ("packages", .int c.packages.length), ("types", .int c.size),
      ("kinds", .ofFields (Kind.all.map fun kind => (kind.text, .int (kindCount c kind))))])
  else
    line (Style.green.apply m.coloured s!"OK: {path} is a usable snapshot") ++
      line s!"  Packages: {c.packages.length}" ++ line s!"  Types:    {c.size}" ++
      String.join (Kind.all.map fun kind =>
        line ("    " ++ inKindColumn kind.text ++ toString (kindCount c kind)))

/-- A snapshot is not usable, and why. -/
def unusable (m : Manner) (path error : String) : String :=
  if m.json then
    jsonLines (.ofFields [("ok", .bool false), ("path", .str path), ("error", .str error)])
  else
    line (Style.boldRed.apply m.coloured s!"FAILED: {path} is not usable") ++
      line ("  " ++ Style.red.apply m.coloured error)

/-- The declared packages, with their types counted and their subpackages. -/
def packages (m : Manner) (c : Catalog) : String :=
  if m.json then
    jsonLines (.arr (c.packages.map fun p => .ofFields [("name", .str p),
      ("types", .int (c.index.typeCount p)), ("subPackages", .ofStrings (c.index.subPackages p))]))
  else
    String.join (c.packages.map fun p =>
      let count := c.index.typeCount p
      let label := if count = 1 then "type" else "types"
      line (Style.bold.apply m.coloured p ++ s!"  ({count} {label})") ++
        String.join ((c.index.subPackages p).map fun sub =>
          line ("  - " ++ Style.dimmed.apply m.coloured sub)))

/-- A list of types. -/
def types (m : Manner) (ds : List Descriptor) : String :=
  if m.json then jsonLines (.arr (ds.map Snapshot.descriptorValue))
  else String.join (ds.map fun d =>
    line (Style.cyan.applyPadded m.coloured kindWidth d.kind.text ++ d.qualifiedName.display))

/-- All about one type. -/
def detail (m : Manner) (d : Descriptor) : String :=
  if m.json then jsonLines (Snapshot.descriptorValue d)
  else
    line (Style.bold.apply m.coloured d.qualifiedName.display) ++
      line ("  Kind:       " ++ Style.cyan.apply m.coloured d.kind.text) ++
      line s!"  Package:    {d.package}" ++
      line ("  Modifiers:  " ++ String.intercalate ", " d.modifiers.tags.toList) ++
      (match d.modifiers.provenance with
        | some text => line s!"  Provenance: {text}"
        | none => "") ++
      line ("  Immutable:  " ++ if d.modifiers.immutable then "yes" else "no")

/-- No type has the qualified name. -/
def absent (m : Manner) (q : QualifiedName) : String :=
  if m.json then
    jsonLines (.ofFields [("found", .bool false), ("package", .str q.package),
      ("name", .str q.name)])
  else line (Style.yellow.apply m.coloured s!"No type `{q.display}` in this snapshot")

end Report
end TypeCatalog.Inspect
