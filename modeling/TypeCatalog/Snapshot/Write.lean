import TypeCatalog.Catalog
import TypeCatalog.Json.Printer

/-!
# Writing snapshots

A catalog is written back as a snapshot with the document list under `documents`. The values of
modifiers are not kept by a catalog: the provenance tag has the provenance as its value, every
other tag has itself.
-/

namespace TypeCatalog.Snapshot

/-- The object that stands for a modifier set. -/
def modifiersValue (m : Modifiers) : Json :=
  .obj (m.tags.toList.map fun tag =>
    (tag, .str (if tag = provenanceTag then m.provenance.getD tag else tag)))

/-- The entry that stands for a type. -/
def typeValue (d : Descriptor) : Json :=
  .obj [("modifiers", modifiersValue d.modifiers), ("name", .str d.name),
    ("packageName", .str d.package), ("type", .str d.kind.text)]

/-- The snapshot that a catalog is written as. -/
def toValue (c : Catalog) : Json :=
  .obj [("documents", .arr c.documents), ("modules", .arr c.modules),
    ("packages", .ofStrings c.packages), ("types", .arr (c.types.map typeValue))]

/-- The snapshot as the value of a declared variable. -/
def toDeclaration (c : Catalog) (name : String) : String :=
  "const " ++ name ++ " = " ++ (toValue c).indented ++ ";\n"

/-- All that is known of a type, the derived facts of its modifiers included. -/
def descriptorValue (d : Descriptor) : Json :=
  .obj [("kind", .str d.kind.text),
    ("modifiers", .obj [("immutable_by_construction", .bool d.modifiers.immutable),
      ("provenance", match d.modifiers.provenance with
        | some text => .str text
        | none => .null),
      ("tags", .ofStrings d.modifiers.tags.toList)]),
    ("name", .str d.name), ("package_name", .str d.package)]

end TypeCatalog.Snapshot
