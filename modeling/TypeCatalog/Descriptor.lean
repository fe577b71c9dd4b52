import TypeCatalog.Name
import TypeCatalog.Kind
import TypeCatalog.Modifiers

/-!
# Type descriptors

One exported type: its simple name, its package, its kind and its modifiers. The two names are
well formed in every descriptor.
-/

namespace TypeCatalog

/-- One exported type. -/
structure Descriptor where
  name : String
  package : String
  kind : Kind
  modifiers : Modifiers
  name_wellFormed : Name.isIdentifier name = true
  package_wellFormed : Name.isPackageName package = true
  deriving DecidableEq

namespace Descriptor

/-- Checks the simple name and then the package; a refusal names the type. -/
def make (name package : String) (kind : Kind) (modifiers : Modifiers) :
    Except EntryDefect Descriptor :=
  if hn : Name.isIdentifier name = true then
    if hp : Name.isPackageName package = true then
      .ok ⟨name, package, kind, modifiers, hn, hp⟩
    else .error ((EntryDefect.ofReason (.badPackageName package)).forType name)
  else .error ((EntryDefect.ofReason (.badTypeName name)).forType name)

/-- As `make`, with the kind still a text; the kind is looked at first. -/
def ofTexts (name package kind : String) (modifiers : Modifiers) :
    Except EntryDefect Descriptor :=
  match Kind.ofText? kind with
  | some kind => make name package kind modifiers
  | none => .error ((EntryDefect.ofReason (.unknownKind kind)).forType name)

/-- The pair that identifies the type. -/
def qualifiedName (d : Descriptor) : QualifiedName := ⟨d.package, d.name⟩

end Descriptor
end TypeCatalog
