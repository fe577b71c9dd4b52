/-!
# Kinds of types

The four kinds a snapshot knows, with the text that stands for each.
-/

namespace TypeCatalog

/-- What sort of type is exported. -/
inductive Kind where
  | plainClass
  | interface
  | enumeration
  | abstractClass
  deriving DecidableEq, Repr

namespace Kind

/-- Every kind, in the order of listings. -/
def all : List Kind := [.plainClass, .interface, .enumeration, .abstractClass]

/-- The text that stands for a kind in a snapshot. -/
def text : Kind → String
  | .plainClass => "Class"
  | .interface => "Interface"
  | .enumeration => "Enum"
  | .abstractClass => "AbstractClass"

/-- The kind a text stands for; case matters. -/
def ofText? (s : String) : Option Kind := all.find? fun kind => kind.text == s

theorem mem_all (kind : Kind) : kind ∈ all := by
  cases kind <;> simp [all]

theorem text_injective {a b : Kind} (h : a.text = b.text) : a = b := by
  cases a <;> cases b <;> simp [text] at h ⊢

@[simp] theorem ofText?_text (kind : Kind) : ofText? kind.text = some kind := by
  cases kind <;> rfl

theorem eq_text_of_ofText? {s : String} {kind : Kind} (h : ofText? s = some kind) :
    s = kind.text := by
  have := List.find?_some h
  exact (eq_of_beq this).symm

end Kind
end TypeCatalog
