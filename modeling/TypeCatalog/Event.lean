/-!
# Log events

What the library reports on its way, apart from how it is printed: a level, a message and named
fields.
-/

namespace TypeCatalog

/-- How much an event matters. -/
inductive Level where
  | error
  | warn
  | info
  | debug
  | trace
  deriving DecidableEq, Repr

/-- The word for a level. -/
def Level.text : Level → String
  | .error => "ERROR"
  | .warn => "WARN"
  | .info => "INFO"
  | .debug => "DEBUG"
  | .trace => "TRACE"

/-- The value of a field of an event. -/
inductive EventValue where
  | count (n : Nat)
  /-- A text that is shown as it is. -/
  | text (s : String)
  /-- A text that is shown in quotes. -/
  | quoted (s : String)
  deriving DecidableEq, Repr

end TypeCatalog
