import TypeCatalog.Decimal.Reading
import TypeCatalog.Settings.Tree
import TypeCatalog.Text.Blank
import TypeCatalog.Text.Position

/-!
# Settings from environment variables

A variable whose name starts with a fixed word says one setting. The rest of its name is the path
of that setting, in any case, with two underscores or a point between the keys. Its value is a
word, a quoted text, a character, a list in brackets, or fields in braces; a value that is none of
these is a text as it stands. A word that starts with a truth value is that truth value, and then
nothing may follow it.
-/

namespace TypeCatalog.Settings.Environment

/-! ### Paths -/

/-- The word that the names of all variables start with. -/
def namePrefix : List Char := "REGISTRY_INSPECT__".toList

/-- What follows `front` in a text, where case does not matter. -/
def behindWord? : List Char → List Char → Option (List Char)
  | [], text => some text
  | f :: fs, c :: cs => if f.toLower = c.toLower then behindWord? fs cs else none
  | _ :: _, [] => none

/-- The keys between two underscores or points, in lower case. -/
def keysOf : List Char → List (List Char)
  | [] => [[]]
  | '_' :: '_' :: rest => [] :: keysOf rest
  | c :: rest =>
    if c = '.' then [] :: keysOf rest
    else match keysOf rest with
      | [] => [[c.toLower]]
      | key :: keys => (c.toLower :: key) :: keys

/-- The path that a variable name spells, where outer blanks do not count; no key of it may be
empty. -/
def path? (name : String) : Option (List String) :=
  match behindWord? namePrefix (Text.trim name.toList) with
  | none => none
  | some rest =>
    let keys := keysOf (Text.trim rest)
    if keys.any List.isEmpty then none else some (keys.map String.ofList)

/-! ### Values -/

section
variable {τ : Type}

/-- The blanks around values. -/
def isBlank (c : Char) : Bool := c == ' ' || c == '\t' || c == '\n' || c == '\r' || c == '\x0c'

/-- A text without its leading blanks. -/
def skip (cs : List Char) : List Char := cs.dropWhile isBlank

/-- The characters that end a word. -/
def isSeparator (c : Char) : Bool := c == ',' || c == '{' || c == '}' || c == '[' || c == ']'

/-- The characters of a key without quotes. -/
def isKeyChar (c : Char) : Bool := c.isAlphanum || c == '_' || c == '-'

/-- What follows `front` in a text. -/
def behind? (front text : List Char) : Option (List Char) :=
  if front.isPrefixOf text then some (text.drop front.length) else none

/-- What a word stands for: an integer of at most 64 bits, another number if it has a point, or
itself. -/
def wordValue (word : List Char) : Scalar :=
  match if word.contains '.' then Decimal.float? word else none with
  | some x => .float x
  | none =>
    match Decimal.unsigned? (Nat.pow 2 64) word, Decimal.negative? (Nat.pow 2 63) word with
    | some n, _ => .unsigned n
    | none, some n => .signed n
    | none, none => .text (String.ofList word)

/-- What a word at the start of a text stands for, and what follows it. -/
def word (text : List Char) : Scalar × List Char :=
  match behind? "true".toList text, behind? "false".toList text with
  | some after, _ => (.bool true, after)
  | _, some after => (.bool false, after)
  | none, none =>
    let isWordChar (c : Char) : Bool := !isSeparator c
    (wordValue (Text.trim (text.takeWhile isWordChar)), text.dropWhile isWordChar)

/-- The character with a code point in hexadecimal digits. -/
def charOfHex? (digits : List Char) : Option Char :=
  match Decimal.natOfDigits? 16 digits with
  | some n => if n.isValidChar then some (Char.ofNat n) else none
  | none => none

/-- Whether a character may stand in a quoted text only with a backslash. -/
def isControl (c : Char) : Bool := (decide (c < ' ') && c != '\t') || c == '\x7f'

/-- The inside of a quoted text up to its closing quote, and what follows it. -/
def quotedText? : List Char → Option (List Char × List Char)
  | [] => none
  | '"' :: rest => some ([], rest)
  | '\\' :: 'u' :: a :: b :: c :: d :: rest =>
    match charOfHex? [a, b, c, d], quotedText? rest with
    | some x, some (text, after) => some (x :: text, after)
    | _, _ => none
  | '\\' :: 'U' :: a :: b :: c :: d :: e :: f :: g :: h :: rest =>
    match charOfHex? [a, b, c, d, e, f, g, h], quotedText? rest with
    | some x, some (text, after) => some (x :: text, after)
    | _, _ => none
  | '\\' :: letter :: rest =>
    let escaped := match letter with
      | '"' => some '"'
      | '\\' => some '\\'
      | 'b' => some '\x08'
      | 'f' => some '\x0c'
      | 'n' => some '\n'
      | 'r' => some '\r'
      | 't' => some '\t'
      | _ => none
    match escaped, quotedText? rest with
    | some x, some (text, after) => some (x :: text, after)
    | _, _ => none
  | c :: rest =>
    match if isControl c then none else quotedText? rest with
    | some (text, after) => some (c :: text, after)
    | none => none

/-- A quoted text behind its opening quote, and what follows it. Before a backslash a text keeps as
many bytes as it has characters there. -/
def quoted? (text : List Char) : Option (List Char × List Char) :=
  (quotedText? text).map fun (value, after) =>
    let front := text.takeWhile fun c => c != '\\' && c != '"'
    if text[front.length]? == some '\\' then
      (Text.takeBytes front.length front ++ value.drop front.length, after)
    else (value, after)

/-- A key of fields in braces, and what follows it. -/
def key? (cs : List Char) : Option (String × List Char) :=
  match cs with
  | '"' :: rest => (quoted? rest).map fun (text, after) => (String.ofList text, after)
  | _ =>
    let key := cs.takeWhile isKeyChar
    if key.isEmpty then none else some (String.ofList key, cs.dropWhile isKeyChar)

mutual

/-- A value and what follows it and its blanks; `fuel` bounds the parts that are read. -/
def value? (o : τ) (fuel : Nat) (cs : List Char) : Option (Tree τ × List Char) :=
  match fuel with
  | 0 => none
  | fuel + 1 =>
    let read : Option (Tree τ × List Char) := match skip cs with
      | [] => some (.scalar o (.text ""), [])
      | '{' :: rest => (entries? o fuel rest).map fun (fields, after) =>
          (.dict o (Fields.ofList fields), after)
      | '[' :: rest => (items? o fuel rest).map fun (items, after) => (.list o items, after)
      | '"' :: rest => (quoted? rest).map fun (text, after) =>
          (.scalar o (.text (String.ofList text)), after)
      | '\'' :: rest =>
        match rest with
        | c :: '\'' :: after => some (.scalar o (.text c.toString), after)
        | _ => none
      | text =>
        let (s, after) := word text
        some (.scalar o s, after)
    read.map fun (t, after) => (t, skip after)

/-- The elements of a list up to its closing bracket, and what follows it. -/
def items? (o : τ) (fuel : Nat) (cs : List Char) : Option (List (Tree τ) × List Char) :=
  match fuel, cs with
  | 0, _ => none
  | _ + 1, ']' :: after => some ([], after)
  | fuel + 1, cs =>
    match value? o fuel cs with
    | some (t, ',' :: rest) => (items? o fuel rest).map fun (ts, after) => (t :: ts, after)
    | some (t, ']' :: after) => some ([t], after)
    | _ => none

/-- The fields up to a closing brace, and what follows it. -/
def entries? (o : τ) (fuel : Nat) (cs : List Char) :
    Option (List (String × Tree τ) × List Char) :=
  match fuel, cs with
  | 0, _ => none
  | _ + 1, '}' :: after => some ([], after)
  | fuel + 1, cs =>
    match key? (skip cs) with
    | none => none
    | some (key, behind) =>
      match skip behind with
      | '=' :: rest =>
        match value? o fuel rest with
        | some (t, ',' :: rest) =>
          (entries? o fuel rest).map fun (entries, after) => ((key, t) :: entries, after)
        | some (t, '}' :: after) => some ([(key, t)], after)
        | _ => none
      | _ => none

end

/-- The value of a variable. -/
def valueOf (o : τ) (text : String) : Tree τ :=
  let cs := text.toList
  match value? o (cs.length + 1) cs with
  | some (t, []) => t
  | _ => .scalar o (.text text)

/-! ### The layer -/

/-- What a variable says overrides what is there. -/
def override (o : τ) (t : Tree τ) (entry : String × String) : Tree τ :=
  match path? entry.1 with
  | some path => t.merge ((valueOf o entry.2).nest o path)
  | none => t

/-- What the variables say, in their order; a later one overrides an earlier one. -/
def layer (o : τ) (environment : List (String × String)) : Tree τ :=
  environment.foldl (override o) (.dict o [])

end
end TypeCatalog.Settings.Environment
