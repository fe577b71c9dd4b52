import TypeCatalog.Yaml.Scalar.Gap

/-!
# Quoted scalars

Between single quotes a quote is written twice. Between double quotes a backslash starts an escape;
before a line break it takes the break away.
-/

namespace TypeCatalog.Yaml

/-- The kind of the quotes. -/
inductive Quote where
  | single
  | double
  deriving DecidableEq, Repr

/-- The quote. -/
def Quote.char : Quote → Char
  | .single => '\''
  | .double => '"'

/-- What is read next of a quoted scalar. -/
inductive QuotedMode where
  | text
  /-- Behind a backslash. -/
  | escape
  /-- In a number, before `left + 1` more digits. -/
  | code (left value : Nat)
  /-- Behind a single quote, which ends the scalar unless another one follows. -/
  | quote
  deriving DecidableEq, Repr

/-- The character a letter stands for behind a backslash. -/
def escaped? : Char → Option Char
  | '0' => some '\x00'
  | 'a' => some '\x07'
  | 'b' => some '\x08'
  | 't' | '\t' => some '\t'
  | 'n' => some '\n'
  | 'v' => some '\x0b'
  | 'f' => some '\x0c'
  | 'r' => some '\r'
  | 'e' => some '\x1b'
  | ' ' => some ' '
  | '"' => some '"'
  | '/' => some '/'
  | '\\' => some '\\'
  | 'N' => some '\u0085'
  | '_' => some '\u00a0'
  | 'L' => some '\u2028'
  | 'P' => some '\u2029'
  | _ => none

/-- How many digits follow a letter behind a backslash. -/
def codeLength? : Char → Option Nat
  | 'x' => some 2
  | 'u' => some 4
  | 'U' => some 8
  | _ => none

/-- The value of a hexadecimal digit. -/
def hexValue? (c : Char) : Option Nat :=
  if c.isDigit then some (c.toNat - '0'.toNat)
  else if 'a' ≤ c ∧ c ≤ 'f' then some (c.toNat - 'a'.toNat + 10)
  else if 'A' ≤ c ∧ c ≤ 'F' then some (c.toNat - 'A'.toNat + 10)
  else none

/-- Reads a quoted scalar on, where `done` was read, last character first, and then the gap `g`. -/
def quotedFrom (q : Quote) (done : List Char) (g : Gap) (mode : QuotedMode) (p : Place) :
    List Char → Option (List Char × Cursor)
  | [] => if mode = .quote then some (done.reverse, ⟨p, []⟩) else none
  | '\r' :: '\n' :: rest =>
    match mode with
    | .text => quotedFrom q done (g.addBreak '\n') .text p.nextLine rest
    | .escape => quotedFrom q done { broken := true } .text p.nextLine rest
    | .code .. => none
    | .quote => some (done.reverse, ⟨p, '\r' :: '\n' :: rest⟩)
  | c :: rest =>
    match mode with
    | .text =>
      if isBreak c then quotedFrom q done (g.addBreak c) .text p.nextLine rest
      else if isBlank c then quotedFrom q done (g.addBlank c) .text (p.behind c) rest
      else if p.column == 0 && atDocumentMarker (c :: rest) then none
      else
        let done := g.folded ++ done
        if c == q.char then
          match q with
          | .single => quotedFrom q done .none .quote (p.behind c) rest
          | .double => some (done.reverse, ⟨p.behind c, rest⟩)
        else if q == .double && c == '\\' then quotedFrom q done .none .escape (p.behind c) rest
        else quotedFrom q (c :: done) .none .text (p.behind c) rest
    | .escape =>
      if isBreak c then quotedFrom q done { broken := true } .text p.nextLine rest
      else match escaped? c, codeLength? c with
        | some d, _ => quotedFrom q (d :: done) .none .text (p.behind c) rest
        | none, some length => quotedFrom q done .none (.code (length - 1) 0) (p.behind c) rest
        | none, none => none
    | .code left value =>
      match hexValue? c, left with
      | none, _ => none
      | some d, 0 =>
        let n := value * 16 + d
        if n.isValidChar then quotedFrom q (Char.ofNat n :: done) .none .text (p.behind c) rest
        else none
      | some d, left + 1 => quotedFrom q done .none (.code left (value * 16 + d)) (p.behind c) rest
    | .quote =>
      if c == '\'' then quotedFrom q ('\'' :: done) .none .text (p.behind c) rest
      else some (done.reverse, ⟨p, c :: rest⟩)

/-- Reads a quoted scalar, at its opening quote. -/
def quoted (q : Quote) (c : Cursor) : Option (List Char × Cursor) :=
  let c := c.advance 1
  quotedFrom q [] .none .text c.place c.rest

end TypeCatalog.Yaml
