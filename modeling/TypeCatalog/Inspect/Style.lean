/-!
# Styled texts

Colours and weights by terminal control sequences, for those outputs that have them.
-/

namespace TypeCatalog.Inspect

/-- How a text is set off. -/
inductive Style where
  | green
  | red
  | boldRed
  | yellow
  | cyan
  | bold
  | dimmed
  deriving DecidableEq, Repr

/-- The control sequence that starts a style. -/
def Style.start : Style → List Char
  | .green => "\x1b[32m".toList
  | .red => "\x1b[31m".toList
  | .boldRed => "\x1b[1;31m".toList
  | .yellow => "\x1b[33m".toList
  | .cyan => "\x1b[36m".toList
  | .bold => "\x1b[1m".toList
  | .dimmed => "\x1b[2m".toList

/-- The control sequence that ends every style. -/
def styleEnd : List Char := "\x1b[0m".toList

/-- The text with a style started anew behind each end of styles in it. -/
def Style.restart (style : Style) (text : List Char) : List Char :=
  match text with
  | '\x1b' :: '[' :: '0' :: 'm' :: rest => styleEnd ++ style.start ++ restart style rest
  | c :: rest => c :: restart style rest
  | [] => []

/-- The text filled up with blanks to a width. -/
def padTo (width : Nat) (text : List Char) : List Char :=
  text ++ List.replicate (width - text.length) ' '

/-- The text in a style, filled up to a width, if the output is coloured; else the text as it is,
filled up to the width. -/
def Style.applyPadded (style : Style) (coloured : Bool) (width : Nat) (text : String) : String :=
  if coloured then
    String.ofList (style.start ++ padTo width (style.restart text.toList) ++ styleEnd)
  else String.ofList (padTo width text.toList)

/-- The text in a style, if the output is coloured. -/
def Style.apply (style : Style) (coloured : Bool) (text : String) : String :=
  style.applyPadded coloured 0 text

/-- A variable that is set counts as true unless it is `0`. -/
def flagOf (environment : List (String × String)) (name : String) : Option Bool :=
  (environment.lookup name).map (· != "0")

/-- Whether output is coloured: if it is forced; else, unless it is turned off, on a terminal. -/
def wantsColour (environment : List (String × String)) (terminal : Bool) : Bool :=
  if flagOf environment "CLICOLOR_FORCE" = some true then true
  else if (flagOf environment "NO_COLOR").isSome then false
  else (flagOf environment "CLICOLOR").getD true && terminal

end TypeCatalog.Inspect
