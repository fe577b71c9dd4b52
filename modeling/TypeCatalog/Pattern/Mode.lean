import TypeCatalog.Text.Blank

/-!
# Modes of a pattern

How the characters of a pattern are taken: whether it is about the characters of Unicode or about
single bytes, and whether it may be spaced out with blanks and comments that mean nothing.
-/

namespace TypeCatalog.Pattern

/-- How the characters of a pattern are taken. -/
structure Mode where
  /-- Whether classes hold characters of Unicode and not only ASCII. -/
  unicode : Bool := true
  /-- Whether blanks and comments mean nothing. -/
  spaced : Bool := false
  deriving DecidableEq, Repr

/-- What follows the blanks and comments at the start of a text; a comment runs from a number sign
to the end of the line, and `inComment` tells whether one has begun. -/
def dropSpace (inComment : Bool) : List Char → List Char
  | [] => []
  | c :: rest =>
    if inComment then dropSpace (c != '\n') rest
    else if c == '#' then dropSpace true rest
    else if Text.isBlank c then dropSpace false rest
    else c :: rest

theorem length_dropSpace_le (inComment : Bool) (text : List Char) :
    (dropSpace inComment text).length ≤ text.length := by
  induction text generalizing inComment with
  | nil => exact Nat.le_refl _
  | cons c rest ih =>
    unfold dropSpace
    split
    · exact Nat.le_succ_of_le (ih _)
    · split
      · exact Nat.le_succ_of_le (ih _)
      · split
        · exact Nat.le_succ_of_le (ih _)
        · exact Nat.le_refl _

/-- What follows the part at the start of a text that means nothing. -/
def Mode.skip (mode : Mode) (text : List Char) : List Char :=
  if mode.spaced then dropSpace false text else text

theorem Mode.length_skip_le (mode : Mode) (text : List Char) :
    (mode.skip text).length ≤ text.length := by
  unfold Mode.skip
  split
  · exact length_dropSpace_le false text
  · exact Nat.le_refl _

/-! ### Looking ahead

Between brackets a sign can change the meaning of the sign in front of it. The sign that is looked
for may stand behind blanks, and behind one number sign. -/

/-- The first character of a text that is no blank, where one number sign may be passed over. -/
def firstSign? (passed : Bool) : List Char → Option Char
  | [] => none
  | c :: rest =>
    if Text.isBlank c then firstSign? passed rest
    else if c == '#' && !passed then firstSign? true rest
    else some c

/-- The sign that follows; in a text of blanks it is the blank at its start. -/
def Mode.peek? (mode : Mode) (text : List Char) : Option Char :=
  if mode.spaced then (firstSign? false text).or text.head? else text.head?

/-! ### Options -/

/-- What letters say about an option: it is on if they hold its letter, and off if the letter
follows a minus sign. -/
def optionOf? (letter : Char) (letters : List Char) : Option Bool :=
  if letters.contains letter then some (!(letters.takeWhile (· != letter)).contains '-') else none

/-- The mode after the options that letters turn on and off. -/
def Mode.withOptions (mode : Mode) (letters : List Char) : Mode where
  unicode := (optionOf? 'u' letters).getD mode.unicode
  spaced := (optionOf? 'x' letters).getD mode.spaced

/-- Whether the letters turn options on, and behind a minus sign off. -/
def areOptions (letters : List Char) : Bool :=
  letters.all (fun c => "imsUuRx-".toList.contains c) && decide letters.Nodup &&
    letters.getLast? != some '-'

end TypeCatalog.Pattern
