import NodeQuery.Report.Excerpt

/-!
# Windows on long lines

Where the lines of an excerpt are wider than a terminal, only a window of their columns is shown.
The window holds the marked columns, with a margin around them, and as much else as fits.  Blanks
that all lines begin with are cut off if they are many.
-/

namespace NodeQuery.Report

/-- The columns of a terminal. -/
def terminalWidth : Nat := 140

/-- What stands for text that is cut off. -/
def ellipsis : List Char := ['.', '.', '.']

/-- The columns of all lines that are shown. -/
structure Window where
  left : Nat
  right : Nat
  /-- The columns that there is room for. -/
  room : Nat
  deriving Repr, DecidableEq

namespace Mark

/-- The first and the last column that a mark points at. -/
def ends : Mark → Nat × Nat
  | .span first last => (first, last)
  | .opening column => (column, column + 1)
  | .passing => (0, 0)
  | .closing column => (column - 1, column)

/-- Whether a mark has the label beside it. -/
def hasLabel : Mark → Bool
  | .span _ _ => true
  | .closing _ => true
  | _ => false

end Mark

/-- The columns of the blanks at the front of a text. -/
def indentation (text : List Char) : Nat := columns (text.takeWhile Text.isBlank)

/-- The least of some numbers; zero if there are none. -/
def leastOf (numbers : List Nat) : Nat := (numbers.min?).getD 0

/-- The greatest of some numbers; zero if there are none. -/
def greatestOf (numbers : List Nat) : Nat := (numbers.max?).getD 0

namespace Window

/-- The margin around what is marked. -/
def margin : Nat := 6

/-- The blanks at the front of all lines that are not cut off. -/
def longIndentation : Nat := 20

/-- The blanks that stay where many are cut off. -/
def keptIndentation : Nat := 4

/-- The window on an excerpt, where there is room for some columns; `label` is the number of
columns of the label. -/
def ofExcerpt (excerpt : List (SourceLine × Mark)) (label room : Nat) : Window :=
  let texts := excerpt.map fun (line, _) => line.text
  let marks := excerpt.map Prod.snd
  let indented := texts.filter fun text => !(text.all Text.isBlank)
  let blanks := leastOf (indented.map indentation) - margin
  let spanLeft := leastOf (marks.flatMap fun mark => [mark.ends.1, mark.ends.2]) - margin
  let spanRight := greatestOf (marks.flatMap fun mark => [mark.ends.1, mark.ends.2]) + margin
  let labelEnd (mark : Mark) : Nat :=
    if mark.hasLabel then mark.ends.2 + label + 1 else mark.ends.2
  let labelRight := greatestOf (marks.map labelEnd) + margin
  let left :=
    if longIndentation < blanks then blanks - (longIndentation - keptIndentation) else 0
  let right := max (greatestOf (texts.map columns)) left
  if right - left ≤ room then ⟨left, right, room⟩
  else if labelRight - blanks ≤ room then ⟨blanks, blanks + room, room⟩
  else if labelRight - spanLeft ≤ room then
    let left := spanLeft - (room - (labelRight - spanLeft)) / 2
    ⟨left, left + room, room⟩
  else if spanRight - spanLeft ≤ room then
    let left := spanLeft - (room - (spanRight - spanLeft)) / 5 * 2
    ⟨left, left + room, room⟩
  else ⟨spanLeft, spanRight, room⟩

/-- Drops characters until the given number of columns has been dropped; gives how many have. -/
def dropColumns : Nat → List Char → Nat × List Char
  | _, [] => (0, [])
  | 0, text => (0, text)
  | count, char :: text =>
      let (dropped, rest) := dropColumns (count - Unicode.width char) text
      (dropped + Unicode.width char, rest)

/-- The longest beginning of a text that has at most the given number of columns. -/
def takeColumns : Nat → List Char → List Char
  | _, [] => []
  | count, char :: text =>
      if Unicode.width char ≤ count then char :: takeColumns (count - Unicode.width char) text
      else []

/-- A piece of a line as it is drawn. -/
structure View where
  /-- The columns of the line that are cut off at its front. -/
  left : Nat
  cutLeft : Bool
  text : List Char
  /-- Where the ellipsis stands, counted from the front of the piece, if the end is cut off. -/
  cutRight : Option Nat
  deriving Repr, DecidableEq

/-- The part of a text that is seen through a window.  Whatever is cut off makes room for an
ellipsis. -/
def view (window : Window) (text : List Char) : View :=
  let shown := visibleText text
  let length := columns text
  let left := min window.left length
  let right := if length - window.left ≤ window.room then length else min length window.right
  let (dropped, rest) := dropColumns left shown
  let code := takeColumns (right - left) rest
  let left := max left dropped
  let cutLeft := 0 < window.left
  let (hidden, piece) := if cutLeft then dropColumns ellipsis.length code else (0, code)
  let left := if ellipsis.length < hidden then left + (hidden - ellipsis.length) else left
  let lost := code.length - (dropColumns ellipsis.length code.reverse).2.length
  ⟨left, cutLeft, piece, if right < length then some (hidden + piece.length - lost) else none⟩

end Window

end NodeQuery.Report
