/-!
# Canvases

A report is drawn on a canvas: rows of cells, each of which has a character and a style.  What has
not been drawn on is blank.
-/

namespace NodeQuery.Report

/-- How a character is shown. -/
inductive Style where
  | plain
  /-- Bold. -/
  | title
  /-- Bold, in bright red. -/
  | mark
  /-- Bold, in bright blue. -/
  | gutter
  deriving Repr, DecidableEq

/-- The terminal codes that switch a style on. -/
def Style.codes : Style → String
  | .plain => ""
  | .title => "\x1b[1m"
  | .mark => "\x1b[1m\x1b[91m"
  | .gutter => "\x1b[1m\x1b[94m"

/-- The terminal codes that switch a style off. -/
def Style.reset : Style → String
  | .plain => ""
  | _ => "\x1b[0m"

structure Cell where
  char : Char
  style : Style
  deriving Repr, DecidableEq

/-- A cell on which nothing has been drawn. -/
def Cell.blank : Cell := ⟨' ', .plain⟩

/-- Rows of cells. -/
structure Canvas where
  rows : List (List Cell)
  deriving Repr, DecidableEq

namespace Canvas

/-- No rows. -/
def empty : Canvas := ⟨[]⟩

/-- The number of rows. -/
def height (canvas : Canvas) : Nat := canvas.rows.length

/-- Changes the element at an index of a list, which is filled up as far as needed. -/
def alter {α : Type} (filler : α) (change : α → α) : Nat → List α → List α
  | 0, [] => [change filler]
  | 0, item :: items => change item :: items
  | index + 1, [] => filler :: alter filler change index []
  | index + 1, item :: items => item :: alter filler change index items

/-- Changes a row. -/
def alterRow (canvas : Canvas) (row : Nat) (change : List Cell → List Cell) : Canvas :=
  ⟨alter [] change row canvas.rows⟩

/-- Draws one character. -/
def put (canvas : Canvas) (row column : Nat) (char : Char) (style : Style) : Canvas :=
  canvas.alterRow row (alter .blank (fun _ => ⟨char, style⟩) column)

/-- Draws a text, one cell for each character. -/
def write (canvas : Canvas) (row column : Nat) (text : List Char) (style : Style) : Canvas :=
  (text.foldl (fun (canvas, column) char => (canvas.put row column char style, column + 1))
    (canvas, column)).1

/-- Draws a text behind the end of a row. -/
def append (canvas : Canvas) (row : Nat) (text : List Char) (style : Style) : Canvas :=
  canvas.alterRow row (· ++ text.map fun char => ⟨char, style⟩)

/-- Draws one character in the columns from `first` up to `last`, which is left out. -/
def fill (canvas : Canvas) (row first last : Nat) (char : Char) (style : Style) : Canvas :=
  canvas.write row first (List.replicate (last - first) char) style

/-- Puts a text in place of the cells from `first` up to `last`, which is left out, if the row
reaches so far. -/
def replace (canvas : Canvas) (row first last : Nat) (text : List Char) (style : Style) : Canvas :=
  canvas.alterRow row fun cells =>
    if first = last || cells.length < first || cells.length < last then cells
    else cells.take first ++ text.map (⟨·, style⟩) ++ cells.drop last

/-- The text of cells with the codes of their styles; `current` is the style in force. -/
def styledRow (current : Style) : List Cell → String
  | [] => current.reset
  | cell :: cells =>
      if cell.style = current then cell.char.toString ++ styledRow current cells
      else current.reset ++ cell.style.codes ++ cell.char.toString ++ styledRow cell.style cells

/-- The text of cells. -/
def plainRow (cells : List Cell) : String := .ofList (cells.map Cell.char)

/-- The text of a canvas, with codes for a terminal if it is `colored`. -/
def toText (canvas : Canvas) (colored : Bool) : String :=
  "\n".intercalate (canvas.rows.map (if colored then styledRow .plain else plainRow))

end Canvas

end NodeQuery.Report
