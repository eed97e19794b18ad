/-!
# Places in a text

Every token and every error of a selector says where it stands: as a byte range of the UTF-8
text and as a line and a column.  A `Place` carries all three counts and is moved forward one
character at a time.  Lines and columns are counted in 32 bits, so that a counter that is full goes
on with zero.
-/

namespace NodeQuery

/-- A place between two characters of a text. -/
structure Place where
  /-- Bytes of UTF-8 before the place. -/
  offset : Nat
  /-- Counts one more than the newlines before the place. -/
  lines : UInt32
  /-- Counts one more than the characters between the last newline and the place. -/
  columns : UInt32
  deriving Repr, DecidableEq, Inhabited

namespace Place

/-- The line as it is reported. -/
def line (place : Place) : Nat := place.lines.toNat

/-- The column as it is reported. -/
def column (place : Place) : Nat := place.columns.toNat

/-- The place before the first character. -/
def origin : Place := ⟨0, 1, 1⟩

/-- The place behind one more character. -/
def next (place : Place) (char : Char) : Place :=
  if char = '\n' then
    ⟨place.offset + char.utf8Size, place.lines + 1, 1⟩
  else
    ⟨place.offset + char.utf8Size, place.lines, place.columns + 1⟩

/-- The place behind a stretch of text. -/
def after (place : Place) (chars : List Char) : Place :=
  chars.foldl next place

@[simp] theorem after_nil (place : Place) : place.after [] = place := rfl

@[simp] theorem after_cons (place : Place) (char : Char) (chars : List Char) :
    place.after (char :: chars) = (place.next char).after chars := rfl

theorem after_append (place : Place) (left right : List Char) :
    place.after (left ++ right) = (place.after left).after right := by
  simp [after]

end Place

/-- A half-open byte range of a text. -/
structure Span where
  start : Nat
  stop : Nat
  deriving Repr, DecidableEq, Inhabited

end NodeQuery
