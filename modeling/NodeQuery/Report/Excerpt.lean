import NodeQuery.Diagnostic
import NodeQuery.Text.Blank
import NodeQuery.Text.Utf8
import NodeQuery.Unicode.Width

/-!
# Excerpts of a source text

A report shows the lines that its span is about.  Of a span over many lines it shows the first ones
and the last ones.
-/

namespace NodeQuery.Report

/-- A line of a source text. -/
structure SourceLine where
  text : List Char
  /-- Lines are numbered from 1. -/
  number : Nat
  /-- The offset of the first byte. -/
  start : Nat
  /-- The offset behind the line end. -/
  stop : Nat
  /-- The bytes of the line end. -/
  endSize : Nat
  deriving Repr, DecidableEq

/-- The lines of a text, the first of which has the given number and offset; `text` are the
characters that have been read of it, the latest first.  A line ends with `\n` or `\r\n`, and
there is no line behind the last line end. -/
def splitLines (number start : Nat) (text : List Char) : List Char → List SourceLine
  | [] =>
      if text.isEmpty then []
      else [⟨text.reverse, number, start, start + Utf8.size text, 0⟩]
  | '\n' :: rest =>
      let stop := start + Utf8.size text + 1
      let line : SourceLine :=
        match text with
        | '\r' :: text => ⟨text.reverse, number, start, stop, 2⟩
        | text => ⟨text.reverse, number, start, stop, 1⟩
      line :: splitLines (number + 1) stop [] rest
  | char :: rest => splitLines number start (char :: text) rest

/-- The line that an empty text has. -/
def emptyLine : SourceLine := ⟨[], 1, 0, 1, 0⟩

/-- The lines of a text, of which there is at least one. -/
def sourceLines (source : String) : List SourceLine :=
  match splitLines 1 0 [] source.toList with
  | [] => [emptyLine]
  | lines => lines

/-- A control character as a visible one, a tab as four blanks.  Marks that join characters or
change their direction are not shown as they are. -/
def visible (char : Char) : List Char :=
  let code := char.toNat
  if char = '\t' then [' ', ' ', ' ', ' ']
  else if char = '\n' then [char]
  else if code < 0x20 then [Char.ofNat (0x2400 + code)]
  else if code = 0x7f then [Char.ofNat 0x2421]
  else if code = 0x200d then []
  else if (0x202a ≤ code && code ≤ 0x202e) || (0x2066 ≤ code && code ≤ 0x2069) then
    [Char.ofNat 0xfffd]
  else [char]

/-- A text as it is shown. -/
def visibleText (text : List Char) : List Char := text.flatMap visible

/-- The columns of a character as it is shown. -/
def columnsOf (char : Char) : Nat :=
  match visible char with
  | [shown] => Unicode.width shown
  | shown => shown.length

/-- The columns of a text as it is shown. -/
def columns (text : List Char) : Nat := text.foldl (fun sum char => sum + columnsOf char) 0

/-- A place in a line. -/
structure Spot where
  line : Nat
  /-- The characters of the line in front of it. -/
  chars : Nat
  /-- The columns of the line in front of it. -/
  column : Nat
  deriving Repr, DecidableEq

/-- The longest beginning of a text that has at most the given number of bytes. -/
def takeBytes : Nat → List Char → List Char
  | _, [] => []
  | size, char :: text =>
      if char.utf8Size ≤ size then char :: takeBytes (size - char.utf8Size) text else []

/-- The line that holds an offset, or the last one. -/
def lineAt (lines : List SourceLine) (offset : Nat) : SourceLine :=
  (lines.find? fun line => line.start ≤ offset && offset < line.stop).getD
    (lines.getLastD emptyLine)

/-- The places where a span starts and ends.  A start in a line end counts as one character further
than the text of the line.  So does an end in the line end of another line. -/
def spots (lines : List SourceLine) (span : Span) : Spot × Spot :=
  let first := lineAt lines span.start
  let before := takeBytes (span.start - first.start) first.text
  let inEnd := Utf8.size first.text < span.start - first.start
  let start : Spot :=
    ⟨first.number, if inEnd then before.length + 1 else before.length, columns before⟩
  if span.start = span.stop then (start, start)
  else
    let last := lineAt lines span.stop
    let before := takeBytes (span.stop - last.start) last.text
    let stop : Spot := ⟨last.number, before.length, columns before⟩
    if first.number ≠ last.number && last.stop - last.endSize < span.stop then
      (start, ⟨stop.line, stop.chars + 1, stop.column + 1⟩)
    else (start, stop)

/-- What is drawn at a line of an excerpt; numbers are columns. -/
inductive Mark where
  /-- The whole span. -/
  | span (first : Nat) (last : Nat)
  /-- The start of a span of several lines. -/
  | opening (column : Nat)
  /-- A line within the span. -/
  | passing
  /-- The end of a span of several lines, in front of the given column. -/
  | closing (column : Nat)
  deriving Repr, DecidableEq

/-- Whether a line says something: more than a bracket or a comment. -/
def isTelling (text : List Char) : Bool :=
  let text := String.ofList (Text.trim text)
  let isComment := text.startsWith "//" && !(text.startsWith "///" || text.startsWith "//!")
  !isComment && !(["", "\x7b", "\x7d", "(", ")", "[", "]"].contains text)

/-- The lines of a source that a span is about, each with its mark. -/
def excerpt (lines : List SourceLine) (span : Span) : List (SourceLine × Mark) :=
  let (start, stop) := spots lines span
  let marked (number : Nat) (mark : Mark) : List (SourceLine × Mark) :=
    (lines.filter fun line => line.number = number).map fun line => (line, mark)
  let tells (number : Nat) : Bool :=
    lines.any fun line => line.number = number && isTelling line.text
  if start.line = stop.line then
    let last := if start.column = stop.column then stop.column + 1 else stop.column
    marked start.line (.span start.column last)
  else
    let middle := min (start.line + 4) stop.line
    let front := (List.range' start.line (middle - start.line)).reverse.find? tells
    let frontEnd := (front.map (· + 1)).getD start.line
    let passing := List.range' (start.line + 1) (frontEnd - (start.line + 1))
    let back :=
      if middle < stop.line - 1 && tells (stop.line - 1) then [stop.line - 1] else []
    marked start.line (.opening start.column) ++
      (passing ++ back).flatMap (marked · .passing) ++
      marked stop.line (.closing stop.column)

end NodeQuery.Report
