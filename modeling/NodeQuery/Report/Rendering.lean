import NodeQuery.Report.Canvas
import NodeQuery.Report.Window

/-!
# Reports

A report shows a diagnostic to a reader: its message, where it is from, and the source lines that it
is about, with marks under what is wrong.
-/

namespace NodeQuery

namespace Report

/-- How a report is to be shown. -/
structure Options where
  /-- The path of the source. -/
  path : Option String
  /-- Whether the text has codes for a terminal. -/
  colored : Bool
  deriving Repr, DecidableEq

/-- The columns in which the parts of an excerpt are drawn. -/
structure Layout where
  /-- The digits of the line numbers. -/
  digits : Nat
  /-- Whether the span goes over several lines. -/
  isMultiline : Bool
  window : Window
  label : List Char

namespace Layout

/-- The column of the bars beside the line numbers. -/
def bar (layout : Layout) : Nat := layout.digits + 1

/-- The column of the bar beside a span of several lines. -/
def rail (layout : Layout) : Nat := layout.digits + 3

/-- The column in which source lines start. -/
def code (layout : Layout) : Nat :=
  if layout.isMultiline then layout.rail + 2 else layout.rail

/-- The column of a line number, so that all end in one column. -/
def numberText (layout : Layout) (number : Nat) : List Char :=
  let text := (toString number).toList
  List.replicate (layout.digits - text.length) ' ' ++ text

/-- Draws a source line in the next row; gives how many of its columns are cut off. -/
def drawLine (layout : Layout) (canvas : Canvas) (line : SourceLine) : Canvas × Nat :=
  let row := canvas.height
  let view := layout.window.view line.text
  let front := if view.cutLeft then ellipsis.length else 0
  let canvas :=
    if view.cutLeft then canvas.write row layout.code ellipsis .gutter else canvas
  let canvas := canvas.write row (layout.code + front) view.text .plain
  let canvas :=
    match view.cutRight with
    | some column => canvas.write row (layout.code + column) ellipsis .gutter
    | none => canvas
  let canvas := canvas.write row 0 (layout.numberText line.number) .gutter
  (canvas.put row layout.bar '|' .gutter, view.left)

/-- Draws the bar beside a span of several lines. -/
def drawRail (layout : Layout) (canvas : Canvas) (row : Nat) : Canvas :=
  canvas.put row layout.rail '|' .mark

/-- Cuts the middle out of a mark that is much wider than the terminal, and out of what it marks. -/
def cutMiddle (layout : Layout) (canvas : Canvas) (row first last : Nat) : Canvas :=
  let room := layout.window.room
  if room * 2 < last - first && 10 < last - first then
    let kept := max (room / 3) 5
    let cut (canvas : Canvas) (row : Nat) : Canvas :=
      canvas.replace row (first + kept) (last - kept) ellipsis .gutter
    cut (cut canvas row) (row + 1)
  else canvas

/-- Draws a source line and its mark. -/
def drawMarked (layout : Layout) (canvas : Canvas) (line : SourceLine) (mark : Mark) : Canvas :=
  let row := canvas.height
  let (canvas, left) := layout.drawLine canvas line
  let below := row + 1
  let column (place : Nat) : Nat := layout.code + place - left
  let withBar (canvas : Canvas) : Canvas := canvas.put below layout.bar '|' .gutter
  match mark with
  | .span first last =>
      let canvas := withBar canvas
      let gap := if last = 0 then 2 else 1
      let canvas := canvas.write below (layout.code + (last + gap - left)) layout.label .mark
      let canvas := canvas.fill below (column first) (column last) '^' .mark
      layout.cutMiddle canvas row first last
  | .opening start =>
      if ((visibleText line.text).take start).all Text.isBlank then
        canvas.put row layout.rail '/' .mark
      else
        let canvas := withBar canvas
        let canvas := canvas.fill below (layout.rail + 1) (column start) '_' .mark
        let canvas := canvas.put below layout.rail ' ' .mark
        canvas.put below (column start) '^' .mark
  | .passing => layout.drawRail canvas row
  | .closing stop =>
      let canvas := withBar canvas
      let canvas := canvas.fill below (layout.rail + 1) (column (stop - 1)) '_' .mark
      let canvas := layout.drawRail (layout.drawRail canvas row) below
      let gap := if stop = 0 then 2 else 1
      let canvas := canvas.write below (layout.code + (stop + gap - left)) layout.label .mark
      canvas.put below (column (stop - 1)) '^' .mark

/-- Draws what lies between two lines of an excerpt: nothing, the one line that has been left out,
or dots for several. -/
def drawBetween (layout : Layout) (lines : List SourceLine) (canvas : Canvas)
    (line next : SourceLine) : Canvas :=
  let row := canvas.height
  if line.number + 2 < next.number then
    layout.drawRail (canvas.write row 0 ellipsis .gutter) row
  else if line.number + 2 = next.number then
    match lines.find? fun other => other.number = line.number + 1 with
    | some left => layout.drawRail (layout.drawLine canvas left).1 row
    | none => canvas
  else canvas

/-- Draws the lines of an excerpt. -/
def drawExcerpt (layout : Layout) (lines : List SourceLine) (canvas : Canvas) :
    List (SourceLine × Mark) → Canvas
  | [] => canvas
  | [(line, mark)] => layout.drawMarked canvas line mark
  | (line, mark) :: (next, nextMark) :: rest =>
      let canvas := layout.drawMarked canvas line mark
      let canvas := layout.drawBetween lines canvas line next
      layout.drawExcerpt lines canvas ((next, nextMark) :: rest)

end Layout

/-- The parts of a text between line ends. -/
def splitParts (text : List Char) : List (List Char) :=
  text.foldr
    (fun char parts =>
      if char = '\n' then [] :: parts
      else
        match parts with
        | part :: parts => (char :: part) :: parts
        | [] => [[char]])
    [[]]

/-- Draws the message.  Lines behind its first one are indented. -/
def drawTitle (message : List Char) : Canvas :=
  let kind := "error"
  let canvas := Canvas.empty.append 0 kind.toList .mark
  let canvas := canvas.append 0 ": ".toList .title
  let drawPart (canvas : Canvas) (row : Nat) (part : List Char) : Canvas :=
    let canvas :=
      if row = 0 then canvas
      else canvas.append row (List.replicate (kind.length + 2) ' ') .plain
    canvas.append row part .title
  ((splitParts message).foldl (fun (canvas, row) part => (drawPart canvas row part, row + 1))
    (canvas, 0)).1

/-- Draws the path of the source and the place where a span starts. -/
def drawOrigin (canvas : Canvas) (digits : Nat) (path : String) (start : Spot) : Canvas :=
  let row := canvas.height
  let place := ":" ++ toString start.line ++ ":" ++ toString (start.chars + 1)
  let canvas := canvas.append row (List.replicate digits ' ') .plain
  let canvas := canvas.append row "--> ".toList .gutter
  canvas.append row (path ++ place).toList .plain

/-- The number of digits of the last line number that a span up to an offset may need. -/
def numberWidth (source : String) (stop : Nat) : Nat :=
  let lines := splitLines 1 0 [] (takeBytes stop source.toList)
  (toString (max lines.length 1)).length

end Report

/-- A span within a text of the given size.  An empty span is widened by a byte if there is one. -/
def Span.within (span : Span) (size : Nat) : Span :=
  let start := min span.start size
  let stop := min span.stop size
  if start = stop then ⟨start, min (start + 1) size⟩ else ⟨start, stop⟩

open Report in
/-- The report of a diagnostic on its source. -/
def Diagnostic.report (diagnostic : Diagnostic) (source : String) (options : Options) : String :=
  let span := diagnostic.span.within source.utf8ByteSize
  let lines := sourceLines source
  let start := (spots lines span).1
  let excerpt := excerpt lines span
  let label := visibleText diagnostic.message.toList
  let digits := numberWidth source span.stop
  let isMultiline := excerpt.any fun (_, mark) =>
    match mark with
    | .span _ _ => false
    | _ => true
  let code := digits + 3 + (if isMultiline then 2 else 0)
  let window := Window.ofExcerpt excerpt (columns label) (terminalWidth - code)
  let layout : Layout := ⟨digits, isMultiline, window, label⟩
  let canvas := drawTitle label
  let canvas :=
    match options.path with
    | some path => drawOrigin canvas digits path start
    | none => canvas
  let canvas := canvas.put canvas.height layout.bar '|' .gutter
  (layout.drawExcerpt lines canvas excerpt).toText options.colored

end NodeQuery
