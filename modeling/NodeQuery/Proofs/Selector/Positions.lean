import Mathlib.Data.List.DropRight
import NodeQuery.Proofs.Selector.Derivation
import NodeQuery.Proofs.Selector.Lexing
import NodeQuery.Text.Utf8

/-!
# Positions of tokens and errors

The place behind the beginning of a text holds what can be counted there: its bytes, its newlines
and the characters behind the last of these.  A token stands behind the texts of the lexemes in
front of it, and an error at a token or at the end of the text.  So all positions that are reported
are those that can be counted in the text, lines and columns as far as 32 bits go.
-/

namespace NodeQuery

/-! ## Counting -/

theorem Utf8.size_toList (text : String) : Utf8.size text.toList = text.utf8ByteSize := by
  have counted (chars : List Char) : Utf8.size chars = (String.ofList chars).utf8ByteSize := by
    induction chars with
    | nil => rfl
    | cons char chars ih =>
        rw [Utf8.size_cons, ih, String.ofList_cons, String.utf8ByteSize_append,
          String.utf8ByteSize_singleton]
  rw [counted, String.ofList_toList]

/-- What a text has behind another one of the same size has no bytes. -/
theorem Utf8.eq_of_begins {front chars : List Char} (begins : front <+: chars)
    (sizes : Utf8.size front = Utf8.size chars) : front = chars := by
  rcases begins with ⟨rest, rfl⟩
  cases rest with
  | nil => rw [List.append_nil]
  | cons char rest =>
      rw [Utf8.size_append, Utf8.size_cons] at sizes
      have positive := char.utf8Size_pos
      omega

/-- A text has at most one beginning of a size. -/
theorem Utf8.append_inj {front other rest behind : List Char}
    (same : front ++ rest = other ++ behind) (sizes : Utf8.size front = Utf8.size other) :
    front = other ∧ rest = behind := by
  have fronts : front = other := by
    have begins : front <+: other ++ behind := ⟨rest, same⟩
    rcases List.prefix_or_prefix_of_prefix begins (List.prefix_append other behind)
      with shorter | longer
    · exact Utf8.eq_of_begins shorter sizes
    · exact (Utf8.eq_of_begins longer sizes.symm).symm
  subst fronts
  exact ⟨rfl, List.append_cancel_left same⟩

/-- The characters behind the last newline, or all of them if there is none. -/
def lastLine (chars : List Char) : List Char := chars.rtakeWhile (· ≠ '\n')

theorem lastLine_concat (chars : List Char) (char : Char) :
    lastLine (chars ++ [char]) = if char = '\n' then [] else lastLine chars ++ [char] := by
  rw [lastLine, List.rtakeWhile_concat, lastLine]
  by_cases newline : char = '\n'
  · simp [newline]
  · simp [newline]

theorem Place.offset_after (place : Place) (chars : List Char) :
    (place.after chars).offset = place.offset + Utf8.size chars := by
  induction chars generalizing place with
  | nil => rfl
  | cons char chars ih =>
      have step : (place.next char).offset = place.offset + char.utf8Size := by
        unfold Place.next
        split <;> rfl
      rw [Place.after_cons, ih, step, Utf8.size_cons, Nat.add_assoc]

/-- The place behind the beginning of a text counts what is in front of it. -/
theorem Place.after_origin (front : List Char) :
    Place.origin.after front =
      ⟨Utf8.size front, .ofNat (1 + front.count '\n'), .ofNat (1 + (lastLine front).length)⟩ := by
  -- The place moves on at the end of what has been read.
  induction front using List.reverseRecOn with
  | nil => rfl
  | append_singleton front char ih =>
      rw [Place.after_append, ih, Place.after_cons, Place.after_nil, Place.next, lastLine_concat]
      by_cases newline : char = '\n'
      · subst newline
        simp [UInt32.ofNat_add, UInt32.add_assoc]
      · simp [newline, UInt32.ofNat_add, UInt32.add_assoc]

theorem Place.after_newlines (count : Nat) :
    Place.origin.after (List.replicate count '\n') = ⟨count, .ofNat (1 + count), 1⟩ := by
  induction count with
  | zero => rfl
  | succ count ih =>
      rw [List.replicate_succ', Place.after_append, ih, Place.after_cons, Place.after_nil,
        Place.next, if_pos rfl, ← Nat.add_assoc, UInt32.ofNat_add (1 + count)]
      rfl

/-- What a counter of 32 bits shows when it has counted up to a number. -/
structure Counted (shown number : Nat) : Prop where
  exact : number < UInt32.size → shown = number
  wrapped : shown = number % UInt32.size

theorem counted_ofNat (number : Nat) : Counted (UInt32.ofNat number).toNat number where
  exact := fun fits => by rw [UInt32.toNat_ofNat', Nat.mod_eq_of_lt fits]
  wrapped := UInt32.toNat_ofNat'

/-- The front is what the source has in front of a byte offset.  There is such a front only if a
character ends at the offset or it is zero, and then there is one. -/
structure IsFront (source : String) (offset : Nat) (front : String) : Prop where
  begins : ∃ behind, front ++ behind = source
  bytes : front.utf8ByteSize = offset

/-- There is at most one front of a length. -/
theorem IsFront.unique {source front other : String} {offset : Nat}
    (isFront : IsFront source offset front) (otherIsFront : IsFront source offset other) :
    front = other := by
  rcases isFront with ⟨⟨behind, begins⟩, bytes⟩
  rcases otherIsFront with ⟨⟨otherBehind, otherBegins⟩, otherBytes⟩
  have sizes : Utf8.size front.toList = Utf8.size other.toList := by
    rw [Utf8.size_toList, Utf8.size_toList, bytes, otherBytes]
  have same : front.toList ++ behind.toList = other.toList ++ otherBehind.toList := by
    rw [← String.toList_append, ← String.toList_append, begins, otherBegins]
  exact String.toList_injective (Utf8.append_inj same sizes).1

theorem isFront_of_append {source : String} {front behind : List Char}
    (whole : source.toList = front ++ behind) :
    IsFront source (Utf8.size front) (String.ofList front) := by
  constructor
  · refine ⟨String.ofList behind, ?_⟩
    rw [← String.ofList_append, ← whole, String.ofList_toList]
  · rw [← Utf8.size_toList, String.toList_ofList]

theorem isFront_ofList {source : String} {front behind : List Char}
    (whole : source.toList = front ++ behind) :
    IsFront source (Place.origin.after front).offset (String.ofList front) := by
  rw [Place.after_origin]
  exact isFront_of_append whole

/-- A range of the source with the line and the column where it starts: its ends are within the
source and between characters, and line and column are what counters show that have counted in front
of it. -/
structure Located (source : String) (span : Span) (line column : Nat) : Prop where
  ordered : span.start ≤ span.stop
  inside : span.stop ≤ source.utf8ByteSize
  starts : ∃ front, IsFront source span.start front ∧
    Counted line (1 + front.toList.count '\n') ∧
    Counted column (1 + (lastLine front.toList).length)
  stops : ∃ front, IsFront source span.stop front

/-- The place stands in front of a stretch of the text, and the offset behind it. -/
def Spans (start : Place) (chars : List Char) (place : Place) (stop : Nat) : Prop :=
  ∃ front middle behind, chars = front ++ middle ++ behind ∧ place = start.after front ∧
    stop = (place.after middle).offset

theorem Spans.append {start place : Place} {front chars : List Char} {stop : Nat}
    (spans : Spans (start.after front) chars place stop) :
    Spans start (front ++ chars) place stop := by
  rcases spans with ⟨between, middle, behind, rfl, rfl, rfl⟩
  refine ⟨front ++ between, middle, behind, ?_, ?_, rfl⟩
  · simp
  · rw [Place.after_append]

/-- What starts and stops at places of the text is reported where it is. -/
theorem Spans.located {source : String} {place : Place} {stop : Nat}
    (spans : Spans .origin source.toList place stop) :
    Located source ⟨place.offset, stop⟩ place.line place.column := by
  rcases spans with ⟨front, middle, behind, whole, rfl, rfl⟩
  have bytes : source.utf8ByteSize = Utf8.size (front ++ middle ++ behind) := by
    rw [← whole, Utf8.size_toList]
  rw [← Place.after_append]
  constructor
  · simp [Place.after_origin]
  · simp [Place.after_origin, bytes]
  · refine ⟨String.ofList front, isFront_ofList (by rw [whole, List.append_assoc]), ?_, ?_⟩
    · rw [Place.line, Place.after_origin, String.toList_ofList]
      exact counted_ofNat _
    · rw [Place.column, Place.after_origin, String.toList_ofList]
      exact counted_ofNat _
  · exact ⟨String.ofList (front ++ middle), isFront_ofList whole⟩

namespace Selector

open Lexeme (rowText)

/-! ## Tokens -/

/-- Each token stands behind the texts of the lexemes in front of it. -/
theorem Token.split_of_listFrom {place : Place} {chars : List Char}
    {tokens before behind : List Token} {token : Token}
    (found : Token.listFrom place chars = .ok tokens) (split : tokens = before ++ token :: behind) :
    chars = rowText (before.map Token.lexeme) ++ token.lexeme.text.toList ++
        rowText (behind.map Token.lexeme) ∧
      token.place = place.after (rowText (before.map Token.lexeme)) ∧
      token.stop = (token.place.after token.lexeme.text.toList).offset := by
  fun_induction Token.listFrom place chars generalizing tokens before with
  | case1 =>
      cases found
      simp at split
  | case2 => cases found
  | case3 => cases found
  | case4 place char chars lexeme rest read reached others listed =>
      rename_i ih
      cases found
      rw [← Lexeme.text_append_of_read read]
      cases before with
      | nil =>
          cases split
          have text := (Token.cuts_of_listFrom listed).text
          exact ⟨by rw [text]; rfl, rfl, rfl⟩
      | cons first before =>
          cases split
          rcases ih listed rfl with ⟨whole, stands, ends⟩
          refine ⟨?_, ?_, ends⟩
          · rw [whole, List.map_cons, Lexeme.rowText_cons]
            simp
          · rw [stands, List.map_cons, Lexeme.rowText_cons, Place.after_append]

theorem Token.spans_of_mem {place : Place} {chars : List Char} {tokens : List Token}
    {token : Token} (found : Token.listFrom place chars = .ok tokens) (member : token ∈ tokens) :
    Spans place chars token.place token.stop := by
  rcases List.append_of_mem member with ⟨before, behind, split⟩
  rcases Token.split_of_listFrom found split with ⟨whole, stands, ends⟩
  exact ⟨_, _, _, whole, stands, ends⟩

/-- The unexpected character is the one that no lexeme starts with. -/
theorem Lexeme.eq_of_read_unexpected {char other : Char} {rest : List Char}
    (failed : Lexeme.read char rest = .error (.unexpected other)) : other = char := by
  unfold Lexeme.read at failed
  repeat' split at failed
  all_goals cases failed
  rfl

/-- A text that cannot be cut is at fault in one character or from there to its end. -/
theorem Token.spans_of_error {place : Place} {chars : List Char} {error : Token.Error}
    (failed : Token.listFrom place chars = .error error) :
    Spans place chars error.place error.stop := by
  fun_induction Token.listFrom place chars with
  | case1 => cases failed
  | case2 place char chars fault read =>
      cases failed
      cases fault with
      | unexpected other =>
          obtain rfl := Lexeme.eq_of_read_unexpected read
          exact ⟨[], [other], chars, rfl, rfl, rfl⟩
      | unclosed pair => exact ⟨[], char :: chars, [], by simp, rfl, rfl⟩
  | case3 place char chars lexeme rest read reached other listed ih =>
      cases failed
      rw [← Lexeme.text_append_of_read read]
      exact (ih listed).append
  | case4 => cases failed

/-! ## Faults of the parser -/

/-- What the parser finds fault with: a token that the lexemes in front of it do not admit, or the
end of the text. -/
inductive Fault (last : Place) (tokens : List Token) : SyntaxError → Prop where
  | token {before behind : List Token} {token : Token} {state : State} {cause : SyntaxError.Cause}
      (split : tokens = before ++ token :: behind)
      (front : State.initial.Reads (before.map Token.lexeme) state)
      (refused : state.advance token.lexeme = .error cause) :
      Fault last tokens (.atToken cause token)
  | ended {state : State} {expectation : Expectation}
      (read : State.initial.Reads (tokens.map Token.lexeme) state)
      (refused : state.finish = .error expectation) :
      Fault last tokens (.atEnd (.expected expectation none) last)

theorem fault_of_ofTokens {last : Place} {tokens : List Token} {error : SyntaxError}
    (failed : ofTokens last tokens = .error error) : Fault last tokens error := by
  rcases bind_eq_error.mp failed with taken | ⟨state, taken, ended⟩
  · rcases foldlM_eq_error.mp taken with ⟨before, token, behind, state, split, front, refused⟩
    rcases mapError_eq_error.mp refused with ⟨cause, advanced, rfl⟩
    exact .token split (foldlM_take_eq_ok.mp front) advanced
  · rcases mapError_eq_error.mp ended with ⟨expectation, refused, rfl⟩
    exact .ended (foldlM_take_eq_ok.mp taken) refused

theorem parse_eq_error {source : String} {error : SyntaxError} :
    parse source = .error error ↔
      (∃ fault, Token.list source = .error fault ∧ error = .ofLexical fault) ∨
        ∃ tokens, Token.list source = .ok tokens ∧
          ofTokens (Place.origin.after source.toList) tokens = .error error := by
  rw [parse, bind_eq_error]
  simp only [mapError_eq_error, mapError_eq_ok]

/-- The end of a text is a place of it. -/
theorem spans_end (source : String) :
    Spans .origin source.toList (Place.origin.after source.toList)
      (Place.origin.after source.toList).offset :=
  ⟨source.toList, [], [], by simp, rfl, rfl⟩

/-- What is reported of a token, of a text that is no row of lexemes and of one that is no selector
is where it is said to be: the ends of its range lie between characters of the text, its line counts
the newlines in front of it, and its column the characters behind the last of these.  Both are exact
if 32 bits are enough for them. -/
theorem reports_are_located (source : String) :
    (∀ tokens, Token.list source = .ok tokens → ∀ token ∈ tokens,
      Located source token.span token.place.line token.place.column) ∧
    (∀ error, Token.list source = .error error →
      let shown := (SyntaxError.ofLexical error).diagnostic
      Located source shown.span shown.line shown.column) ∧
    ∀ error, parse source = .error error →
      let shown := error.diagnostic
      Located source shown.span shown.line shown.column := by
  have lexical {error : Token.Error} (failed : Token.list source = .error error) :
      Located source ⟨error.place.offset, error.stop⟩ error.place.line error.place.column :=
    (Token.spans_of_error failed).located
  refine ⟨?_, fun error failed => lexical failed, ?_⟩
  · intro tokens listed token member
    exact (Token.spans_of_mem listed member).located
  · intro error failed
    rcases parse_eq_error.mp failed with ⟨fault, noRow, rfl⟩ | ⟨tokens, listed, refused⟩
    · exact lexical noRow
    · cases fault_of_ofTokens refused with
      | token split front refused =>
          have member := split ▸ List.mem_append_right _ List.mem_cons_self
          exact (Token.spans_of_mem listed member).located
      | ended read refused => exact (spans_end source).located

/-- A predicate over two lines with a character of two bytes, then a character that starts no
lexeme, a second combinator and a comma at the end of a text. -/
theorem reports_are_located_across_lines :
    Token.list "a[\n\"é]\"] b" =
        .ok [⟨.name "a", ⟨0, 1, 1⟩, 1⟩, ⟨.predicate "\n\"é]\"", ⟨1, 1, 2⟩, 9⟩,
          ⟨.blank " ", ⟨9, 2, 6⟩, 10⟩, ⟨.name "b", ⟨10, 2, 7⟩, 11⟩] ∧
      Located "a[\n\"é]\"] b" ⟨10, 11⟩ 2 7 ∧
      Token.list "a\n é" = .error ⟨.unexpected 'é', ⟨3, 2, 2⟩, 5⟩ ∧
      Located "a\n é" ⟨3, 5⟩ 2 2 ∧
      parse "a\n> >b" = .error ⟨.expected .selector (some .greater), ⟨4, 2, 3⟩, 5⟩ ∧
      Located "a\n> >b" ⟨4, 5⟩ 2 3 ∧
      parse "[é\n]," = .error ⟨.expected .groupAfterComma none, ⟨6, 2, 3⟩, 6⟩ ∧
      Located "[é\n]," ⟨6, 6⟩ 2 3 := by
  have tokens : Token.list "a[\n\"é]\"] b" =
      .ok [⟨.name "a", ⟨0, 1, 1⟩, 1⟩, ⟨.predicate "\n\"é]\"", ⟨1, 1, 2⟩, 9⟩,
        ⟨.blank " ", ⟨9, 2, 6⟩, 10⟩, ⟨.name "b", ⟨10, 2, 7⟩, 11⟩] := by decide +kernel
  have unexpected : Token.list "a\n é" = .error ⟨.unexpected 'é', ⟨3, 2, 2⟩, 5⟩ := by
    decide +kernel
  have second : parse "a\n> >b" =
      .error ⟨.expected .selector (some .greater), ⟨4, 2, 3⟩, 5⟩ := by decide +kernel
  have ended : parse "[é\n]," = .error ⟨.expected .groupAfterComma none, ⟨6, 2, 3⟩, 6⟩ := by
    decide +kernel
  refine ⟨tokens, ?_, unexpected, ?_, second, ?_, ended, ?_⟩
  · exact (reports_are_located _).1 _ tokens ⟨.name "b", ⟨10, 2, 7⟩, 11⟩ (by simp)
  · exact (reports_are_located _).2.1 _ unexpected
  · exact (reports_are_located _).2.2 _ second
  · exact (reports_are_located _).2.2 _ ended

theorem Token.list_newlines_dollar {front : String} {count : Nat}
    (newlines : front.toList = List.replicate count '\n') (positive : 0 < count) :
    Token.list (front ++ "$") =
      .error ⟨.unexpected '$', ⟨count, .ofNat (1 + count), 1⟩, count + 1⟩ := by
  have wellFormed : Lexeme.WellFormed (.blank front) := by
    refine ⟨'\n', List.replicate (count - 1) '\n', ?_, rfl, ?_⟩
    · rw [newlines, ← List.replicate_succ, Nat.sub_add_cancel positive]
    · intro char member
      rw [List.eq_of_mem_replicate member]
      rfl
  have ends : Lexeme.EndsBefore ['$'].head? (.blank front) := by
    rintro _ ⟨⟩
    rfl
  have dollar (place : Place) : Token.listFrom place ['$'] =
      .error ⟨.unexpected '$', place, (place.next '$').offset⟩ := by
    rw [Token.listFrom]
    rfl
  rw [Token.list, String.toList_append]
  refine (Token.listFrom_text wellFormed ends .origin).trans ?_
  rw [dollar, Lexeme.text, newlines, Place.after_newlines]
  rfl

/-- The newlines in front of the dollar sign are as many as a counter can hold, so that the error in
line 2 ^ 32 is reported in line zero. -/
theorem line_is_zero_behind_full_counter :
    let front := String.ofList (List.replicate (UInt32.size - 1) '\n')
    let error : Token.Error := ⟨.unexpected '$', ⟨UInt32.size - 1, 0, 1⟩, UInt32.size⟩
    Token.list (front ++ "$") = .error error ∧ IsFront (front ++ "$") error.place.offset front ∧
      1 + front.toList.count '\n' = UInt32.size ∧
      (SyntaxError.ofLexical error).diagnostic.line = 0 := by
  intro front error
  have newlines : front.toList = List.replicate (UInt32.size - 1) '\n' := String.toList_ofList
  refine ⟨Token.list_newlines_dollar newlines (by decide), ?_, ?_, rfl⟩
  · have isFront : IsFront (front ++ "$") _ (String.ofList front.toList) :=
      isFront_ofList String.toList_append
    rwa [newlines, Place.after_newlines] at isFront
  · rw [newlines, List.count_replicate_self]
    exact Nat.add_sub_of_le (by decide)

end Selector

end NodeQuery
