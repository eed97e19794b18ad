import NodeQuery.Proofs.Selector.Positions
import NodeQuery.Proofs.Selector.Spacing

/-!
# Errors stand at the first fault

A text that consists of lexemes but is no selector is reported to be at fault at one token or at its
end.  The text in front of that place is the beginning of a selector: it is one itself, or one
more name makes it one.  And no selector begins with the text up to the end of the token: whatever
is written behind it, the lexemes in front of the token stay what they are and one of the token's
kind follows them, which the parser refuses.
-/

namespace NodeQuery.Selector

open Lexeme (rowText)

/-! ## Beginnings of rows -/

namespace Lexeme

variable {lexeme other : Lexeme} {char : Char} {rest behind : List Char}

/-- The kind of the lexemes that start with a character, if there are any. -/
def Kind.startedBy? (char : Char) : Option Kind :=
  if isBlank char then some .blank
  else if isNameStart char then some .name
  else
    match char with
    | ',' => some .comma
    | '*' => some .star
    | '.' => some .dot
    | '#' => some .hash
    | '+' => some .plus
    | '>' => some .greater
    | '~' => some .tilde
    | ':' => some .colon
    | '[' => some .predicate
    | '(' => some .arguments
    | _ => none

/-- The kind of a lexeme shows in its first character. -/
theorem startedBy?_of_text (wellFormed : lexeme.WellFormed)
    (starts : lexeme.text.toList = char :: rest) : Kind.startedBy? char = some lexeme.kind := by
  cases lexeme with
  | blank text =>
      rcases wellFormed with ⟨first, others, shape, start, -⟩
      obtain rfl : first = char := (List.cons.inj (shape.symm.trans starts)).1
      exact if_pos start
  | name text =>
      rcases wellFormed with ⟨first, others, shape, start, -⟩
      obtain rfl : first = char := (List.cons.inj (shape.symm.trans starts)).1
      have notBlank := isBlank_eq_false_of_isNamePart (isNamePart_of_isNameStart start)
      exact (if_neg (by simp [notBlank])).trans (if_pos start)
  | predicate body =>
      have shape : '[' :: (body.toList ++ [']']) = char :: rest := by simpa [text] using starts
      cases shape
      rfl
  | arguments body =>
      have shape : '(' :: (body.toList ++ [')']) = char :: rest := by simpa [text] using starts
      cases shape
      rfl
  | _ =>
      cases starts
      rfl

/-- A text starts with at most one lexeme that cannot go on. -/
theorem eq_of_text_append (wellFormed : lexeme.WellFormed) (ends : lexeme.EndsBefore rest.head?)
    (otherWellFormed : other.WellFormed) (otherEnds : other.EndsBefore behind.head?)
    (same : lexeme.text.toList ++ rest = other.text.toList ++ behind) :
    lexeme = other ∧ rest = behind := by
  rcases read_text wellFormed ends with ⟨char, chars, shape, found⟩
  rcases read_text otherWellFormed otherEnds with ⟨otherChar, otherChars, otherShape, otherFound⟩
  obtain ⟨rfl, rfl⟩ := List.cons.inj (shape.symm.trans (same.trans otherShape))
  have agree := Except.ok.inj (found.symm.trans otherFound)
  exact ⟨congrArg Prod.fst agree, congrArg Prod.snd agree⟩

theorem text_eq_cons (wellFormed : lexeme.WellFormed) :
    ∃ char rest, lexeme.text.toList = char :: rest := by
  have ends : lexeme.EndsBefore ([] : List Char).head? := endsBefore_none lexeme
  rcases read_text wellFormed ends with ⟨char, chars, shape, -⟩
  rw [List.append_nil] at shape
  exact ⟨char, chars, shape⟩

end Lexeme

namespace Cuts

variable {front behind lexemes : List Lexeme} {lexeme : Lexeme} {chars : List Char}

/-- A beginning of a row is the cut of its text. -/
theorem left (cuts : Cuts chars (front ++ behind)) : Cuts (rowText front) front where
  wellFormed := (List.forall_mem_append.mp cuts.wellFormed).1
  apart := (List.isChain_append.mp cuts.apart).1
  text := rfl

/-- A name can be written behind anything but a name. -/
theorem concat_name (cuts : Cuts chars front) {name : String} (isName : IsName name)
    (noName : ∀ last ∈ front.getLast?, ∀ other, last ≠ .name other) :
    Cuts (chars ++ name.toList) (front ++ [.name name]) where
  wellFormed := List.forall_mem_append.mpr ⟨cuts.wellFormed, List.forall_mem_singleton.mpr isName⟩
  apart := by
    apply cuts.apart.append (.singleton _)
    rintro last ending _ ⟨⟩
    exact Lexeme.apart_of_not_name (noName last ending) nofun
  text := by simp [Lexeme.rowText, Lexeme.text, ← cuts.text]

theorem ne_nil (cuts : Cuts chars lexemes) (nonempty : lexemes ≠ []) : chars ≠ [] := by
  rcases List.exists_cons_of_ne_nil nonempty with ⟨first, others, rfl⟩
  rcases Lexeme.text_eq_cons (cuts.wellFormed first List.mem_cons_self) with ⟨char, rest, starts⟩
  rw [← cuts.text, Lexeme.rowText_cons, starts]
  exact List.cons_ne_nil _ _

theorem eq_cons (cuts : Cuts chars lexemes) (nonempty : chars ≠ []) :
    ∃ first others, lexemes = first :: others := by
  apply List.exists_cons_of_ne_nil
  rintro rfl
  exact nonempty cuts.text.symm

/-- Whatever follows a row, the row is kept but for its last lexeme, and that one keeps its kind. -/
theorem resumes (cuts : Cuts (rowText (front ++ [lexeme])) (front ++ [lexeme]))
    {further : List Char} (whole : Cuts (rowText (front ++ [lexeme]) ++ further) lexemes) :
    ∃ next behind, lexemes = front ++ next :: behind ∧ next.kind = lexeme.kind := by
  -- The lexemes of the front end where the next one starts; only the last can go on further.
  induction front generalizing lexemes with
  | nil =>
      rcases whole.eq_cons (List.append_ne_nil_of_left_ne_nil (cuts.ne_nil (by simp)) further)
        with ⟨other, others, rfl⟩
      rcases cons_iff.mp whole with ⟨otherWellFormed, behind, same, -⟩
      have wellFormed : lexeme.WellFormed := cuts.wellFormed lexeme List.mem_cons_self
      rcases Lexeme.text_eq_cons wellFormed with ⟨char, rest, starts⟩
      rcases Lexeme.text_eq_cons otherWellFormed with ⟨first, chars, otherStarts⟩
      have firsts : first :: (chars ++ behind) = char :: (rest ++ further) := by
        simpa [Lexeme.rowText, starts, otherStarts] using same
      obtain rfl : first = char := (List.cons.inj firsts).1
      have otherKind := Lexeme.startedBy?_of_text otherWellFormed otherStarts
      have kind := Lexeme.startedBy?_of_text wellFormed starts
      exact ⟨other, others, rfl, Option.some.inj (otherKind.symm.trans kind)⟩
  | cons first front ih =>
      rcases whole.eq_cons (List.append_ne_nil_of_left_ne_nil (cuts.ne_nil (by simp)) further)
        with ⟨other, others, rfl⟩
      rcases cons_iff.mp whole with ⟨otherWellFormed, behind, same, otherEnds, otherTail⟩
      rcases cons_iff.mp cuts with ⟨wellFormed, rest, text, ends, tail⟩
      obtain rfl : rest = rowText (front ++ [lexeme]) := tail.text.symm
      rw [← List.head?_append_of_ne_nil _ (tail.ne_nil (by simp))] at ends
      have texts : first.text.toList ++ (rowText (front ++ [lexeme]) ++ further) =
          other.text.toList ++ behind := by
        rw [same, List.cons_append, Lexeme.rowText_cons, List.append_assoc]
      rcases Lexeme.eq_of_text_append wellFormed ends otherWellFormed otherEnds texts
        with ⟨rfl, rfl⟩
      rcases ih tail otherTail with ⟨next, behind, rfl, kind⟩
      exact ⟨next, behind, rfl, kind⟩

end Cuts

/-! ## Beginnings of selectors -/

namespace State

variable {state next : State} {lexeme other : Lexeme}

/-- Behind a name the text can end. -/
theorem finish_behind_name {name : String} (taken : state.advance (.name name) = .ok next) :
    ∃ selector, next.finish = .ok selector := by
  rcases state with ⟨groups, operations, mode⟩
  cases mode with
  | star => cases taken
  | sigil sigil =>
      cases sigil <;> cases taken <;> exact ⟨_, rfl⟩
  | _ =>
      cases taken
      exact ⟨_, rfl⟩

/-- The text can end, or it can go on with a name. -/
theorem finish_or_advance_name (state : State) (name : String) :
    (∃ selector, state.finish = .ok selector) ∨ ∃ next, state.advance (.name name) = .ok next := by
  rcases state with ⟨groups, operations, mode⟩
  cases mode with
  | star => exact .inl ⟨_, rfl⟩
  | sigil sigil => cases sigil <;> exact .inr ⟨_, rfl⟩
  | _ => exact .inr ⟨_, rfl⟩

/-- Whether a lexeme is refused depends on its kind only. -/
theorem advance_of_kind_eq (same : lexeme.kind = other.kind)
    (taken : state.advance lexeme = .ok next) : ∃ behind, state.advance other = .ok behind := by
  rcases state with ⟨groups, operations, mode⟩
  cases lexeme with
  | blank text =>
      cases other with
      | blank otherText =>
          cases mode with
          | sigil sigil => cases sigil <;> cases taken
          | _ => exact ⟨_, rfl⟩
      | _ => cases same
  | name text =>
      cases other with
      | name otherText =>
          cases mode with
          | sigil sigil => cases sigil <;> exact ⟨_, rfl⟩
          | star => cases taken
          | _ => exact ⟨_, rfl⟩
      | _ => cases same
  | predicate body =>
      cases other with
      | predicate otherBody =>
          cases mode with
          | sigil sigil => cases sigil <;> cases taken
          | star => cases taken
          | _ => exact ⟨_, rfl⟩
      | _ => cases same
  | arguments args =>
      cases other with
      | arguments otherArgs =>
          cases mode with
          | colonName name => exact ⟨_, rfl⟩
          | sigil sigil => cases sigil <;> cases taken
          | _ => cases taken
      | _ => cases same
  | _ => cases other <;> first | exact ⟨_, taken⟩ | cases same

end State

/-- What the parser has read is a selector or becomes one by a name. -/
theorem viable_of_reads {front : List Lexeme} {state : State} (cuts : Cuts (rowText front) front)
    (reads : State.initial.Reads front state) :
    (∃ selector, parse (String.ofList (rowText front)) = .ok selector) ∨
      ∃ selector, parse (String.ofList (rowText front) ++ "x") = .ok selector := by
  by_cases finishes : ∃ selector, state.finish = .ok selector
  · rcases finishes with ⟨selector, finished⟩
    refine .inl ⟨selector, parse_eq_ok_iff_cuts.mpr ⟨front, ?_, state, reads, finished⟩⟩
    rwa [String.toList_ofList]
  · rcases (state.finish_or_advance_name "x").resolve_left finishes with ⟨next, taken⟩
    rcases State.finish_behind_name taken with ⟨selector, finished⟩
    -- The name stays a lexeme of its own: behind another name the text could have ended.
    have noName : ∀ last ∈ front.getLast?, ∀ other, last ≠ .name other := by
      rintro _ ending other rfl
      rcases List.getLast?_eq_some_iff.mp ending with ⟨before, rfl⟩
      rcases State.reads_append.mp reads with ⟨middle, -, read⟩
      rcases State.reads_cons.mp read with ⟨_, named, ended⟩
      exact finishes (State.reads_nil.mp ended ▸ State.finish_behind_name named)
    have isName : IsName "x" := by decide
    have longer := cuts.concat_name isName noName
    refine .inr ⟨selector, parse_eq_ok_iff_cuts.mpr ⟨front ++ [.name "x"], ?_, next, ?_, finished⟩⟩
    · rwa [String.toList_append, String.toList_ofList]
    · exact State.reads_append.mpr
        ⟨state, reads, State.reads_cons.mpr ⟨next, taken, State.reads_nil.mpr rfl⟩⟩

/-- What is written behind a lexeme that is refused does not matter. -/
theorem parse_ne_ok_of_refused {front : List Lexeme} {lexeme : Lexeme} {state : State}
    {cause : SyntaxError.Cause} (cuts : Cuts (rowText (front ++ [lexeme])) (front ++ [lexeme]))
    (reads : State.initial.Reads front state) (refused : state.advance lexeme = .error cause)
    (behind : String) (selector : Selector) :
    parse (String.ofList (rowText (front ++ [lexeme])) ++ behind) ≠ .ok selector := by
  intro read
  rcases parse_eq_ok_iff_cuts.mp read with ⟨lexemes, whole, final, readAll, -⟩
  rw [String.toList_append, String.toList_ofList] at whole
  rcases cuts.resumes whole with ⟨next, others, rfl, kind⟩
  rcases State.reads_append.mp readAll with ⟨middle, readFront, rest⟩
  obtain rfl : state = middle := Except.ok.inj (reads.symm.trans readFront)
  rcases State.reads_cons.mp rest with ⟨after, taken, -⟩
  rcases State.advance_of_kind_eq kind taken with ⟨_, admitted⟩
  rw [refused] at admitted
  cases admitted

/-- An error of the parser stands at the first fault.  The text in front of it is a selector or
becomes one by a name, and if it is about a token, no selector begins with the text up to the end of
that token. -/
theorem errors_stand_at_first_fault {source : String} {tokens : List Token} {error : SyntaxError}
    (listed : Token.list source = .ok tokens) (failed : parse source = .error error) :
    ∃ before through, IsFront source error.span.start before ∧
      IsFront source error.span.stop through ∧
      ((∃ selector, parse before = .ok selector) ∨
        ∃ selector, parse (before ++ "x") = .ok selector) ∧
      (error.span.start < source.utf8ByteSize →
        ∀ behind selector, parse (through ++ behind) ≠ .ok selector) := by
  have cuts := Token.cuts_of_listFrom listed
  have refused : ofTokens (Place.origin.after source.toList) tokens = .error error := by
    rcases parse_eq_error.mp failed with ⟨fault, noRow, -⟩ | ⟨found, foundListed, refused⟩
    · rw [listed] at noRow
      cases noRow
    · obtain rfl : found = tokens := Except.ok.inj (foundListed.symm.trans listed)
      exact refused
  cases fault_of_ofTokens refused with
  | @token front rest token state cause split reads refusedToken =>
      subst split
      rcases Token.split_of_listFrom listed rfl with ⟨whole, stands, ends⟩
      rw [List.map_append, List.map_cons] at cuts
      have throughCuts := (List.append_cons .. ▸ cuts).left
      have text : rowText (front.map Token.lexeme ++ [token.lexeme]) =
          rowText (front.map Token.lexeme) ++ token.lexeme.text.toList := by
        simp [Lexeme.rowText]
      refine ⟨_, _, ?_, ?_, viable_of_reads cuts.left reads,
        fun _ => parse_ne_ok_of_refused throughCuts reads refusedToken⟩
      · change IsFront source token.place.offset _
        rw [stands]
        exact isFront_ofList (whole.trans (List.append_assoc ..))
      · change IsFront source token.stop _
        rw [ends, stands, ← Place.after_append, text]
        exact isFront_ofList whole
  | @ended state expectation reads unfinished =>
      have front : IsFront source (Place.origin.after source.toList).offset source := by
        have whole : source.toList = source.toList ++ [] := (List.append_nil _).symm
        simpa using isFront_ofList whole
      refine ⟨source, source, front, front, ?_, ?_⟩
      · have viable := viable_of_reads (cuts.text.symm ▸ cuts) reads
        rwa [cuts.text, String.ofList_toList] at viable
      · intro inside
        exact absurd front.bytes.symm (Nat.ne_of_lt inside)

/-- The second argument list of a function is refused: no selector begins with it. -/
theorem errors_stand_at_first_fault_of_second_arguments :
    Token.list "a~\n:b(c)(é) d" =
        .ok [⟨.name "a", ⟨0, 1, 1⟩, 1⟩, ⟨.tilde, ⟨1, 1, 2⟩, 2⟩, ⟨.blank "\n", ⟨2, 1, 3⟩, 3⟩,
          ⟨.colon, ⟨3, 2, 1⟩, 4⟩, ⟨.name "b", ⟨4, 2, 2⟩, 5⟩, ⟨.arguments "c", ⟨5, 2, 3⟩, 8⟩,
          ⟨.arguments "é", ⟨8, 2, 6⟩, 12⟩, ⟨.blank " ", ⟨12, 2, 9⟩, 13⟩,
          ⟨.name "d", ⟨13, 2, 10⟩, 14⟩] ∧
      parse "a~\n:b(c)(é) d" = .error ⟨.strayArguments, ⟨8, 2, 6⟩, 12⟩ ∧
      ((∃ selector, parse "a~\n:b(c)" = .ok selector) ∨
        ∃ selector, parse ("a~\n:b(c)" ++ "x") = .ok selector) ∧
      ∀ behind selector, parse ("a~\n:b(c)(é)" ++ behind) ≠ .ok selector := by
  have listed : Token.list "a~\n:b(c)(é) d" =
      .ok [⟨.name "a", ⟨0, 1, 1⟩, 1⟩, ⟨.tilde, ⟨1, 1, 2⟩, 2⟩, ⟨.blank "\n", ⟨2, 1, 3⟩, 3⟩,
        ⟨.colon, ⟨3, 2, 1⟩, 4⟩, ⟨.name "b", ⟨4, 2, 2⟩, 5⟩, ⟨.arguments "c", ⟨5, 2, 3⟩, 8⟩,
        ⟨.arguments "é", ⟨8, 2, 6⟩, 12⟩, ⟨.blank " ", ⟨12, 2, 9⟩, 13⟩,
        ⟨.name "d", ⟨13, 2, 10⟩, 14⟩] := by decide +kernel
  have failed : parse "a~\n:b(c)(é) d" = .error ⟨.strayArguments, ⟨8, 2, 6⟩, 12⟩ := by
    decide +kernel
  rcases errors_stand_at_first_fault listed failed with ⟨before, through, start, stop, viable, dead⟩
  have beforeIs : before = "a~\n:b(c)" := start.unique ⟨⟨"(é) d", by decide⟩, by decide⟩
  have throughIs : through = "a~\n:b(c)(é)" := stop.unique ⟨⟨" d", by decide⟩, by decide⟩
  subst beforeIs throughIs
  exact ⟨listed, failed, viable, dead (by decide)⟩

end NodeQuery.Selector
