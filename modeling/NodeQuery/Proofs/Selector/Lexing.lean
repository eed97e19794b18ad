import NodeQuery.Selector.Token
import Mathlib.Data.List.Chain

/-!
# Cutting a text into lexemes

A row of lexemes is a cut of a text if the lexemes are well formed, if no two neighbours would have
been read as one, and if their texts make up the text.  Reading a text finds its cut if there is
one; as reading is a function, there is at most one.
-/

namespace NodeQuery.Selector

/-! ## Bodies between delimiters -/

namespace Delimiters

/-- The matching closer of an opener in front of the body is the one right behind the body. -/
def Encloses (pair : Delimiters) (body : String) : Prop :=
  pair.split? (body.toList ++ [pair.closer]) = some (body.toList, [])

instance (pair : Delimiters) (body : String) : Decidable (pair.Encloses body) :=
  inferInstanceAs (Decidable (_ = _))

theorem keep_eq_some {char : Char} {split : Option (List Char × List Char)}
    {body rest : List Char} :
    keep char split = some (body, rest) ↔
      ∃ inner, split = some (inner, rest) ∧ body = char :: inner := by
  cases split with
  | none => simp [keep]
  | some parts =>
      rcases parts with ⟨inner, behind⟩
      simp only [keep, Option.some.injEq, Prod.mk.injEq]
      constructor
      · rintro ⟨rfl, rfl⟩
        exact ⟨inner, ⟨rfl, rfl⟩, rfl⟩
      · rintro ⟨_, ⟨rfl, rfl⟩, rfl⟩
        exact ⟨rfl, rfl⟩

/-- Where a body ends does not depend on what follows its closer. -/
theorem splitFrom?_body {pair : Delimiters} {depth : Nat} {quoting : Quoting}
    {chars body rest : List Char}
    (found : pair.splitFrom? depth quoting chars = some (body, rest)) (other : List Char) :
    pair.splitFrom? depth quoting (body ++ pair.closer :: other) = some (body, other) := by
  fun_induction splitFrom? pair depth quoting chars generalizing body with
  | case1 => simp at found
  | case2 depth quote char chars ih =>
      rcases keep_eq_some.mp found with ⟨inner, split, rfl⟩
      simp [splitFrom?, keep_eq_some, ih split]
  | case3 depth quote chars ih =>
      rcases keep_eq_some.mp found with ⟨inner, split, rfl⟩
      simp [splitFrom?, keep_eq_some, ih split]
  | case4 depth char chars plain ih =>
      rcases keep_eq_some.mp found with ⟨inner, split, rfl⟩
      simp [splitFrom?, keep_eq_some, plain, ih split]
  | case5 depth quote char chars plain inside ih =>
      rcases keep_eq_some.mp found with ⟨inner, split, rfl⟩
      simp [splitFrom?, keep_eq_some, plain, inside, ih split]
  | case6 depth char chars opens ih =>
      rcases keep_eq_some.mp found with ⟨inner, split, rfl⟩
      simp [splitFrom?, keep_eq_some, opens, ih split]
  | case7 depth chars plain ih =>
      rcases keep_eq_some.mp found with ⟨inner, split, rfl⟩
      simp [splitFrom?, keep_eq_some, plain, ih split]
  | case8 chars plain differs =>
      simp only [Option.some.injEq, Prod.mk.injEq] at found
      rcases found with ⟨rfl, rfl⟩
      simp [splitFrom?, plain, differs]
  | case9 chars depth plain differs ih =>
      rcases keep_eq_some.mp found with ⟨inner, split, rfl⟩
      simp [splitFrom?, keep_eq_some, plain, differs, ih split]
  | case10 depth char chars plain opens closes ih =>
      rcases keep_eq_some.mp found with ⟨inner, split, rfl⟩
      simp [splitFrom?, keep_eq_some, plain, opens, closes, ih split]

theorem Encloses.split? {pair : Delimiters} {body : String} (encloses : pair.Encloses body)
    (rest : List Char) :
    pair.split? (body.toList ++ pair.closer :: rest) = some (body.toList, rest) :=
  splitFrom?_body encloses rest

theorem encloses_of_split? {pair : Delimiters} {chars body rest : List Char}
    (found : pair.split? chars = some (body, rest)) : pair.Encloses (String.ofList body) := by
  rw [Encloses, String.toList_ofList]
  exact splitFrom?_body found []

end Delimiters

/-! ## Single lexemes -/

/-- The text is not empty; its first character can start and each other one continue a run. -/
def IsRun (starts continues : Char → Bool) (text : String) : Prop :=
  ∃ first rest, text.toList = first :: rest ∧ starts first = true ∧
    ∀ char ∈ rest, continues char = true

theorem isRun_iff {starts continues : Char → Bool} {text : String} :
    IsRun starts continues text ↔
      (text.toList.head?.any starts && text.toList.tail.all continues) = true := by
  rw [IsRun]
  cases text.toList with
  | nil => simp
  | cons first rest => simp

instance (starts continues : Char → Bool) (text : String) :
    Decidable (IsRun starts continues text) :=
  decidable_of_iff _ isRun_iff.symm

/-- The text is read as one name. -/
def IsName : String → Prop := IsRun isNameStart isNamePart

/-- The text is a run of blanks. -/
def IsBlankRun : String → Prop := IsRun isBlank isBlank

instance (text : String) : Decidable (IsName text) :=
  inferInstanceAs (Decidable (IsRun isNameStart isNamePart text))

theorem isNamePart_of_isNameStart {char : Char} (start : isNameStart char = true) :
    isNamePart char = true := by
  simp [isNamePart, start]

/-- Blanks and the characters of names have nothing in common. -/
theorem isNamePart_eq_false_of_isBlank {char : Char} (blank : isBlank char = true) :
    isNamePart char = false := by
  simp only [isBlank, Bool.or_eq_true, decide_eq_true_eq] at blank
  rcases blank with ((rfl | rfl) | rfl) | rfl <;> decide

theorem isBlank_eq_false_of_isNamePart {char : Char} (part : isNamePart char = true) :
    isBlank char = false := by
  by_contra blank
  rw [Bool.not_eq_false] at blank
  rw [isNamePart_eq_false_of_isBlank blank] at part
  cases part

namespace Lexeme

/-- What the lexeme holds is what such a lexeme can hold. -/
def WellFormed : Lexeme → Prop
  | .blank text => IsBlankRun text
  | .name text => IsName text
  | .predicate body => Delimiters.brackets.Encloses body
  | .arguments body => Delimiters.parentheses.Encloses body
  | _ => True

/-- A text starting with the given character, if with any, does not go on with the lexeme. -/
def EndsBefore (next : Option Char) : Lexeme → Prop
  | .blank _ => ∀ char ∈ next, isBlank char = false
  | .name _ => ∀ char ∈ next, isNamePart char = false
  | _ => True

/-- The two lexemes stay two if they are written next to each other. -/
def Apart : Lexeme → Lexeme → Prop
  | .blank _, .blank _ => False
  | .name _, .name _ => False
  | _, _ => True

/-- A run is taken as far as it goes and no further. -/
theorem span_run {continues : Char → Bool} {run rest : List Char}
    (all : ∀ char ∈ run, continues char = true)
    (stops : ∀ char ∈ rest.head?, continues char = false) :
    (run ++ rest).takeWhile continues = run ∧ (run ++ rest).dropWhile continues = rest := by
  rw [List.takeWhile_append_of_pos all, List.dropWhile_append_of_pos all]
  cases rest with
  | nil => simp
  | cons char rest => simp [stops char rfl]

/-- What is taken of a text is a run, and the rest does not go on with it. -/
theorem run_of_span (continues : Char → Bool) (chars : List Char) :
    (∀ char ∈ chars.takeWhile continues, continues char = true) ∧
      ∀ char ∈ (chars.dropWhile continues).head?, continues char = false := by
  refine ⟨fun char member => List.all_eq_true.mp List.all_takeWhile char member, ?_⟩
  intro char first
  have stopped := List.head?_dropWhile_not continues chars
  rw [Option.mem_def.mp first] at stopped
  simpa using stopped

/-- Reading finds a well-formed lexeme in front of a text that does not go on with it. -/
theorem read_text {lexeme : Lexeme} (wellFormed : lexeme.WellFormed) {rest : List Char}
    (ends : lexeme.EndsBefore rest.head?) :
    ∃ char chars, lexeme.text.toList ++ rest = char :: chars ∧
      read char chars = .ok (lexeme, rest) := by
  cases lexeme with
  | blank text =>
      rcases wellFormed with ⟨first, others, shape, start, all⟩
      rcases span_run all ends with ⟨taken, dropped⟩
      refine ⟨first, others ++ rest, by simp [Lexeme.text, shape], ?_⟩
      simp [read, start, taken, dropped, ← shape]
  | name text =>
      rcases wellFormed with ⟨first, others, shape, start, all⟩
      rcases span_run all ends with ⟨taken, dropped⟩
      have notBlank := isBlank_eq_false_of_isNamePart (isNamePart_of_isNameStart start)
      refine ⟨first, others ++ rest, by simp [Lexeme.text, shape], ?_⟩
      simp [read, start, notBlank, taken, dropped, ← shape]
  | predicate body =>
      have split : Delimiters.brackets.split? (body.toList ++ ']' :: rest) =
          some (body.toList, rest) := wellFormed.split? rest
      refine ⟨'[', body.toList ++ ']' :: rest, by simp [Lexeme.text], ?_⟩
      rw [read, if_neg (by decide), if_neg (by decide)]
      simp [split]
  | arguments body =>
      have split : Delimiters.parentheses.split? (body.toList ++ ')' :: rest) =
          some (body.toList, rest) := wellFormed.split? rest
      refine ⟨'(', body.toList ++ ')' :: rest, by simp [Lexeme.text], ?_⟩
      rw [read, if_neg (by decide), if_neg (by decide)]
      simp [split]
  | _ => exact ⟨_, rest, rfl, rfl⟩

/-- What is read is well formed, and it is all that can be read. -/
theorem spec_of_read {char : Char} {chars rest : List Char} {lexeme : Lexeme}
    (found : read char chars = .ok (lexeme, rest)) :
    lexeme.WellFormed ∧ lexeme.EndsBefore rest.head? := by
  unfold read at found
  split at found
  case isTrue blank =>
      cases found
      rcases run_of_span isBlank chars with ⟨run, stops⟩
      exact ⟨⟨char, chars.takeWhile isBlank, by simp, blank, run⟩, stops⟩
  case isFalse =>
      split at found
      case isTrue start =>
          cases found
          rcases run_of_span isNamePart chars with ⟨run, stops⟩
          exact ⟨⟨char, chars.takeWhile isNamePart, by simp, start, run⟩, stops⟩
      case isFalse =>
          split at found
          case h_9 =>
              split at found
              · cases found
                exact ⟨Delimiters.encloses_of_split? (by assumption), trivial⟩
              · cases found
          case h_10 =>
              split at found
              · cases found
                exact ⟨Delimiters.encloses_of_split? (by assumption), trivial⟩
              · cases found
          case h_11 => cases found
          all_goals
            cases found
            exact ⟨trivial, trivial⟩

/-! ## Neighbours -/

/-- A lexeme ends in front of exactly those well-formed lexemes that are apart from it. -/
theorem endsBefore_text_iff {lexeme next : Lexeme} (wellFormed : next.WellFormed)
    (rest : List Char) :
    lexeme.EndsBefore (next.text.toList ++ rest).head? ↔ lexeme.Apart next := by
  cases lexeme with
  | blank text =>
      cases next with
      | blank other =>
          rcases wellFormed with ⟨first, others, shape, start, _⟩
          simp [EndsBefore, Lexeme.text, shape, start, Apart]
      | name other =>
          rcases wellFormed with ⟨first, others, shape, start, _⟩
          have notBlank := isBlank_eq_false_of_isNamePart (isNamePart_of_isNameStart start)
          simp [EndsBefore, Lexeme.text, shape, notBlank, Apart]
      | _ => simp [EndsBefore, Lexeme.text, isBlank, Apart]
  | name text =>
      cases next with
      | blank other =>
          rcases wellFormed with ⟨first, others, shape, start, _⟩
          simp [EndsBefore, Lexeme.text, shape, isNamePart_eq_false_of_isBlank start, Apart]
      | name other =>
          rcases wellFormed with ⟨first, others, shape, start, _⟩
          simp [EndsBefore, Lexeme.text, shape, isNamePart_of_isNameStart start, Apart]
      | _ => simp +decide [EndsBefore, Lexeme.text, Apart]
  | _ => exact Iff.rfl

theorem endsBefore_none (lexeme : Lexeme) : lexeme.EndsBefore none := by
  cases lexeme <;> simp [EndsBefore]

end Lexeme

/-! ## Rows of lexemes -/

/-- The text of a row of lexemes. -/
def Lexeme.rowText (lexemes : List Lexeme) : List Char :=
  lexemes.flatMap fun lexeme => lexeme.text.toList

theorem Lexeme.rowText_cons (lexeme : Lexeme) (lexemes : List Lexeme) :
    rowText (lexeme :: lexemes) = lexeme.text.toList ++ rowText lexemes :=
  List.flatMap_cons

/-- The lexemes are those of the text. -/
structure Cuts (chars : List Char) (lexemes : List Lexeme) : Prop where
  wellFormed : ∀ lexeme ∈ lexemes, lexeme.WellFormed
  apart : lexemes.IsChain Lexeme.Apart
  text : Lexeme.rowText lexemes = chars

namespace Cuts

theorem nil : Cuts [] [] := ⟨by simp, .nil, rfl⟩

/-- A row starts with a lexeme that ends in front of the text of the others. -/
theorem cons_iff {chars : List Char} {lexeme : Lexeme} {lexemes : List Lexeme} :
    Cuts chars (lexeme :: lexemes) ↔
      lexeme.WellFormed ∧ ∃ rest, lexeme.text.toList ++ rest = chars ∧
        lexeme.EndsBefore rest.head? ∧ Cuts rest lexemes := by
  constructor
  · rintro ⟨wellFormed, apart, rfl⟩
    rcases List.forall_mem_cons.mp wellFormed with ⟨head, tail⟩
    rcases List.isChain_cons.mp apart with ⟨neighbours, chain⟩
    refine ⟨head, Lexeme.rowText lexemes, rfl, ?_, tail, chain, rfl⟩
    cases lexemes with
    | nil => exact Lexeme.endsBefore_none lexeme
    | cons next others =>
        exact (Lexeme.endsBefore_text_iff (tail next List.mem_cons_self) _).mpr
          (neighbours next rfl)
  · rintro ⟨head, rest, rfl, ends, tail, chain, rfl⟩
    refine ⟨List.forall_mem_cons.mpr ⟨head, tail⟩, List.isChain_cons.mpr ⟨?_, chain⟩, rfl⟩
    cases lexemes with
    | nil => simp
    | cons next others =>
        rintro _ ⟨⟩
        exact (Lexeme.endsBefore_text_iff (tail next List.mem_cons_self) _).mp ends

end Cuts

namespace Token

/-- What reading a text finds is a cut of it. -/
theorem cuts_of_listFrom {place : Place} {chars : List Char} {tokens : List Token}
    (found : listFrom place chars = .ok tokens) : Cuts chars (tokens.map Token.lexeme) := by
  fun_induction listFrom place chars generalizing tokens with
  | case1 =>
      cases found
      exact .nil
  | case2 => cases found
  | case3 => cases found
  | case4 place char chars lexeme rest read behind others listed =>
      rename_i ih
      cases found
      rcases Lexeme.spec_of_read read with ⟨wellFormed, ends⟩
      exact Cuts.cons_iff.mpr
        ⟨wellFormed, rest, Lexeme.text_append_of_read read, ends, ih listed⟩

/-- A lexeme that ends in front of a text is the first one to be read. -/
theorem listFrom_text {lexeme : Lexeme} (wellFormed : lexeme.WellFormed) {rest : List Char}
    (ends : lexeme.EndsBefore rest.head?) (place : Place) :
    listFrom place (lexeme.text.toList ++ rest) =
      (listFrom (place.after lexeme.text.toList) rest).map fun tokens =>
        ⟨lexeme, place, (place.after lexeme.text.toList).offset⟩ :: tokens := by
  rcases Lexeme.read_text wellFormed ends with ⟨char, others, shape, read⟩
  rw [shape, listFrom]
  split
  case h_1 fault failed =>
      rw [read] at failed
      cases failed
  case h_2 same =>
      rw [read] at same
      cases same
      dsimp only
      cases listFrom (place.after lexeme.text.toList) rest <;> rfl

/-- A text that can be cut is read, and the cut is found. -/
theorem listFrom_of_cuts {chars : List Char} {lexemes : List Lexeme} (cuts : Cuts chars lexemes)
    (place : Place) :
    ∃ tokens, listFrom place chars = .ok tokens ∧ tokens.map Token.lexeme = lexemes := by
  induction lexemes generalizing chars place with
  | nil =>
      rcases cuts with ⟨_, _, rfl⟩
      exact ⟨[], by simp [listFrom, Lexeme.rowText], rfl⟩
  | cons lexeme lexemes ih =>
      rcases Cuts.cons_iff.mp cuts with ⟨wellFormed, rest, rfl, ends, tail⟩
      rcases ih tail (place.after lexeme.text.toList) with ⟨tokens, listed, mapped⟩
      refine ⟨⟨lexeme, place, (place.after lexeme.text.toList).offset⟩ :: tokens, ?_, ?_⟩
      · rw [listFrom_text wellFormed ends, listed]
        rfl
      · rw [List.map_cons, mapped]

/-- The lexemes of a text are its cut. -/
theorem list_eq_ok_iff_cuts {source : String} {lexemes : List Lexeme} :
    (∃ tokens, list source = .ok tokens ∧ tokens.map Token.lexeme = lexemes) ↔
      Cuts source.toList lexemes := by
  constructor
  · rintro ⟨tokens, found, rfl⟩
    exact cuts_of_listFrom found
  · intro cuts
    exact listFrom_of_cuts cuts .origin

end Token

end NodeQuery.Selector
