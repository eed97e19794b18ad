import NodeQuery.Proofs.Predicate.Bracketing
import NodeQuery.Proofs.Predicate.Printing
import NodeQuery.Proofs.Query.MalformedBodies

/-!
# Quoted text in predicates

To write a text into a predicate it suffices to put a backslash in front of every backslash and
every quote of the kind that stands around it.  All other characters, line ends among them, denote
themselves.  So no text can close its literal, or the brackets around the predicate, too early.
-/

namespace NodeQuery.Predicate

/-- The two kinds of quotes that can stand around a string literal. -/
inductive QuoteMark where
  | double
  | single
  deriving Repr, DecidableEq

namespace QuoteMark

def char : QuoteMark → Char
  | .double => '"'
  | .single => '\''

/-- One character between quotes. -/
def escape (mark : QuoteMark) (char : Char) : List Char :=
  if char = '\\' ∨ char = mark.char then ['\\', char] else [char]

/-- A text between quotes, backslashes and quotes of the same kind escaped. -/
def quote (mark : QuoteMark) (text : String) : String :=
  String.ofList (mark.char :: (text.toList.flatMap mark.escape ++ [mark.char]))

theorem toList_quote (mark : QuoteMark) (text : String) :
    (mark.quote text).toList =
      mark.char :: (text.toList.flatMap mark.escape ++ [mark.char]) :=
  String.toList_ofList

variable (mark : QuoteMark)

/-- An escaped character is one character of the literal, whatever it is. -/
theorem denotes_escape {literal text : List Char} (char : Char)
    (behind : Lexeme.Denotes mark.char literal text) :
    Lexeme.Denotes mark.char (mark.escape char ++ literal) (char :: text) := by
  by_cases special : char = '\\' ∨ char = mark.char
  · rw [escape, if_pos special]
    rcases special with rfl | rfl
    · exact .escape (by decide) behind
    · cases mark with
      | double => exact .escape (by decide) behind
      | single => exact .escape (by decide) behind
  · rw [escape, if_neg special]
    obtain ⟨noBackslash, noQuote⟩ := not_or.mp special
    exact .plain noBackslash noQuote behind

/-- The first quote that is not escaped is the one behind the text. -/
theorem denotes_flatMap_escape (text : List Char) :
    Lexeme.Denotes mark.char (text.flatMap mark.escape ++ [mark.char]) text := by
  induction text with
  | nil => exact .close
  | cons char text ih =>
      rw [List.flatMap_cons, List.append_assoc]
      exact mark.denotes_escape char ih

end QuoteMark

/-- A quoted text is a lexeme by itself, whatever stands behind it. -/
theorem Spells.quote (mark : QuoteMark) (text : String) :
    Spells (mark.quote text).toList [.string text] := by
  intro rest behind closes lists
  have visible : isBlank mark.char = false := by cases mark <;> rfl
  have quotes : mark.char = '"' ∨ mark.char = '\'' := by cases mark <;> decide
  have escapes : mark.char ≠ '\\' := by cases mark <;> decide
  have read := (mark.denotes_flatMap_escape text.toList).readString? escapes rest
  have first := (Lexeme.Heads.string quotes read).read?
  rw [String.ofList_toList] at first
  rw [mark.toList_quote]
  exact .cons visible first lists

theorem Reads.quote (mark : QuoteMark) (text : String) :
    Reads Grammar.Indexing (mark.quote text).toList (.literal (.string text)) 0 :=
  ⟨[.string text], 0, Nat.le_refl 0, .quote mark text, .none (.literal (.string text))⟩

/-- Any text between quotes, with backslashes in front of backslashes and quotes of this kind, is
read as the literal that denotes it.  Compared with a path it makes a predicate that brackets
enclose as it stands: a selector of one step, which compares the path with just this text. -/
theorem quoted_text_is_literal (mark : QuoteMark) (text : String) {limit : Nat}
    (positive : 1 ≤ limit) :
    parse (mark.quote text) limit = .ok (.literal (.string text)) ∧
      ∀ segments : List String, segments ≠ [] → (∀ segment ∈ segments, IsName segment) →
        let body := ".".intercalate segments ++ " == " ++ mark.quote text
        Selector.parse ("[" ++ body ++ "]") = .ok ⟨[⟨[.predicate body]⟩]⟩ ∧
          parse body limit = .ok (.compare .eq (.path segments) (.literal (.string text))) := by
  have literal := Reads.quote mark text
  constructor
  · have read := literal.disjunction.expression.parse positive
    rwa [String.ofList_toList] at read
  · intro segments nonempty names body
    have comparison := (Reads.path nonempty names).compare .eq literal
    have read := comparison.expression.parse positive
    have spelled : String.ofList ((".".intercalate segments).toList ++
        ' ' :: (CompareOp.eq.symbol.toList ++ ' ' :: (mark.quote text).toList)) = body := by
      apply String.toList_injective
      simp [body, CompareOp.symbol]
    rw [spelled] at read
    exact ⟨Selector.parse_bracketed (encloses_of_parse read), read⟩

/-- The text ends like a literal and a predicate with another step behind it. -/
theorem quoted_text_is_literal_behind_brackets :
    let text := "'\\\"] > *[\n"
    let body := "a.b == " ++ QuoteMark.single.quote text
    QuoteMark.single.quote text = "'\\'\\\\\"] > *[\n'" ∧
      Selector.parse ("[" ++ body ++ "]") = .ok ⟨[⟨[.predicate body]⟩]⟩ ∧
      parse body 1 = .ok (.compare .eq (.path ["a", "b"]) (.literal (.string text))) := by
  intro text body
  have names : ∀ segment ∈ ["a", "b"], IsName segment := by
    intro segment member
    rcases List.mem_pair.mp member with rfl | rfl
    · exact ⟨⟨rfl, rfl⟩, rfl⟩
    · exact ⟨⟨rfl, rfl⟩, rfl⟩
  exact ⟨by decide, (quoted_text_is_literal .single text Nat.one_pos).2 ["a", "b"] nofun names⟩

end NodeQuery.Predicate
