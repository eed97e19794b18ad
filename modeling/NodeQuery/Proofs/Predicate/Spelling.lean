import NodeQuery.Proofs.Predicate.Height
import NodeQuery.Proofs.Selector.Lexing
import NodeQuery.Value.Text

/-!
# How lexemes are spelled

A printed lexeme is read back as it was if nothing behind it could belong to it.  In a printed
expression only blanks, commas and brackets stand behind an operand, and with these neither a word
nor a number goes on.  A string literal ends at its quote, so that escapes are all that has to be
undone.
-/

namespace NodeQuery

/-! ## Quoted text -/

namespace Quoted

/-- Whether a character is written by its code point. -/
def isCoded (char : Char) : Bool := ['\\', 'u'].isPrefixOf (encodeChar char)

/-- The characters that are written as a mark behind a backslash. -/
def marked : List Char := ['"', '\\', '\n', '\r', '\t', '\x00']

/-- What is neither marked nor coded stands for itself. -/
theorem encodeChar_eq_self {char : Char} (legible : isCoded char = false)
    (unmarked : char ∉ marked) : encodeChar char = [char] := by
  simp only [marked, List.mem_cons, List.not_mem_nil, or_false, not_or] at unmarked
  cases hidden : isHidden char with
  | false => simp [encodeChar, unmarked, hidden]
  | true => simp [isCoded, encodeChar, unmarked, hidden] at legible

end Quoted

/-- Whether the text of a value denotes the value in a predicate.  Floats are read up to rounding,
and a string literal has no way to write a code point. -/
def Value.isLegible : Value → Bool
  | .float _ => false
  | .string text => text.toList.all fun char => !Quoted.isCoded char
  | _ => true

namespace Predicate

/-! ## Characters -/

/-- Classes of characters without blanks. -/
theorem isBlank_eq_false {accept : Char → Bool}
    (rejects : [' ', '\t', '\r', '\n'].any accept = false) {char : Char}
    (accepted : accept char = true) : isBlank char = false := by
  cases blank : isBlank char with
  | false => rfl
  | true =>
      have member : char ∈ [' ', '\t', '\r', '\n'] := by
        simpa [isBlank, or_assoc] using blank
      exact absurd accepted (List.any_eq_false.mp rejects char member)

/-! ## Lexemes -/

namespace Lexeme

open Quoted (encodeChar isCoded)
open Selector.Lexeme (span_run)

theorem denotes_encodeChar {char : Char} (legible : isCoded char = false)
    {literal text : List Char} (behind : Denotes '"' literal text) :
    Denotes '"' (encodeChar char ++ literal) (char :: text) := by
  by_cases marked : char ∈ Quoted.marked
  · simp only [Quoted.marked, List.mem_cons, List.not_mem_nil, or_false] at marked
    obtain rfl | rfl | rfl | rfl | rfl | rfl := marked
    all_goals exact .escape (by decide) behind
  · have itself := Quoted.encodeChar_eq_self legible marked
    simp only [Quoted.marked, List.mem_cons, not_or] at marked
    obtain ⟨quote, backslash, _⟩ := marked
    rw [itself]
    exact .plain backslash quote behind

theorem denotes_encode {text : List Char} (legible : ∀ char ∈ text, isCoded char = false) :
    Denotes '"' (text.flatMap encodeChar ++ ['"']) text := by
  induction text with
  | nil => exact .close
  | cons char text ih =>
      obtain ⟨head, tail⟩ := List.forall_mem_cons.mp legible
      rw [List.flatMap_cons, List.append_assoc]
      exact denotes_encodeChar head (ih tail)

/-- A row of digits in front of a character that neither is one nor could start a fraction. -/
theorem readNumber_digits (negative : Bool) {digits rest : List Char}
    (numeric : ∀ char ∈ digits, char.isDigit = true)
    (stops : ∀ char ∈ rest.head?, char.isDigit = false ∧ char ≠ '.') :
    readNumber negative (digits ++ rest) =
      (.int (if negative then -(Decimal.digitValue digits : Int) else Decimal.digitValue digits),
        rest) := by
  obtain ⟨taken, left⟩ := span_run numeric fun char first => (stops char first).1
  have noFraction : rest.head? ≠ some '.' := fun point => (stops '.' point).2 rfl
  simp [readNumber, taken, left, noFraction]

theorem digitValue_toDigits (value : Nat) :
    Decimal.digitValue (Nat.toDigits 10 value) = value := by
  have read : Nat.ofDigitChars 10 (Nat.toDigits 10 value) 0 = value :=
    Nat.ofDigitChars_toDigits (by decide) (by decide)
  simp only [Nat.ofDigitChars, Nat.mul_comm 10] at read
  exact read

end Lexeme

/-! ## Rows of lexemes -/

/-- Nothing, or a character that neither a word nor a number goes on with. -/
def Closes (rest : List Char) : Prop := ∀ char ∈ rest.head?, isNamePart char = false ∧ char ≠ '.'

theorem closes_nil : Closes [] := nofun

theorem closes_cons {char : Char} {rest : List Char}
    (closing : isNamePart char = false ∧ char ≠ '.') : Closes (char :: rest) := by
  intro other same
  cases same
  exact closing

theorem Lists.blank {chars : List Char} {row : List Lexeme} (behind : Lists chars row) :
    Lists (' ' :: chars) row := by
  intro offset
  rw [Token.listFrom, if_pos (by decide)]
  exact behind _

/-- The text of a word: a name or a keyword. -/
def IsWord : List Char → Prop
  | [] => False
  | char :: chars => isNameStart char = true ∧ chars.all isNamePart = true

/-- A word that is no keyword. -/
structure IsName (text : String) : Prop where
  word : IsWord text.toList
  plain : Lexeme.ofWord text = .name text

theorem lists_word {text : String} {rest : List Char} {row : List Lexeme}
    (word : IsWord text.toList) (stops : ∀ char ∈ rest.head?, isNamePart char = false)
    (behind : Lists rest row) : Lists (text.toList ++ rest) (Lexeme.ofWord text :: row) := by
  cases letters : text.toList with
  | nil => exact (letters ▸ word : IsWord []).elim
  | cons char chars =>
      rw [letters] at word
      obtain ⟨start, parts⟩ := word
      obtain ⟨taken, left⟩ := Selector.Lexeme.span_run (List.all_eq_true.mp parts) stops
      apply Lists.cons (isBlank_eq_false (by decide) start) _ behind
      have spelled : String.ofList (char :: chars) = text := by rw [← letters, String.ofList_toList]
      have first : Lexeme.read? char (chars ++ rest) = some (Lexeme.ofWord text, rest) := by
        rw [(Lexeme.Heads.word start _).read?, taken, left, spelled]
      exact first

theorem lists_string {text : String} {rest : List Char} {row : List Lexeme}
    (legible : ∀ char ∈ text.toList, Quoted.isCoded char = false) (behind : Lists rest row) :
    Lists ((Quoted.encode text).toList ++ rest) (.string text :: row) := by
  have shape : (Quoted.encode text).toList ++ rest =
      '"' :: ((text.toList.flatMap Quoted.encodeChar ++ ['"']) ++ rest) := by
    simp [Quoted.encode]
  have read := (Lexeme.denotes_encode legible).readString? (by decide) rest
  have first := (Lexeme.Heads.string (.inl rfl) read).read?
  rw [String.ofList_toList] at first
  rw [shape]
  exact .cons rfl first behind

theorem lists_nat (value : Nat) {rest : List Char} {row : List Lexeme} (closes : Closes rest)
    (behind : Lists rest row) :
    Lists (Nat.toDigits 10 value ++ rest) (.int value :: row) ∧
      Lists ('-' :: (Nat.toDigits 10 value ++ rest)) (.int (-value) :: row) := by
  have numeric : ∀ char ∈ Nat.toDigits 10 value, char.isDigit = true :=
    fun char member => Nat.isDigit_of_mem_toDigits (by decide) (by decide) member
  have stops : ∀ char ∈ rest.head?, char.isDigit = false ∧ char ≠ '.' := by
    intro char first
    obtain ⟨noPart, noPoint⟩ := closes char first
    simp only [isNamePart, Bool.or_eq_false_iff] at noPart
    exact ⟨noPart.1.2, noPoint⟩
  have read (negative : Bool) := Lexeme.readNumber_digits negative numeric stops
  rw [Lexeme.digitValue_toDigits] at read
  cases digits : Nat.toDigits 10 value with
  | nil => exact absurd digits Nat.toDigits_ne_nil
  | cons digit digits' =>
      rw [digits] at numeric read
      have first := numeric digit List.mem_cons_self
      have visible := isBlank_eq_false (by decide) first
      constructor
      · apply Lists.cons visible _ behind
        exact (Lexeme.Heads.number first (read false)).read?
      · apply Lists.cons rfl _ behind
        exact (Lexeme.Heads.negative first (read true)).read?

theorem lists_int {value : Int} {rest : List Char} {row : List Lexeme} (closes : Closes rest)
    (behind : Lists rest row) : Lists ((toString value).toList ++ rest) (.int value :: row) := by
  rw [Int.toString_eq_repr, Int.repr_eq_if, Nat.repr_eq_ofList_toDigits,
    Nat.repr_eq_ofList_toDigits]
  split
  case isTrue positive =>
      have spelled := (lists_nat value.toNat closes behind).1
      rw [Int.toNat_of_nonneg positive] at spelled
      simpa using spelled
  case isFalse negative =>
      have spelled := (lists_nat (-value).toNat closes behind).2
      rw [Int.toNat_of_nonneg (by omega), Int.neg_neg] at spelled
      simpa using spelled

/-- In front of what closes it, the text consists of the row. -/
def Spells (chars : List Char) (row : List Lexeme) : Prop :=
  ∀ rest behind, Closes rest → Lists rest behind → Lists (chars ++ rest) (row ++ behind)

namespace Spells

variable {chars left right : List Char} {row leftRow rightRow : List Lexeme}

theorem lists (spells : Spells chars row) : Lists chars row := by
  simpa using spells [] [] closes_nil .nil

theorem nil : Spells [] [] := fun _ _ _ behind => behind

/-- The second text begins with a character that closes the first one. -/
theorem append {char : Char} (first : Spells left leftRow)
    (second : Spells (char :: right) rightRow)
    (closing : isNamePart char = false ∧ char ≠ '.' := by decide) :
    Spells (left ++ char :: right) (leftRow ++ rightRow) := by
  intro rest behind closes lists
  rw [List.append_assoc, List.append_assoc]
  exact first _ _ (closes_cons closing) (second rest behind closes lists)

theorem blank (spells : Spells chars row) : Spells (' ' :: chars) row :=
  fun rest behind closes lists => (spells rest behind closes lists).blank

/-- A lexeme of one character, whatever stands behind it. -/
theorem cons {char : Char} {lexeme : Lexeme}
    (found : ∀ rest, Lexeme.read? char rest = some (lexeme, rest)) (spells : Spells chars row)
    (visible : isBlank char = false := by decide) :
    Spells (char :: chars) (lexeme :: row) :=
  fun rest behind closes lists => .cons visible (found _) (spells rest behind closes lists)

theorem parentheses (spells : Spells chars row) :
    Spells ('(' :: (chars ++ [')'])) (.openParen :: (row ++ [.closeParen])) :=
  .cons (fun _ => rfl) (spells.append (.cons (fun _ => rfl) .nil))

theorem brackets (spells : Spells chars row) :
    Spells ('[' :: (chars ++ [']'])) (.openBracket :: (row ++ [.closeBracket])) :=
  .cons (fun _ => rfl) (spells.append (.cons (fun _ => rfl) .nil))

theorem word (text : String) (isWord : IsWord text.toList) :
    Spells text.toList [Lexeme.ofWord text] :=
  fun _ _ closes behind => lists_word isWord (fun char first => (closes char first).1) behind

theorem name {text : String} (isName : IsName text) : Spells text.toList [.name text] := by
  have spells := word text isName.word
  rw [isName.plain] at spells
  exact spells

/-- A blank keeps an operator from becoming a longer one. -/
theorem operator (op : CompareOp) (spells : Spells chars row) :
    Spells (op.symbol.toList ++ ' ' :: chars) (.compare op :: row) := by
  intro rest behind closes lists
  have next := (spells rest behind closes lists).blank
  cases op <;> exact .cons rfl rfl next

end Spells

/-- A legible literal is spelled by the text of its value. -/
theorem Spells.literal {lexeme : Lexeme} {value : Value} (literal : Grammar.Literal lexeme value)
    (legible : value.isLegible = true) : Spells value.text.toList [lexeme] := by
  cases literal with
  | true => exact .word "true" ⟨rfl, rfl⟩
  | false => exact .word "false" ⟨rfl, rfl⟩
  | null => exact .word "null" ⟨rfl, rfl⟩
  | int small =>
      intro rest behind closes lists
      rw [Value.text, Int64.toInt_ofInt_of_le small.1 small.2]
      exact lists_int closes lists
  | float digits => cases legible
  | string text =>
      intro rest behind closes lists
      have plain : ∀ char ∈ text.toList, Quoted.isCoded char = false := by
        simpa [Value.isLegible] using legible
      exact lists_string plain lists

/-! ## Names that are read -/

namespace Lexeme

theorem ofWord_eq_name {word text : String} (same : ofWord word = .name text) : text = word := by
  unfold ofWord at same
  split at same
  case h_7 => exact (Lexeme.name.inj same).symm
  all_goals cases same

theorem readNumber_ne_name (negative : Bool) (chars : List Char) (text : String) :
    (readNumber negative chars).1 ≠ .name text := by
  unfold readNumber
  dsimp only
  split <;> exact nofun

/-- Whatever is read as a name is one. -/
theorem isName_of_read? {char : Char} {chars rest : List Char} {text : String}
    (found : read? char chars = some (.name text, rest)) : IsName text := by
  generalize same : Lexeme.name text = lexeme at found
  cases heads_of_read? found with
  | word start =>
      obtain rfl := ofWord_eq_name same.symm
      refine ⟨?_, same.symm⟩
      rw [String.toList_ofList]
      exact ⟨start, List.all_takeWhile⟩
  | number numeric read =>
      have number := congrArg Prod.fst read
      exact absurd (number.trans same.symm) (readNumber_ne_name _ _ _)
  | negative numeric read =>
      have number := congrArg Prod.fst read
      exact absurd (number.trans same.symm) (readNumber_ne_name _ _ _)
  | string mark read => cases same
  | double sign => cases sign <;> cases same
  | single sign => cases sign <;> cases same

end Lexeme

theorem Token.Listing.isName_of_mem {offset : Nat} {chars : List Char} {tokens : List Token}
    (listing : Listing offset chars tokens) {text : String}
    (member : .name text ∈ tokens.map Token.lexeme) : IsName text := by
  induction listing with
  | nil => cases member
  | blank _ _ ih => exact ih member
  | token _ read _ ih =>
      cases List.mem_cons.mp member with
      | inl same =>
          cases same
          exact Lexeme.isName_of_read? read
      | inr behind => exact ih behind

end Predicate

end NodeQuery
