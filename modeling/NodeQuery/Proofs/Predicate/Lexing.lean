import NodeQuery.Predicate.Token

/-!
# Cutting predicates into lexemes

`Lexeme.Heads` lists the ways in which a lexeme stands at the head of a text, and `Token.Listing`
how a text consists of tokens and blanks.  All that is proved of what the lexer finds is proved of
these relations.
-/

namespace NodeQuery.Predicate

theorem isNameStart_eq_false {char : Char} (digit : char.isDigit = true) :
    isNameStart char = false := by
  cases start : isNameStart char with
  | false => rfl
  | true =>
      have letters : (decide ('A'.val ≤ char.val ∧ char.val ≤ 'Z'.val) ||
          ('a'.val ≤ char.val && char.val ≤ 'z'.val) || char = '_') = true := start
      have digits : ('0'.val ≤ char.val && char.val ≤ '9'.val) = true := digit
      simp only [UInt32.le_iff_toNat_le, Bool.or_eq_true, Bool.and_eq_true,
        decide_eq_true_eq] at letters digits
      obtain (upper | lower) | rfl := letters
      · exact absurd (Nat.le_trans upper.1 digits.2) (by decide)
      · exact absurd (Nat.le_trans lower.1 digits.2) (by decide)
      · exact absurd digits (by decide)

namespace Lexeme

/-! ## Numbers -/

/-- What can stand in front of the digits of an exponent, and how it is kept. -/
def exponentMarks : List (List Char × List Char) :=
  [(['e', '+'], ['e', '+']), (['e', '-'], ['e', '-']), (['e'], ['e']),
    (['E', '+'], ['e', '+']), (['E', '-'], ['e', '-']), (['E'], ['e'])]

/-- The text starts with a mark and a digit. -/
def StartsExponent (chars : List Char) : Prop :=
  ∃ mark kept digit rest, (mark, kept) ∈ exponentMarks ∧ digit.isDigit = true ∧
    chars = mark ++ digit :: rest

theorem readExponent_mark {mark kept : List Char} (isMark : (mark, kept) ∈ exponentMarks)
    {digit : Char} (numeric : digit.isDigit = true) (chars : List Char) :
    readExponent (mark ++ digit :: chars) =
      (kept ++ (digit :: chars).takeWhile Char.isDigit,
        (digit :: chars).dropWhile Char.isDigit) := by
  have noPlus : digit ≠ '+' := by rintro rfl; cases numeric
  have noMinus : digit ≠ '-' := by rintro rfl; cases numeric
  simp only [exponentMarks, List.mem_cons, List.not_mem_nil, or_false, Prod.mk.injEq] at isMark
  rcases isMark with ⟨rfl, rfl⟩ | ⟨rfl, rfl⟩ | ⟨rfl, rfl⟩ | ⟨rfl, rfl⟩ | ⟨rfl, rfl⟩ | ⟨rfl, rfl⟩ <;>
    simp [readExponent, numeric, noPlus, noMinus]

theorem startsExponent_or_readExponent_eq (chars : List Char) :
    StartsExponent chars ∨ readExponent chars = ([], chars) := by
  have behindMark (mark kept : List Char) (isMark : (mark, kept) ∈ exponentMarks)
      {rest : List Char} (shape : chars = mark ++ rest) :
      StartsExponent chars ∨
        (if (rest.takeWhile Char.isDigit).isEmpty then ([], chars)
          else (kept ++ rest.takeWhile Char.isDigit, rest.dropWhile Char.isDigit)) =
          ([], chars) := by
    split
    case isTrue => exact .inr rfl
    case isFalse some =>
        cases rest with
        | nil => simp at some
        | cons digit rest =>
            cases numeric : digit.isDigit with
            | true => exact .inl ⟨mark, kept, digit, rest, isMark, numeric, shape⟩
            | false => simp [numeric] at some
  unfold readExponent
  split
  case h_1 => exact behindMark ['e', '+'] ['e', '+'] (by decide) rfl
  case h_2 => exact behindMark ['e', '-'] ['e', '-'] (by decide) rfl
  case h_3 => exact behindMark ['e'] ['e'] (by decide) rfl
  case h_4 => exact behindMark ['E', '+'] ['e', '+'] (by decide) rfl
  case h_5 => exact behindMark ['E', '-'] ['e', '-'] (by decide) rfl
  case h_6 => exact behindMark ['E'] ['e'] (by decide) rfl
  case h_7 => exact .inr rfl

theorem readExponent_suffix (chars : List Char) : (readExponent chars).2 <:+ chars := by
  rcases startsExponent_or_readExponent_eq chars with starts | none
  · obtain ⟨mark, kept, digit, rest, isMark, numeric, rfl⟩ := starts
    rw [readExponent_mark isMark numeric]
    exact (List.dropWhile_suffix _).trans (List.suffix_append _ _)
  · simp [none]

/-- Digits, a point and more digits are read together with an exponent. -/
theorem readNumber_fraction (negative : Bool) {chars tail : List Char}
    (point : chars.dropWhile Char.isDigit = '.' :: tail)
    (some : tail.takeWhile Char.isDigit ≠ []) :
    readNumber negative chars =
      (.float (String.ofList ((if negative then ['-'] else []) ++ chars.takeWhile Char.isDigit ++
        '.' :: (tail.takeWhile Char.isDigit ++ (readExponent (tail.dropWhile Char.isDigit)).1))),
        (readExponent (tail.dropWhile Char.isDigit)).2) := by
  simp only [readNumber, point]
  exact if_pos ⟨rfl, by simpa using some⟩

theorem readNumber_whole (negative : Bool) {chars : List Char}
    (none : ∀ tail, chars.dropWhile Char.isDigit = '.' :: tail → tail.takeWhile Char.isDigit = []) :
    readNumber negative chars =
      (.int (if negative then -(Decimal.digitValue (chars.takeWhile Char.isDigit) : Int)
        else Decimal.digitValue (chars.takeWhile Char.isDigit)),
        chars.dropWhile Char.isDigit) := by
  refine if_neg ?_
  rintro ⟨point, some⟩
  obtain ⟨tail, shape⟩ := List.head?_eq_some_iff.mp point
  rw [shape] at some
  exact some (by simp [none tail shape])

theorem fraction_or_whole (chars : List Char) :
    (∃ tail, chars.dropWhile Char.isDigit = '.' :: tail ∧ tail.takeWhile Char.isDigit ≠ []) ∨
      ∀ tail, chars.dropWhile Char.isDigit = '.' :: tail → tail.takeWhile Char.isDigit = [] := by
  by_cases fraction : ∃ tail, chars.dropWhile Char.isDigit = '.' :: tail ∧
      tail.takeWhile Char.isDigit ≠ []
  · exact .inl fraction
  · right
    intro tail point
    exact Decidable.byContradiction fun some => fraction ⟨tail, point, some⟩

theorem readNumber_suffix (negative : Bool) (chars : List Char) :
    (readNumber negative chars).2 <:+ chars := by
  have digits : chars.dropWhile Char.isDigit <:+ chars := List.dropWhile_suffix _
  rcases fraction_or_whole chars with ⟨tail, point, some⟩ | none
  · rw [readNumber_fraction negative point some]
    rw [point] at digits
    have fraction : tail.dropWhile Char.isDigit <:+ '.' :: tail :=
      (List.dropWhile_suffix _).trans (List.suffix_cons _ _)
    exact (readExponent_suffix _).trans (fraction.trans digits)
  · rw [readNumber_whole negative none]
    exact digits

/-! ## Strings -/

/-- The literal, with its closing quote but without the opening one, denotes the text. -/
inductive Denotes (quote : Char) : List Char → List Char → Prop where
  | close : Denotes quote [quote] []
  | escape {char : Char} {literal text : List Char} (sameLine : char ≠ '\n')
      (behind : Denotes quote literal text) :
      Denotes quote ('\\' :: char :: literal) (unescape char :: text)
  | plain {char : Char} {literal text : List Char} (plain : char ≠ '\\') (differs : char ≠ quote)
      (behind : Denotes quote literal text) : Denotes quote (char :: literal) (char :: text)

theorem denotes_of_readString? {quote : Char} {chars text rest : List Char}
    (found : readString? quote chars = some (text, rest)) :
    ∃ literal, Denotes quote literal text ∧ chars = literal ++ rest := by
  fun_induction readString? quote chars generalizing text with
  | case1 | case2 | case3 => cases found
  | case4 char chars newline ih =>
      obtain ⟨⟨inner, left⟩, read, same⟩ := Option.map_eq_some_iff.mp found
      cases same
      obtain ⟨literal, denotes, rfl⟩ := ih read
      exact ⟨_, .escape newline denotes, rfl⟩
  | case5 chars notEscape =>
      cases found
      exact ⟨[quote], .close, rfl⟩
  | case6 char chars notLast notEscape differs ih =>
      obtain ⟨⟨inner, left⟩, read, same⟩ := Option.map_eq_some_iff.mp found
      cases same
      obtain ⟨literal, denotes, rfl⟩ := ih read
      have plain : char ≠ '\\' := by
        rintro rfl
        cases shape : literal ++ rest with
        | nil => exact notLast rfl shape
        | cons next others => exact notEscape next others rfl shape
      exact ⟨_, .plain plain differs denotes, rfl⟩

/-- A literal ends at its quote, whatever follows. -/
theorem Denotes.readString? {quote : Char} {literal text : List Char}
    (denotes : Denotes quote literal text) (escapes : quote ≠ '\\') (rest : List Char) :
    readString? quote (literal ++ rest) = some (text, rest) := by
  induction denotes with
  | close => simp [Lexeme.readString?, escapes]
  | escape sameLine _ ih => simp [Lexeme.readString?, sameLine, ih]
  | plain plain differs _ ih => simp [Lexeme.readString?, plain, differs, ih]

/-! ## Heads of texts -/

/-- The signs of two characters. -/
inductive Double : Char → Char → Lexeme → Prop where
  | eq : Double '=' '=' (.compare .eq)
  | matching : Double '=' '~' (.compare .matching)
  | ne : Double '!' '=' (.compare .ne)
  | notMatching : Double '!' '~' (.compare .notMatching)
  | le : Double '<' '=' (.compare .le)
  | ge : Double '>' '=' (.compare .ge)
  | startsWith : Double '^' '=' (.compare .startsWith)
  | endsWith : Double '$' '=' (.compare .endsWith)
  | contains : Double '*' '=' (.compare .contains)
  | and : Double '&' '&' .andSign
  | or : Double '|' '|' .orSign

/-- The signs of one character, each with the characters that make a longer one of it. -/
inductive Single : Char → List Char → Lexeme → Prop where
  | not : Single '!' ['=', '~'] .notSign
  | lt : Single '<' ['='] (.compare .lt)
  | gt : Single '>' ['='] (.compare .gt)
  | openParen : Single '(' [] .openParen
  | closeParen : Single ')' [] .closeParen
  | openBracket : Single '[' [] .openBracket
  | closeBracket : Single ']' [] .closeBracket
  | comma : Single ',' [] .comma
  | dot : Single '.' [] .dot

/-- The ways in which a lexeme stands at the head of a text: its first character, what is behind
that, the lexeme, and what is behind the lexeme. -/
inductive Heads : Char → List Char → Lexeme → List Char → Prop where
  | word {char : Char} (start : isNameStart char = true) (chars : List Char) :
      Heads char chars (ofWord (String.ofList (char :: chars.takeWhile isNamePart)))
        (chars.dropWhile isNamePart)
  | number {digit : Char} {chars rest : List Char} {lexeme : Lexeme}
      (numeric : digit.isDigit = true) (read : readNumber false (digit :: chars) = (lexeme, rest)) :
      Heads digit chars lexeme rest
  | negative {digit : Char} {chars rest : List Char} {lexeme : Lexeme}
      (numeric : digit.isDigit = true) (read : readNumber true (digit :: chars) = (lexeme, rest)) :
      Heads '-' (digit :: chars) lexeme rest
  | string {quote : Char} {chars text rest : List Char} (mark : quote = '"' ∨ quote = '\'')
      (read : readString? quote chars = some (text, rest)) :
      Heads quote chars (.string (String.ofList text)) rest
  | double {first second : Char} {lexeme : Lexeme} (sign : Double first second lexeme)
      (rest : List Char) : Heads first (second :: rest) lexeme rest
  | single {char : Char} {longer rest : List Char} {lexeme : Lexeme}
      (sign : Single char longer lexeme)
      (alone : ∀ next tail, rest = next :: tail → next ∉ longer) :
      Heads char rest lexeme rest

variable {char : Char} {chars rest : List Char} {lexeme : Lexeme}

theorem heads_of_read? (found : read? char chars = some (lexeme, rest)) :
    Heads char chars lexeme rest := by
  unfold read? at found
  split at found
  case isTrue start =>
      cases found
      exact .word start chars
  split at found
  case isTrue numeric => exact .number numeric (Option.some.inj found)
  split at found
  case h_1 => cases found; exact .double .eq _
  case h_2 => cases found; exact .double .matching _
  case h_3 => cases found; exact .double .ne _
  case h_4 => cases found; exact .double .notMatching _
  case h_5 noEquals noTilde =>
      cases found
      refine .single .not fun next tail shape longer => ?_
      simp only [List.mem_cons, List.not_mem_nil, or_false] at longer
      rcases longer with rfl | rfl
      · exact noEquals tail shape
      · exact noTilde tail shape
  case h_6 => cases found; exact .double .le _
  case h_8 => cases found; exact .double .ge _
  case h_7 noEquals =>
      cases found
      refine .single .lt fun next tail shape longer => ?_
      exact noEquals tail (List.mem_singleton.mp longer ▸ shape)
  case h_9 noEquals =>
      cases found
      refine .single .gt fun next tail shape longer => ?_
      exact noEquals tail (List.mem_singleton.mp longer ▸ shape)
  case h_10 => cases found; exact .double .startsWith _
  case h_11 => cases found; exact .double .endsWith _
  case h_12 => cases found; exact .double .contains _
  case h_13 => cases found; exact .double .and _
  case h_14 => cases found; exact .double .or _
  case h_15 => cases found; exact .single .openParen fun _ _ _ => List.not_mem_nil
  case h_16 => cases found; exact .single .closeParen fun _ _ _ => List.not_mem_nil
  case h_17 => cases found; exact .single .openBracket fun _ _ _ => List.not_mem_nil
  case h_18 => cases found; exact .single .closeBracket fun _ _ _ => List.not_mem_nil
  case h_19 => cases found; exact .single .comma fun _ _ _ => List.not_mem_nil
  case h_20 => cases found; exact .single .dot fun _ _ _ => List.not_mem_nil
  case h_21 =>
      split at found
      case isTrue numeric => exact .negative numeric (Option.some.inj found)
      case isFalse => cases found
  case h_22 =>
      obtain ⟨⟨text, left⟩, read, same⟩ := Option.map_eq_some_iff.mp found
      cases same
      exact .string (.inl rfl) read
  case h_23 =>
      obtain ⟨⟨text, left⟩, read, same⟩ := Option.map_eq_some_iff.mp found
      cases same
      exact .string (.inr rfl) read
  case h_24 => cases found

theorem Heads.read? (heads : Heads char chars lexeme rest) :
    read? char chars = some (lexeme, rest) := by
  cases heads with
  | word start => exact if_pos start
  | number numeric read =>
      unfold Lexeme.read?
      rw [if_neg (by simp [isNameStart_eq_false numeric]), if_pos numeric, read]
  | negative numeric read => exact (if_pos numeric).trans (congrArg some read)
  | string mark read =>
      rcases mark with rfl | rfl
      · exact Option.map_eq_some_iff.mpr ⟨_, read, rfl⟩
      · exact Option.map_eq_some_iff.mpr ⟨_, read, rfl⟩
  | double sign => cases sign <;> rfl
  | single sign alone =>
      cases sign with
      | not | lt | gt =>
          cases chars with
          | nil => rfl
          | cons next tail =>
              have differs := alone next tail rfl
              simp only [List.mem_cons, List.not_mem_nil, or_false, not_or] at differs
              simp [Lexeme.read?, isNameStart, differs]
      | _ => rfl

theorem suffix_of_read? (found : read? char chars = some (lexeme, rest)) : rest <:+ chars := by
  have suffix : rest <:+ char :: chars := by
    cases heads_of_read? found with
    | word start => exact (List.dropWhile_suffix _).trans (List.suffix_cons _ _)
    | number numeric read =>
        have suffix := readNumber_suffix false (char :: chars)
        rwa [read] at suffix
    | @negative digit chars _ _ numeric read =>
        have suffix := readNumber_suffix true (digit :: chars)
        rw [read] at suffix
        exact suffix.trans (List.suffix_cons _ _)
    | string mark read =>
        obtain ⟨literal, -, rfl⟩ := denotes_of_readString? read
        exact (List.suffix_append _ _).trans (List.suffix_cons _ _)
    | double sign => exact (List.suffix_cons _ _).trans (List.suffix_cons _ _)
    | single sign => exact List.suffix_cons _ _
  rcases List.suffix_cons_iff.mp suffix with rfl | shorter
  · exact absurd (length_of_read? found) (by simp)
  · exact shorter

end Lexeme

/-! ## Tokens -/

/-- How a text from the given offset on consists of tokens and blanks. -/
inductive Token.Listing : Nat → List Char → List Token → Prop where
  | nil (offset : Nat) : Listing offset [] []
  | blank {offset : Nat} {char : Char} {chars : List Char} {tokens : List Token}
      (blank : isBlank char = true) (behind : Listing (offset + char.utf8Size) chars tokens) :
      Listing offset (char :: chars) tokens
  | token {offset : Nat} {char : Char} {stretch rest : List Char} {lexeme : Lexeme}
      {tokens : List Token} (visible : isBlank char = false)
      (read : Lexeme.read? char (stretch ++ rest) = some (lexeme, rest))
      (behind : Listing (offset + Utf8.size (char :: stretch)) rest tokens) :
      Listing offset (char :: stretch ++ rest)
        (⟨lexeme, offset, offset + Utf8.size (char :: stretch)⟩ :: tokens)

namespace Token

/-- The bytes of a token are what is there less what is left. -/
theorem stop_eq (offset : Nat) (stretch rest : List Char) :
    offset + (Utf8.size (stretch ++ rest) - Utf8.size rest) = offset + Utf8.size stretch := by
  rw [Utf8.size_append, Nat.add_sub_cancel]

theorem listing_of_listFrom {offset : Nat} {chars : List Char} {tokens : List Token}
    (found : listFrom offset chars = .ok tokens) : Listing offset chars tokens := by
  fun_induction listFrom offset chars generalizing tokens with
  | case1 =>
      cases found
      exact .nil _
  | case2 offset char chars blank ih => exact .blank blank (ih found)
  | case3 => cases found
  | case4 => cases found
  | case5 offset char chars visible lexeme rest read stop others listed =>
      rename_i ih
      cases found
      obtain ⟨stretch, rfl⟩ := Lexeme.suffix_of_read? read
      have bytes : stop = offset + Utf8.size (char :: stretch) :=
        stop_eq offset (char :: stretch) rest
      have behind := ih listed
      rw [bytes] at behind ⊢
      exact .token (by simpa using visible) read behind

theorem listFrom_token (offset : Nat) {char : Char} {lexeme : Lexeme} {stretch rest : List Char}
    (visible : isBlank char = false)
    (read : Lexeme.read? char (stretch ++ rest) = some (lexeme, rest)) :
    let stop := offset + Utf8.size (char :: stretch)
    listFrom offset (char :: (stretch ++ rest)) =
      (listFrom stop rest).map (⟨lexeme, offset, stop⟩ :: ·) := by
  intro stop
  have bytes : offset + (Utf8.size (char :: (stretch ++ rest)) - Utf8.size rest) = stop :=
    stop_eq offset (char :: stretch) rest
  rw [listFrom, if_neg (by simp [visible])]
  split
  case h_1 missing => rw [read] at missing; contradiction
  case h_2 other behind found =>
      obtain ⟨rfl, rfl⟩ : lexeme = other ∧ rest = behind := by simpa [read] using found
      simp only [bytes]
      cases listFrom stop rest <;> rfl

end Token

end NodeQuery.Predicate
