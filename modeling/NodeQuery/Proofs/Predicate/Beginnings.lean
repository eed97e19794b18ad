import NodeQuery.Proofs.Predicate.Lexing
import NodeQuery.Proofs.Predicate.Spelling

/-!
# Beginnings of predicates

A lexeme goes on as long as it can, so what follows decides where it ends.  But no lexeme goes on
over a blank, unless it is a string literal that is still open.  So a text can be cut between two
tokens, and if a blank comes next, the tokens in front of the cut stay what they are.
-/

namespace NodeQuery.Predicate

/-- Nothing, or a text that starts with a blank. -/
def Apart (behind : List Char) : Prop := ∀ char ∈ behind.head?, isBlank char = true

variable {front middle rest behind : List Char}

theorem apart_blank (behind : List Char) : Apart (' ' :: behind) := by
  rintro _ ⟨⟩
  rfl

theorem Apart.stops (apart : Apart behind) {accept : Char → Bool}
    (rejects : [' ', '\t', '\r', '\n'].any accept = false) :
    ∀ char ∈ behind.head?, accept char = false := by
  intro char first
  cases accepted : accept char with
  | false => rfl
  | true =>
      have blank := apart char first
      rw [isBlank_eq_false rejects accepted] at blank
      cases blank

theorem Apart.span (apart : Apart behind) {accept : Char → Bool}
    (rejects : [' ', '\t', '\r', '\n'].any accept = false) :
    behind.takeWhile accept = [] ∧ behind.dropWhile accept = behind := by
  have none : ∀ char ∈ [], accept char = true := nofun
  exact Selector.Lexeme.span_run none (apart.stops rejects)

namespace Lexeme

/-! ## Numbers -/

/-- What a run of characters leaves is left as well where a blank stands in place of the rest. -/
theorem span_cut {accept : Char → Bool} (rejects : [' ', '\t', '\r', '\n'].any accept = false)
    (apart : Apart behind) (left : (front ++ rest).dropWhile accept = middle ++ rest) :
    (front ++ behind).takeWhile accept = (front ++ rest).takeWhile accept ∧
      (front ++ behind).dropWhile accept = middle ++ behind := by
  induction front with
  | nil =>
      rw [List.nil_append] at left ⊢
      have short := length_dropWhile_le accept rest
      rw [left, List.length_append] at short
      obtain rfl : middle = [] := List.length_eq_zero_iff.mp (by omega)
      have none : rest.takeWhile accept = [] := by
        have whole : rest.takeWhile accept ++ rest.dropWhile accept = rest :=
          List.takeWhile_append_dropWhile
        rw [left] at whole
        simpa using whole
      obtain ⟨taken, remaining⟩ := apart.span rejects
      exact ⟨taken.trans none.symm, remaining⟩
  | cons char front ih =>
      cases accepted : accept char with
      | true =>
          simp only [List.cons_append, List.dropWhile_cons, List.takeWhile_cons, accepted,
            if_true] at left ⊢
          obtain ⟨taken, remaining⟩ := ih left
          exact ⟨by rw [taken], remaining⟩
      | false =>
          simp only [List.cons_append, List.dropWhile_cons, List.takeWhile_cons, accepted,
            Bool.false_eq_true, if_false] at left ⊢
          have same : char :: front = middle := List.append_cancel_right left
          simp [← same]

/-- There is no blank in the mark or in the digit behind it. -/
theorem StartsExponent.of_append (starts : StartsExponent (front ++ behind))
    (apart : Apart behind) (rest : List Char) : StartsExponent (front ++ rest) := by
  obtain ⟨mark, kept, digit, others, isMark, numeric, shape⟩ := starts
  have visible : ∀ char ∈ mark ++ [digit], isBlank char = false := by
    have marks : (exponentMarks.all fun pair => pair.1.all fun char => !isBlank char) = true := rfl
    simp only [List.all_eq_true, Bool.not_eq_true'] at marks
    intro char member
    rcases List.mem_append.mp member with member | member
    · exact marks _ isMark char member
    · rw [List.mem_singleton.mp member]
      exact isBlank_eq_false (by decide) numeric
  have split : front ++ behind = (mark ++ [digit]) ++ others := by simpa using shape
  rcases List.append_eq_append_iff.mp split with ⟨cut, inside, starts⟩ | ⟨others, inside, starts⟩
  · cases cut with
    | nil =>
        refine ⟨mark, kept, digit, rest, isMark, numeric, ?_⟩
        rw [List.append_nil] at inside
        simp [← inside]
    | cons char cut =>
        have blank := apart char (by simp [starts])
        rw [visible char (by simp [inside])] at blank
        cases blank
  · exact ⟨mark, kept, digit, others ++ rest, isMark, numeric, by simp [inside]⟩

theorem readExponent_cut (apart : Apart behind)
    (left : (readExponent (front ++ rest)).2 = middle ++ rest) :
    readExponent (front ++ behind) = ((readExponent (front ++ rest)).1, middle ++ behind) := by
  rcases startsExponent_or_readExponent_eq (front ++ rest) with starts | whole
  · obtain ⟨mark, kept, digit, others, isMark, numeric, shape⟩ := starts
    rw [shape, readExponent_mark isMark numeric] at left
    have inner : others = others.takeWhile Char.isDigit ++ (middle ++ rest) := by
      rw [← left, List.dropWhile_cons_of_pos numeric, List.takeWhile_append_dropWhile]
    generalize others.takeWhile Char.isDigit = run at inner
    subst inner
    obtain rfl : front = mark ++ digit :: (run ++ middle) :=
      List.append_cancel_right (shape.trans (by simp))
    have digits : (digit :: (run ++ middle) ++ rest).dropWhile Char.isDigit = middle ++ rest := by
      simpa using left
    obtain ⟨taken, remaining⟩ := span_cut (by decide) apart digits
    have read (rest : List Char) := readExponent_mark isMark numeric (run ++ middle ++ rest)
    simp only [List.append_assoc, List.cons_append] at taken remaining read ⊢
    rw [read, read, taken, remaining]
  · rw [whole] at left ⊢
    obtain rfl : front = middle := List.append_cancel_right left
    rcases startsExponent_or_readExponent_eq (front ++ behind) with starts | same
    · obtain ⟨mark, kept, digit, others, isMark, numeric, shape⟩ := starts.of_append apart rest
      rw [shape, readExponent_mark isMark numeric] at whole
      cases isMark' : kept <;> simp [numeric, isMark'] at whole
    · exact same

theorem readNumber_cut {negative : Bool} (apart : Apart behind)
    (left : (readNumber negative (front ++ rest)).2 = middle ++ rest) :
    readNumber negative (front ++ behind) =
      ((readNumber negative (front ++ rest)).1, middle ++ behind) := by
  rcases fraction_or_whole (front ++ rest) with ⟨tail, point, some⟩ | none
  · rw [readNumber_fraction negative point some] at left ⊢
    -- Each part is read from the beginning that the part in front of it has left.
    obtain ⟨stretch, shape⟩ := readExponent_suffix (tail.dropWhile Char.isDigit)
    rw [left, ← List.append_assoc] at shape
    have whole : tail.takeWhile Char.isDigit ++ tail.dropWhile Char.isDigit = tail :=
      List.takeWhile_append_dropWhile
    rw [← shape, ← List.append_assoc] at whole
    rw [← whole] at point some shape left ⊢
    obtain ⟨digits, pointed⟩ := span_cut (by decide) apart (point.trans (List.cons_append ..).symm)
    obtain ⟨fraction, remaining⟩ := span_cut (by decide) apart shape.symm
    rw [← shape] at left ⊢
    have exponent := readExponent_cut apart left
    rw [readNumber_fraction negative (pointed.trans (List.cons_append ..)) (by rwa [fraction]),
      digits, fraction, remaining, exponent]
  · rw [readNumber_whole negative none] at left ⊢
    obtain ⟨digits, remaining⟩ := span_cut (by decide) apart left
    rw [readNumber_whole, digits, remaining]
    intro tail point
    rw [remaining] at point
    cases middle with
    | nil =>
        have blank := apart '.' (by rw [← List.nil_append behind, point]; rfl)
        cases blank
    | cons char middle =>
        obtain ⟨rfl, rfl⟩ := List.cons.inj point
        have empty := none (middle ++ rest) left
        cases middle with
        | nil => exact (apart.span (by decide)).1
        | cons char middle =>
            cases numeric : char.isDigit with
            | true => simp [numeric] at empty
            | false => simp [numeric]

/-! ## Strings and signs -/

theorem readString?_cut {quote : Char} {text : List Char} (escapes : quote ≠ '\\')
    (found : readString? quote (front ++ rest) = some (text, middle ++ rest)) :
    readString? quote (front ++ behind) = some (text, middle ++ behind) := by
  obtain ⟨literal, denotes, shape⟩ := denotes_of_readString? found
  obtain rfl : front = literal ++ middle :=
    List.append_cancel_right (shape.trans (List.append_assoc ..).symm)
  rw [List.append_assoc]
  exact denotes.readString? escapes _

theorem Single.visible {char : Char} {longer : List Char} {lexeme : Lexeme}
    (sign : Single char longer lexeme) : ∀ next ∈ longer, isBlank next = false := by
  cases sign <;> simp [isBlank]

/-- A sign that another character would prolong is not prolonged by a blank. -/
theorem Single.alone_cut {char : Char} {longer : List Char} {lexeme : Lexeme}
    (sign : Single char longer lexeme) (apart : Apart behind)
    (alone : ∀ next tail, front ++ rest = next :: tail → next ∉ longer) :
    ∀ next tail, front ++ behind = next :: tail → next ∉ longer := by
  intro next tail shape
  cases front with
  | nil =>
      intro member
      have blank := apart next (by rw [← List.nil_append behind, shape]; rfl)
      rw [sign.visible next member] at blank
      cases blank
  | cons first front =>
      cases shape
      exact alone next (front ++ rest) rfl

/-- A lexeme is read again where a blank stands in place of what is behind it, at whatever
distance. -/
theorem Heads.cut {char : Char} {lexeme : Lexeme} (apart : Apart behind)
    (heads : Heads char (front ++ rest) lexeme (middle ++ rest)) :
    Heads char (front ++ behind) lexeme (middle ++ behind) := by
  generalize whole : front ++ rest = chars at heads
  generalize left : middle ++ rest = remaining at heads
  cases heads with
  | word start =>
      subst whole
      obtain ⟨taken, remaining⟩ := span_cut (by decide) apart left.symm
      rw [← taken, ← remaining]
      exact .word start _
  | number numeric read =>
      subst whole left
      rw [← List.cons_append] at read
      have again := readNumber_cut apart (congrArg Prod.snd read)
      rw [read] at again
      exact .number numeric again
  | @negative digit chars _ _ numeric read =>
      subst left
      cases front with
      | nil =>
          -- The digit is read, so it cannot be in the rest.
          have shorter := length_readNumber true digit chars numeric
          have longer : rest.length = chars.length + 1 := congrArg List.length whole
          simp only [read, List.length_append] at shorter
          omega
      | cons first front =>
          cases whole
          rw [List.append_eq, ← List.cons_append] at read
          have again := readNumber_cut apart (congrArg Prod.snd read)
          rw [read] at again
          exact .negative numeric again
  | string mark read =>
      subst whole left
      have escapes : char ≠ '\\' := by rcases mark with rfl | rfl <;> decide
      exact .string mark (readString?_cut escapes read)
  | @double _ second _ sign =>
      subst left
      obtain rfl : front = second :: middle := List.append_cancel_right whole
      exact .double sign _
  | single sign alone =>
      subst left
      obtain rfl : front = middle := List.append_cancel_right whole
      exact .single sign (sign.alone_cut apart alone)

theorem read?_cut {char : Char} {lexeme : Lexeme} (apart : Apart behind)
    (found : read? char (front ++ rest) = some (lexeme, middle ++ rest)) :
    read? char (front ++ behind) = some (lexeme, middle ++ behind) :=
  ((heads_of_read? found).cut apart).read?

end Lexeme

/-! ## Tokens -/

/-- Whatever follows a front, if only a blank comes first, its tokens are the given ones and those
of what follows. -/
def Resumes (offset : Nat) (front : List Char) (tokens : List Token) : Prop :=
  ∀ behind, Apart behind → Token.listFrom offset (front ++ behind) =
    (Token.listFrom (offset + Utf8.size front) behind).map (tokens ++ ·)

namespace Resumes

variable {offset : Nat} {char : Char} {tokens : List Token}

theorem nil (offset : Nat) : Resumes offset [] [] := by
  intro behind apart
  simp only [List.nil_append, Utf8.size_nil, Nat.add_zero]
  cases Token.listFrom offset behind <;> rfl

theorem blank (blank : isBlank char = true)
    (resumes : Resumes (offset + char.utf8Size) front tokens) :
    Resumes offset (char :: front) tokens := by
  intro behind apart
  rw [List.cons_append, Token.listFrom, if_pos blank, resumes behind apart, Utf8.size_cons,
    Nat.add_assoc]

/-- A token in front of others. -/
theorem token {lexeme : Lexeme} {stretch : List Char} (visible : isBlank char = false)
    (read : Lexeme.read? char (stretch ++ front ++ rest) = some (lexeme, front ++ rest))
    (resumes : Resumes (offset + Utf8.size (char :: stretch)) front tokens) :
    Resumes offset (char :: stretch ++ front)
      (⟨lexeme, offset, offset + Utf8.size (char :: stretch)⟩ :: tokens) := by
  intro behind apart
  have again := Lexeme.read?_cut apart read
  rw [List.append_assoc] at again
  have first := Token.listFrom_token offset visible again
  simp only [List.cons_append, List.append_assoc] at first ⊢
  rw [first, resumes behind apart, ← List.cons_append, Utf8.size_append, Nat.add_assoc]
  cases Token.listFrom _ behind <;> rfl

theorem listFrom_eq (resumes : Resumes offset front tokens) :
    Token.listFrom offset front = .ok tokens := by
  have whole := resumes [] nofun
  simpa [Token.listFrom, Except.map] using whole

end Resumes

namespace Token.Listing

variable {offset : Nat} {chars : List Char} {tokens before after : List Token} {token : Token}

theorem resumes (listing : Listing offset chars tokens) : Resumes offset chars tokens := by
  induction listing with
  | nil offset => exact .nil offset
  | blank blank _ ih => exact .blank blank ih
  | @token _ char stretch rest lexeme _ visible read _ ih =>
      have whole : Lexeme.read? char (stretch ++ rest ++ []) = some (lexeme, rest ++ []) := by
        simpa using read
      exact .token visible whole ih

end Token.Listing

/-- The token is a stretch of the text, and the text can be cut in front of it and behind it. -/
structure Token.CutsAt (offset : Nat) (chars : List Char) (before : List Token) (token : Token)
    (front stretch rest : List Char) : Prop where
  text : chars = front ++ (stretch ++ rest)
  nonempty : stretch ≠ []
  starts : token.start = offset + Utf8.size front
  stops : token.stop = offset + Utf8.size (front ++ stretch)
  resumes : Resumes offset front before
  resumesBehind : Resumes offset (front ++ stretch) (before ++ [token])

theorem Token.Listing.cutsAt {offset : Nat} {chars : List Char} {tokens before after : List Token}
    {token : Token} (listing : Listing offset chars tokens)
    (split : tokens = before ++ token :: after) :
    ∃ front stretch rest, CutsAt offset chars before token front stretch rest := by
  induction listing generalizing before with
  | nil => simp at split
  | @blank offset char chars tokens blank behind ih =>
      obtain ⟨front, stretch, rest, cuts⟩ := ih split
      refine ⟨char :: front, stretch, rest, ?_, cuts.nonempty, ?_, ?_, .blank blank cuts.resumes,
        .blank blank cuts.resumesBehind⟩
      · rw [cuts.text, List.cons_append]
      · rw [cuts.starts, Utf8.size_cons, Nat.add_assoc]
      · rw [cuts.stops, List.cons_append, Utf8.size_cons, Nat.add_assoc]
  | @token offset char stretch rest lexeme tokens visible read behind ih =>
      cases before with
      | nil =>
          cases split
          refine ⟨[], char :: stretch, rest, rfl, nofun, rfl, rfl, .nil offset, ?_⟩
          have alone : Lexeme.read? char (stretch ++ [] ++ rest) = some (lexeme, [] ++ rest) := by
            simpa using read
          have single : Resumes offset (char :: stretch ++ []) _ := .token visible alone (.nil _)
          rwa [List.append_nil] at single
      | cons first before =>
          cases split
          obtain ⟨front, inner, rest, cuts⟩ := ih rfl
          obtain rfl := cuts.text
          refine ⟨char :: stretch ++ front, inner, rest, by simp, cuts.nonempty, ?_, ?_, ?_, ?_⟩
          · rw [cuts.starts, Utf8.size_append, Nat.add_assoc]
          · rw [cuts.stops, List.append_assoc, Utf8.size_append _ (front ++ inner), Nat.add_assoc]
          · exact .token visible (by simpa using read) cuts.resumes
          · rw [List.append_assoc]
            exact .token visible (by simpa using read) cuts.resumesBehind

end NodeQuery.Predicate
