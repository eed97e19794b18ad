import NodeQuery.Proofs.Predicate.Beginnings
import NodeQuery.Proofs.Selector.Positions

/-!
# Errors stand at the first offending token

A text that consists of tokens but is no predicate is reported to be malformed at one of its tokens
or at its end.  What has been read in front of that place can be completed under the same limit: an
operand that is missing is a name, and all brackets can be closed behind an operand, which does not
nest any deeper.  And behind the token, if it is one, nothing makes the text a predicate, since the
machine refuses the token whatever follows it.
-/

namespace NodeQuery.Predicate

open Grammar

/-! ## Completions -/

/-- Every bracket can be closed behind an expression. -/
theorem Bracket.exists_close? (bracket : Bracket) (last : Expr) :
    ∃ closer whole, bracket.close? closer last = some whole := by
  cases bracket with
  | parenthesis => exact ⟨.closeParen, _, rfl⟩
  | index target => exact ⟨.closeBracket, _, rfl⟩
  | list items => exact ⟨.closeBracket, _, rfl⟩
  | call name args => exact ⟨.closeParen, _, rfl⟩

/-- A bracket that can be closed at once is closed by a closing bracket. -/
theorem Bracket.closes_of_closeEmpty? {bracket : Bracket} {lexeme : Lexeme} {whole : Expr}
    (closed : bracket.closeEmpty? lexeme = some whole) :
    lexeme = .closeParen ∨ lexeme = .closeBracket := by
  cases bracket <;> cases lexeme <;> simp [Bracket.closeEmpty?] at closed ⊢

namespace State

variable {limit : Nat} {state next : State} {lexeme : Lexeme} {lexemes : List Lexeme}

/-- Some text leads from the state to the end of a predicate. -/
inductive Completable (limit : Nat) (state : State) : Prop where
  | intro {chars : List Char} {row : List Lexeme} {final : State} {operand : Expr}
      (spells : Spells chars row) (reads : Reads limit state row final)
      (noStack : final.stack = []) (read : final.operand? = some operand) :
      Completable limit state

namespace Completable

theorem closing (takes : Takes limit state lexeme next)
    (closes : lexeme = .closeParen ∨ lexeme = .closeBracket)
    (completable : Completable limit next) : Completable limit state := by
  cases completable with
  | @intro chars row _ _ spells reads noStack read =>
      rcases closes with rfl | rfl
      · have written : Spells (')' :: chars) (.closeParen :: row) := spells.cons fun _ => rfl
        exact .intro written (.cons takes reads) noStack read
      · have written : Spells (']' :: chars) (.closeBracket :: row) := spells.cons fun _ => rfl
        exact .intro written (.cons takes reads) noStack read

theorem name (takes : Takes limit state (.name "x") next)
    (completable : Completable limit next) : Completable limit state := by
  cases completable with
  | intro spells reads noStack read =>
      have isName : IsName "x" := ⟨⟨rfl, rfl⟩, by decide⟩
      exact .intro ((Spells.name isName).append spells.blank) (.cons takes reads) noStack read

/-- Behind an operand, all open brackets can be closed. -/
theorem of_operand? {operand : Expr} (read : state.operand? = some operand) :
    Completable limit state := by
  rcases state with ⟨mode, level, stack⟩
  induction stack generalizing mode level operand with
  | nil => exact .intro .nil (.nil _) rfl read
  | cons frame stack ih =>
      rcases frame with ⟨bracket, outer⟩
      rcases bracket.exists_close? (level.value operand) with ⟨closer, whole, closed⟩
      have takes : Takes limit ⟨mode, level, (bracket, outer) :: stack⟩ closer
          ⟨.value whole, outer, stack⟩ := .behind read (.close rfl closed)
      exact closing takes (closes_of_close? closed) (ih _ _ rfl)

end Completable

/-- Whatever has been read can be completed. -/
theorem Shows.completable (shown : state.Shows limit lexemes) : Completable limit state := by
  rcases shown with ⟨around, waiting, reading⟩
  cases reading with
  | operand => exact .name (.operand (.name "x")) (.of_operand? rfl)
  | value inner => exact .of_operand? rfl
  | name name => exact .of_operand? rfl
  | path path => exact .of_operand? rfl
  | dot path => exact .name (.segment ..) (.of_operand? rfl)
  | opened row =>
      have closed := row.closeEmpty?_eq_some.mpr ⟨rfl, rfl⟩
      exact .closing (.closeEmpty closed) (Bracket.closes_of_closeEmpty? closed) (.of_operand? rfl)

end State

/-- The text in front of a place can be completed if its tokens are read. -/
theorem parse_eq_ok_of_reads {limit : Nat} {front : List Char} {before : List Token}
    {state : State} (resumes : Resumes 0 front before) (positive : 0 < limit)
    (reads : State.Reads limit .initial (before.map Token.lexeme) state) :
    ∃ completion expr, parse (String.ofList front ++ " " ++ completion) limit = .ok expr := by
  cases (State.shows_of_reads positive reads).completable with
  | @intro chars row final operand spells rest noStack read =>
      rcases spells.lists.blank (Utf8.size front) with ⟨others, listed, lexemes⟩
      have whole := resumes (' ' :: chars) (apart_blank chars)
      rw [Nat.zero_add, listed, Except.map] at whole
      refine ⟨String.ofList chars, final.level.value operand, ?_⟩
      simp only [parse, bind_eq_ok, mapError_eq_ok, Token.list, ofTokens_eq_ok_iff_reads]
      refine ⟨before ++ others, ?_, positive, final, ?_, noStack, operand, read, rfl⟩
      · simpa using whole
      · rw [List.map_append, lexemes]
        exact reads.append rest

/-- What is written behind a token that is refused does not matter. -/
theorem parse_ne_ok_of_refused {limit : Nat} {through : List Char} {before : List Token}
    {token : Token} {state : State} {error : SyntaxError}
    (resumes : Resumes 0 through (before ++ [token]))
    (reads : State.Reads limit .initial (before.map Token.lexeme) state)
    (refused : state.take limit token = .error error) (behind : String) (expr : Expr) :
    parse (String.ofList through ++ " " ++ behind) limit ≠ .ok expr := by
  intro accepted
  simp only [parse, bind_eq_ok, mapError_eq_ok, Token.list, ofTokens_eq_ok_iff_reads] at accepted
  rcases accepted with ⟨tokens, listed, -, final, readAll, -⟩
  have whole := resumes (' ' :: behind.toList) (apart_blank _)
  have text : (String.ofList through ++ " " ++ behind).toList =
      through ++ ' ' :: behind.toList := by simp
  rw [← text, listed] at whole
  rcases map_eq_ok.mp whole.symm with ⟨others, -, rfl⟩
  rw [← State.foldlM_take_eq_ok, List.append_assoc, foldlM_append_eq_ok] at readAll
  rcases readAll with ⟨middle, front, rest⟩
  obtain rfl : state = middle :=
    Except.ok.inj ((State.foldlM_take_eq_ok.mpr reads).symm.trans front)
  rcases foldlM_cons_eq_ok.mp rest with ⟨_, taken, -⟩
  rw [refused] at taken
  cases taken

/-! ## Faults -/

/-- The error is about what is found at the offset, if it is not about the limit. -/
inductive SyntaxError.About (found : Option Lexeme) (offset : Nat) : SyntaxError → Prop where
  | limit (limit : Nat) : About found offset (.tooDeep limit)
  | found (expectation : Expectation) : About found offset (.expected expectation found offset)

theorem SyntaxError.About.offset_eq {found : Option Lexeme} {offset place : Nat}
    {error : SyntaxError} {reason : String} (about : error.About found offset)
    (malformed : error.malformed? = some (reason, place)) : place = offset := by
  cases about with
  | limit limit => cases malformed
  | found expectation => exact (Prod.mk.inj (Option.some.inj malformed)).2.symm

namespace State

variable {limit : Nat} {state : State} {token : Token} {error : SyntaxError}

theorem about_of_enter {bracket : Bracket} {found : Option Lexeme} {offset : Nat}
    (failed : state.enter limit bracket = .error error) : error.About found offset := by
  unfold enter at failed
  split at failed
  case isTrue =>
      cases failed
      exact .limit limit
  case isFalse => cases failed

theorem about_of_takeOperand (failed : state.takeOperand limit token = .error error) :
    error.About token.lexeme token.start := by
  rcases token with ⟨lexeme, start, stop⟩
  cases lexeme with
  | notWord | notSign =>
      simp only [takeOperand] at failed
      split at failed
      case h_1 =>
          cases failed
          exact .found _
      case h_2 =>
          split at failed
          case isTrue =>
              cases failed
              exact .limit limit
          case isFalse => cases failed
  | int value =>
      simp only [takeOperand] at failed
      split at failed
      case isTrue => cases failed
      case isFalse =>
          cases failed
          exact .found _
  | openParen => exact about_of_enter failed
  | trueWord | falseWord | nullWord | float digits | string value | name name | openBracket =>
      cases failed
  | _ =>
      cases failed
      exact .found _

theorem about_of_takeBehind {operand : Expr}
    (failed : state.takeBehind limit operand token = .error error) :
    error.About token.lexeme token.start := by
  unfold takeBehind at failed
  split at failed
  case h_1 => exact about_of_enter failed
  case h_2 | h_3 | h_4 | h_5 => cases failed
  case h_6 =>
      split at failed
      case h_1 =>
          cases failed
          exact .found _
      case h_2 => cases failed
  case h_7 =>
      split at failed
      case h_1 =>
          cases failed
          exact .found _
      case h_2 =>
          dsimp only at failed
          split at failed
          case h_1 => cases failed
          case h_2 =>
              split at failed
              case isTrue => cases failed
              case isFalse =>
                  cases failed
                  exact .found _
          case h_3 =>
              cases failed
              exact .found _

theorem about_of_take (failed : state.take limit token = .error error) :
    error.About token.lexeme token.start := by
  rcases token with ⟨lexeme, start, stop⟩
  rcases state with ⟨mode, level, stack⟩
  cases mode with
  | operand => exact about_of_takeOperand failed
  | value operand => exact about_of_takeBehind failed
  | name name =>
      cases lexeme with
      | openParen => cases failed
      | dot => cases failed
      | _ => exact @about_of_takeBehind limit _ _ _ _ failed
  | path segments =>
      cases lexeme with
      | dot => cases failed
      | _ => exact @about_of_takeBehind limit _ _ _ _ failed
  | dot segments =>
      cases lexeme with
      | name name => cases failed
      | _ =>
          cases failed
          exact .found _
  | opened bracket =>
      cases closed : bracket.closeEmpty? lexeme with
      | some whole => simp only [take, closed, reduceCtorEq] at failed
      | none =>
          simp only [take, closed, bind_eq_error] at failed
          rcases failed with full | ⟨inner, -, refused⟩
          · exact about_of_enter full
          · exact about_of_takeOperand refused

theorem about_of_finish {offset : Nat} (failed : state.finish limit offset = .error error) :
    error.About none offset := by
  rcases state with ⟨mode, level, stack⟩
  cases mode with
  | opened bracket =>
      simp only [finish, bind_eq_error] at failed
      rcases failed with full | ⟨inner, -, refused⟩
      · exact about_of_enter full
      · cases refused
        exact .found _
  | operand | dot segments =>
      cases failed
      exact .found _
  | value operand | name name | path segments =>
      cases stack with
      | nil => cases failed
      | cons frame stack =>
          cases failed
          exact .found _

end State

/-- What the parser finds fault with: a token that is refused behind those in front of it, or the
end of the text. -/
inductive Fault (limit last : Nat) (tokens : List Token) : SyntaxError → Prop where
  | token {before after : List Token} {token : Token} {state : State} {error : SyntaxError}
      (split : tokens = before ++ token :: after)
      (front : State.Reads limit .initial (before.map Token.lexeme) state)
      (refused : state.take limit token = .error error) : Fault limit last tokens error
  | ended {state : State} {error : SyntaxError}
      (read : State.Reads limit .initial (tokens.map Token.lexeme) state)
      (about : error.About none last) : Fault limit last tokens error

theorem fault_of_ofTokens {limit last : Nat} {tokens : List Token} {error : SyntaxError}
    (positive : 0 < limit) (failed : Expr.ofTokens limit last tokens = .error error) :
    Fault limit last tokens error := by
  unfold Expr.ofTokens at failed
  split at failed
  case isTrue empty =>
      cases failed
      rw [List.isEmpty_iff.mp empty]
      exact .ended (.nil _) (.found _)
  case isFalse =>
      rw [if_neg (Nat.ne_of_gt positive)] at failed
      rcases bind_eq_error.mp failed with stopped | ⟨state, read, unfinished⟩
      · rcases foldlM_eq_error.mp stopped with ⟨before, token, after, state, split, front, refused⟩
        exact .token split (State.foldlM_take_eq_ok.mp front) refused
      · exact .ended (State.foldlM_take_eq_ok.mp read) (State.about_of_finish unfinished)

/-! ## Places of tokens -/

namespace Token.CutsAt

variable {source : String} {before otherBefore : List Token} {token other : Token}
  {front stretch rest otherFront otherStretch otherRest : List Char}

theorem isFront (cuts : CutsAt 0 source.toList before token front stretch rest) :
    IsFront source token.start (String.ofList front) := by
  rw [cuts.starts, Nat.zero_add]
  exact isFront_of_append cuts.text

theorem isFrontBehind (cuts : CutsAt 0 source.toList before token front stretch rest) :
    IsFront source token.stop (String.ofList (front ++ stretch)) := by
  rw [cuts.stops, Nat.zero_add]
  exact isFront_of_append (cuts.text.trans (List.append_assoc ..).symm)

theorem start_lt (cuts : CutsAt 0 source.toList before token front stretch rest) :
    token.start < source.utf8ByteSize := by
  rcases List.exists_cons_of_ne_nil cuts.nonempty with ⟨char, others, rfl⟩
  have positive := char.utf8Size_pos
  rw [← Utf8.size_toList, cuts.starts, cuts.text]
  simp only [Utf8.size_append, Utf8.size_cons]
  omega

/-- Tokens at one place have the same tokens in front of them. -/
theorem before_eq (cuts : CutsAt 0 source.toList before token front stretch rest)
    (otherCuts : CutsAt 0 source.toList otherBefore other otherFront otherStretch otherRest)
    (starts : token.start = other.start) : before = otherBefore := by
  have same := cuts.isFront.unique (starts ▸ otherCuts.isFront)
  obtain rfl : front = otherFront := String.ofList_injective same
  exact Except.ok.inj (cuts.resumes.listFrom_eq.symm.trans otherCuts.resumes.listFrom_eq)

end Token.CutsAt

/-- At most one token starts at a place. -/
theorem Token.eq_of_start_eq {source : String} {tokens : List Token} {token other : Token}
    (listed : Token.list source = .ok tokens) (member : token ∈ tokens)
    (otherMember : other ∈ tokens) (starts : token.start = other.start) : token = other := by
  rcases List.append_of_mem member with ⟨before, after, split⟩
  rcases List.append_of_mem otherMember with ⟨otherBefore, otherAfter, otherSplit⟩
  have listing := listing_of_listFrom listed
  rcases listing.cutsAt split with ⟨front, stretch, rest, cuts⟩
  rcases listing.cutsAt otherSplit with ⟨otherFront, otherStretch, otherRest, otherCuts⟩
  obtain rfl := cuts.before_eq otherCuts starts
  exact (List.cons.inj (List.append_cancel_left (split.symm.trans otherSplit))).1

/-! ## The first offending token -/

/-- A text that consists of tokens but is malformed is so at one of its tokens or at its end.  The
text in front of that place can be completed under the same limit.  If a token starts there, the
text up to the end of that token cannot. -/
theorem malformed_at_first_offending_token {source : String} {limit offset : Nat}
    {tokens : List Token} {error : SyntaxError} {reason : String}
    (listed : Token.list source = .ok tokens) (positive : 1 ≤ limit)
    (failed : parse source limit = .error error)
    (malformed : error.malformed? = some (reason, offset)) :
    ((∃ token ∈ tokens, token.start = offset) ∨ offset = source.utf8ByteSize) ∧
      (∃ before, IsFront source offset before ∧
        ∃ completion expr, parse (before ++ " " ++ completion) limit = .ok expr) ∧
      ∀ token ∈ tokens, token.start = offset → ∃ through, IsFront source token.stop through ∧
        ∀ behind expr, parse (through ++ " " ++ behind) limit ≠ .ok expr := by
  have listing := Token.listing_of_listFrom listed
  have refused : Expr.ofTokens limit (Utf8.size source.toList) tokens = .error error := by
    simpa [parse, listed, Except.mapError, bind_eq_error] using failed
  cases fault_of_ofTokens positive refused with
  | @token before after token state _ split front refusedToken =>
      obtain rfl := (State.about_of_take refusedToken).offset_eq malformed
      have member : token ∈ tokens := split ▸ List.mem_append_right _ List.mem_cons_self
      rcases listing.cutsAt split with ⟨chars, stretch, rest, cuts⟩
      refine ⟨.inl ⟨token, member, rfl⟩, ⟨_, cuts.isFront, ?_⟩, fun other otherMember starts => ?_⟩
      · exact parse_eq_ok_of_reads cuts.resumes positive front
      · obtain rfl := Token.eq_of_start_eq listed otherMember member starts
        exact ⟨_, cuts.isFrontBehind,
          parse_ne_ok_of_refused cuts.resumesBehind front refusedToken⟩
  | @ended state _ read about =>
      obtain rfl := about.offset_eq malformed
      rw [Utf8.size_toList]
      refine ⟨.inr rfl, ⟨source, ?_, ?_⟩, fun token member starts => ?_⟩
      · exact ⟨⟨"", String.append_empty⟩, rfl⟩
      · have completed := parse_eq_ok_of_reads listing.resumes positive read
        rwa [String.ofList_toList] at completed
      · rcases List.append_of_mem member with ⟨before, after, split⟩
        rcases listing.cutsAt split with ⟨chars, stretch, rest, cuts⟩
        exact absurd starts (Nat.ne_of_lt cuts.start_lt)

/-- The second comparison in an argument is refused.  Three levels are as deep as the text in front
of it nests, and enough to complete it. -/
theorem malformed_at_first_offending_token_of_second_comparison :
    let source := "\"é\" == f(x[1], !y == z == 2)"
    let tokens : List Token :=
      [⟨.string "é", 0, 4⟩, ⟨.compare .eq, 5, 7⟩, ⟨.name "f", 8, 9⟩, ⟨.openParen, 9, 10⟩,
        ⟨.name "x", 10, 11⟩, ⟨.openBracket, 11, 12⟩, ⟨.int 1, 12, 13⟩, ⟨.closeBracket, 13, 14⟩,
        ⟨.comma, 14, 15⟩, ⟨.notSign, 16, 17⟩, ⟨.name "y", 17, 18⟩, ⟨.compare .eq, 19, 21⟩,
        ⟨.name "z", 22, 23⟩, ⟨.compare .eq, 24, 26⟩, ⟨.int 2, 27, 28⟩, ⟨.closeParen, 28, 29⟩]
    Token.list source = .ok tokens ∧
      parse source 3 = .error (.expected .argumentsEnd (some (.compare .eq)) 24) ∧
      (∃ completion expr,
        parse ("\"é\" == f(x[1], !y == z " ++ " " ++ completion) 3 = .ok expr) ∧
      ∀ behind expr, parse ("\"é\" == f(x[1], !y == z ==" ++ " " ++ behind) 3 ≠ .ok expr := by
  intro source tokens
  have listed : Token.list source = .ok tokens := by decide +kernel
  have failed : parse source 3 = .error (.expected .argumentsEnd (some (.compare .eq)) 24) := by
    rw [parse, listed]
    rfl
  rcases malformed_at_first_offending_token listed (by decide) failed rfl
    with ⟨-, ⟨before, start, viable⟩, dead⟩
  rcases dead ⟨.compare .eq, 24, 26⟩ (by simp [tokens]) rfl with ⟨through, stop, refused⟩
  have beforeIs : before = "\"é\" == f(x[1], !y == z " :=
    start.unique ⟨⟨"== 2)", by decide⟩, by decide⟩
  have throughIs : through = "\"é\" == f(x[1], !y == z ==" :=
    stop.unique ⟨⟨" 2)", by decide⟩, by decide⟩
  subst beforeIs throughIs
  exact ⟨listed, failed, viable, refused⟩

end NodeQuery.Predicate
