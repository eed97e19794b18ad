import NodeQuery.Proofs.Predicate.Spelling
import NodeQuery.Proofs.Query.Classes
import NodeQuery.Proofs.Query.Pipeline

/-!
# Steps by position

The transforms `:first`, `:last` and `:nth-child` take one item of all candidates and differ in how
long they go on asking for items.  Asked for the first node, `:first` and `:nth-child` stop at the
same item, be it a node or an error.  If no item is an error, `:last` is the last position, and the
positions together pass every node just once.
-/

namespace NodeQuery

variable {Node Key : Type}

/-! ## Written positions -/

namespace Registry

theorem isBlank_eq_false_of_isDigit {char : Char} (digit : char.isDigit = true) :
    Text.isBlank char = false := by
  have bounds : ('0'.val ≤ char.val && char.val ≤ '9'.val) = true := digit
  simp only [Bool.and_eq_true, decide_eq_true_eq, UInt32.le_iff_toNat_le] at bounds
  have least : 48 ≤ char.toNat := bounds.1
  have most : char.toNat ≤ 57 := bounds.2
  simp [Text.isBlank, Text.whiteSpace, RangeSet.contains]
  omega

theorem trim_eq_self {chars : List Char} (visible : ∀ char ∈ chars, Text.isBlank char = false) :
    Text.trim chars = chars := by
  have kept {row : List Char} (visible : ∀ char ∈ row, Text.isBlank char = false) :
      row.dropWhile Text.isBlank = row := by
    cases row with
    | nil => rfl
    | cons char row =>
        exact List.dropWhile_cons_of_neg (by simp [visible char List.mem_cons_self])
  rw [Text.trim, kept visible, kept (by simpa using visible), List.reverse_reverse]

theorem integer?_digits {digits : List Char} (nonempty : digits ≠ [])
    (numeric : ∀ char ∈ digits, char.isDigit = true) :
    Decimal.integer? true digits = some (Decimal.digitValue digits : Int) ∧
      Decimal.integer? true ('-' :: digits) = some (-(Decimal.digitValue digits : Int)) := by
  have all : digits.all Char.isDigit = true := List.all_eq_true.mpr numeric
  cases digits with
  | nil => exact absurd rfl nonempty
  | cons digit digits =>
      have noMinus : digit ≠ '-' := by
        rintro rfl
        exact absurd (numeric '-' List.mem_cons_self) (by decide)
      have noPlus : digit ≠ '+' := by
        rintro rfl
        exact absurd (numeric '+' List.mem_cons_self) (by decide)
      simp [Decimal.integer?, noMinus, noPlus, all]

theorem integer?_toString (value : Int) :
    Decimal.integer? true (Text.trim (toString value).toList) = some value := by
  have numeric (value : Nat) : ∀ char ∈ Nat.toDigits 10 value, char.isDigit = true :=
    fun char member => Nat.isDigit_of_mem_toDigits (by decide) (by decide) member
  have read (value : Nat) := integer?_digits Nat.toDigits_ne_nil (numeric value)
  simp only [Predicate.Lexeme.digitValue_toDigits] at read
  have visible (value : Nat) : ∀ char ∈ Nat.toDigits 10 value, Text.isBlank char = false :=
    fun char member => isBlank_eq_false_of_isDigit (numeric value char member)
  rw [Int.toString_eq_repr, Int.repr_eq_if, Nat.repr_eq_ofList_toDigits,
    Nat.repr_eq_ofList_toDigits]
  split
  case isTrue positive =>
    rw [String.toList_ofList, trim_eq_self (visible _), (read _).1, Int.toNat_of_nonneg positive]
  case isFalse negative =>
    have signed : ∀ char ∈ '-' :: Nat.toDigits 10 (-value).toNat, Text.isBlank char = false :=
      List.forall_mem_cons.mpr ⟨by decide, visible _⟩
    have spelled : ("-" ++ String.ofList (Nat.toDigits 10 (-value).toNat)).toList =
        '-' :: Nat.toDigits 10 (-value).toNat := by simp
    rw [spelled, trim_eq_self signed, (read _).2, Int.toNat_of_nonneg (by omega), Int.neg_neg]

/-- Every 64-bit integer can be written as a position. -/
theorem position?_toString (position : Int64) :
    position? (toString position.toInt) = some position.toInt := by
  have bound : Int.pow 2 63 = 2 ^ 63 := rfl
  rw [position?, integer?_toString]
  exact if_pos ⟨bound ▸ position.le_toInt, bound ▸ position.toInt_lt⟩

end Registry

/-! ## Streams -/

namespace Candidates

/-- Looking for the position zero ends at the first item, whatever it is. -/
theorem nth_zero (candidates : Candidates Node) : candidates.nth 0 = candidates.take 1 := by
  unfold nth LazySeq.lift LazySeq.take
  congr 1
  funext _
  cases candidates.pull () with
  | done => rfl
  | item item rest => cases item <;> rfl

end Candidates

namespace Eager

theorem firstError?_map_ok (nodes : List Node) : firstError? (nodes.map .ok) = none := by
  simp [firstError?]

theorem leadingNodes_map_ok (nodes : List Node) : leadingNodes (nodes.map .ok) = nodes := by
  induction nodes with
  | nil => rfl
  | cons node nodes ih => rw [List.map_cons, leadingNodes, ih]

theorem last_map_ok (nodes : List Node) :
    last (nodes.map .ok) = (nodes.getLast?).toList.map .ok := by
  rw [last, firstError?_map_ok, List.getLast?_map]
  cases nodes.getLast? <;> rfl

theorem nth_map_ok (position : Nat) (nodes : List Node) :
    nth position (nodes.map .ok) = (nodes[position]?).toList.map .ok := by
  rw [nth, leadingNodes_map_ok, firstError?_map_ok]
  cases nodes[position]? <;> rfl

end Eager

/-! ## Steps -/

/-- What an operation makes of candidates, with the builtin transforms. -/
def Operation.yield (model : NodeModel Node Key) (context : Context Node) (nesting : Nat)
    (candidates : Candidates Node) (operation : Operation) :
    Except QueryError (List (Item Node)) := do
  let stage ← (Step.ofOperation nesting operation).resolve .builtin
  let made ← stage.apply model context candidates
  .ok made.toList

section

variable {model : NodeModel Node Key} {context : Context Node} {nesting : Nat}
variable {candidates : Candidates Node}

theorem Operation.yield_last :
    (Operation.pseudo "last").yield model context nesting candidates =
      .ok (Eager.last candidates.toList) :=
  congrArg Except.ok (Candidates.toList_last candidates)

theorem Operation.yield_nthChild {args : String} {position : Int}
    (denotes : Registry.position? args = some position) :
    (Operation.function "nth-child" args).yield model context nesting candidates =
      .ok (if position < 0 then [] else Eager.nth position.toNat candidates.toList) := by
  have applied : (Operation.function "nth-child" args).yield model context nesting candidates =
      Registry.nthChild context args candidates >>= fun made => .ok made.toList := rfl
  rw [applied, Registry.nthChild, denotes]
  by_cases negative : position < 0
  · simp only [if_pos negative]
    rfl
  · simp only [if_neg negative]
    exact congrArg Except.ok (Candidates.toList_nth _ candidates)

/-- `:nth-child(0)` does what `:first` does, on whatever candidates. -/
theorem Group.interchangeable_first [BEq Key] [Hashable Key] {args : String}
    (zero : Registry.position? args = some 0) (front back : List Operation) :
    Group.Interchangeable model .builtin context nesting
      ⟨front ++ .pseudo "first" :: back⟩ ⟨front ++ .function "nth-child" args :: back⟩ := by
  refine .of_apply_eq rfl rfl ?_ front back
  intro candidates
  have applied : Stage.apply model context candidates (.function Registry.nthChild args) =
      .ok (candidates.nth 0) := by
    rw [Stage.apply, Registry.nthChild, zero]
    rfl
  rw [applied, candidates.nth_zero]
  rfl

end

/-- Steps by position agree with each other.  `:nth-child(0)` can stand in the place of `:first`
anywhere.  Where only nodes arrive at a step, `:last` yields what the last position yields, every
position inside yields its node, and every other 64-bit position yields nothing. -/
theorem positional_steps_agree [BEq Key] [Hashable Key] (model : NodeModel Node Key)
    (provider : Provider Node) (limits : Limits) (nesting : Nat) :
    (∀ (source source' : String) (before behind : List Group) (front back : List Operation)
        (args : String) (roots : List Node), Registry.position? args = some 0 →
      (Program.ofSelector source'
          ⟨before ++ ⟨front ++ .function "nth-child" args :: back⟩ :: behind⟩ nesting).run
        model provider .builtin limits roots =
      (Program.ofSelector source
          ⟨before ++ ⟨front ++ .pseudo "first" :: back⟩ :: behind⟩ nesting).run
        model provider .builtin limits roots) ∧
    (∀ (candidates : Candidates Node) (nodes : List Node) (nonempty : nodes ≠ []),
      candidates.toList = nodes.map .ok →
      let yields := Operation.yield model ⟨provider, limits⟩ nesting candidates
      yields (.pseudo "last") = .ok [.ok (nodes.getLast nonempty)] ∧
      ∀ args position, Registry.position? args = some position →
        (position = nodes.length - 1 →
          yields (.pseudo "last") = yields (.function "nth-child" args)) ∧
        (∀ (index : Nat) (inside : index < nodes.length), position = index →
          yields (.function "nth-child" args) = .ok [.ok nodes[index]]) ∧
        (position < 0 ∨ nodes.length ≤ position →
          yields (.function "nth-child" args) = .ok [])) ∧
    ∀ position : Int64,
      Registry.position? (toString position.toInt) = some position.toInt := by
  refine ⟨?_, ?_, Registry.position?_toString⟩
  · intro source source' before behind front back args roots zero
    exact (Group.interchangeable_first zero front back).run_eq source before behind roots
  · intro candidates nodes nonempty onlyNodes yields
    have last : yields (.pseudo "last") = .ok [.ok (nodes.getLast nonempty)] := by
      have applied : yields (.pseudo "last") = _ := Operation.yield_last
      rw [applied, onlyNodes, Eager.last_map_ok, List.getLast?_eq_some_getLast nonempty]
      rfl
    refine ⟨last, ?_⟩
    intro args position denotes
    have applied : yields (.function "nth-child" args) = _ := Operation.yield_nthChild denotes
    rw [onlyNodes, Eager.nth_map_ok] at applied
    have inside (index : Nat) (inside : index < nodes.length) (same : position = index) :
        yields (.function "nth-child" args) = .ok [.ok nodes[index]] := by
      have notNegative : ¬ position < 0 := by omega
      rw [applied, if_neg notNegative, same, Int.toNat_natCast, List.getElem?_eq_getElem inside]
      rfl
    refine ⟨?_, inside, ?_⟩
    · intro final
      have positive : 0 < nodes.length := List.length_pos_iff.mpr nonempty
      rw [last, inside (nodes.length - 1) (by omega) (by omega), List.getLast_eq_getElem]
    · intro outside
      rw [applied]
      by_cases negative : position < 0
      · rw [if_pos negative]
      · have behind : nodes.length ≤ position.toNat := by omega
        rw [if_neg negative, List.getElem?_eq_none behind]
        rfl

/-- Above a walk that is cut, `:first` and `:nth-child(0)` both stop in time, or both meet the cut
first.  In a stream of three nodes, `:last` is the position 2, and there is no position 3 or -1. -/
theorem positional_steps_agree_on_three :
    let model : NodeModel Nat Nat := {
      key := id
      tag := fun
        | 2 => some "b"
        | _ => some "a"
      children := fun
        | 0 => some [1, 2]
        | 1 => some [3]
        | _ => none }
    let first (tag : String) := Program.ofSelector (tag ++ ":first")
      ⟨[⟨[.tag tag, .pseudo "first"]⟩]⟩ 1
    let zeroth (tag : String) := Program.ofSelector (tag ++ ":nth-child( +0 )")
      ⟨[⟨[.tag tag, .function "nth-child" " +0 "]⟩]⟩ 1
    let three : Candidates Nat := .ofList [.ok 3, .ok 5, .ok 7]
    let yields := Operation.yield model ⟨model.hooks, ⟨1, 1⟩⟩ 1 three
    ((first "a").run model model.hooks .builtin ⟨1, 1⟩ [0] = .ok [0] ∧
      (zeroth "a").run model model.hooks .builtin ⟨1, 1⟩ [0] = .ok [0] ∧
      (first "b").run model model.hooks .builtin ⟨1, 1⟩ [0] =
        .error (.query (.depthLimitExceeded 1)) ∧
      (zeroth "b").run model model.hooks .builtin ⟨1, 1⟩ [0] =
        .error (.query (.depthLimitExceeded 1))) ∧
    yields (.pseudo "last") = yields (.function "nth-child" "2") ∧
      yields (.function "nth-child" "1") = .ok [.ok 5] ∧
      yields (.function "nth-child" "3") = .ok [] ∧
      yields (.function "nth-child" "-1") = .ok [] := by
  intro model first zeroth three yields
  obtain ⟨onFirst, onLast, _⟩ := positional_steps_agree model model.hooks ⟨1, 1⟩ 1
  have zero : Registry.position? " +0 " = some 0 := by decide +kernel
  have found : (first "a").run model model.hooks .builtin ⟨1, 1⟩ [0] = .ok [0] := by
    rw [run_of_resolved rfl]
    decide +kernel
  have cut : (first "b").run model model.hooks .builtin ⟨1, 1⟩ [0] =
      .error (.query (.depthLimitExceeded 1)) := by decide +kernel
  have same (tag : String) := onFirst (tag ++ ":first") (tag ++ ":nth-child( +0 )") [] [] [.tag tag]
    [] " +0 " [0] zero
  refine ⟨⟨found, (same "a").trans found, cut, (same "b").trans cut⟩, ?_⟩
  obtain ⟨_, onThree⟩ := onLast three [3, 5, 7] (by decide) rfl
  have two : Registry.position? "2" = some 2 := by decide +kernel
  have one : Registry.position? "1" = some 1 := by decide +kernel
  have beyond : Registry.position? "3" = some 3 := by decide +kernel
  have negative : Registry.position? "-1" = some (-1) := by decide +kernel
  refine ⟨(onThree _ _ two).1 rfl, (onThree _ _ one).2.1 1 (by decide) rfl, ?_, ?_⟩
  · exact (onThree _ _ beyond).2.2 (by decide)
  · exact (onThree _ _ negative).2.2 (by decide)

end NodeQuery
