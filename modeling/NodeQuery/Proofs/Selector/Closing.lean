import NodeQuery.Proofs.Selector.Lexing
import NodeQuery.Text.Utf8

/-!
# Matching closers

The body behind an opener reaches to the first closer that makes one closer more than there are
openers.  Only live characters count, which are those outside of string literals.  Here a text is
read as a row of live characters and of whole literals, and the delimiters are counted among its
live characters.  A scan that goes over the text once, with a counter of open pairs and no more than
one literal in mind, stops at the same closer.
-/

namespace NodeQuery.Selector.Delimiters

/-! ## Literals -/

/-- Outside of literals, the character opens one. -/
def Quotes (pair : Delimiters) (char : Char) : Prop :=
  pair.quoted = true ∧ (char = '"' ∨ char = '\'')

instance (pair : Delimiters) (char : Char) : Decidable (pair.Quotes char) :=
  inferInstanceAs (Decidable (_ ∧ _))

/-- What stands between the quotes of a literal.  A backslash takes the next character with it,
and no other character is a quote of the literal's kind. -/
inductive Inside (quote : Char) : List Char → Prop where
  | nil : Inside quote []
  | escape (char : Char) {chars : List Char} (behind : Inside quote chars) :
      Inside quote ('\\' :: char :: chars)
  | plain {char : Char} {chars : List Char} (noEscape : char ≠ '\\') (noQuote : char ≠ quote)
      (behind : Inside quote chars) : Inside quote (char :: chars)

/-- The text is a row of live characters, which are the given ones, and of literals.  A literal
reaches from its opening quote to the next quote of the same kind that is not escaped; its quotes
are part of it. -/
inductive Reading (pair : Delimiters) : (text live : List Char) → Prop where
  | nil : Reading pair [] []
  | live {char : Char} {text live : List Char} (plain : ¬pair.Quotes char)
      (behind : Reading pair text live) : Reading pair (char :: text) (char :: live)
  | literal {quote : Char} {inside text live : List Char} (opens : pair.Quotes quote)
      (closes : Inside quote inside) (behind : Reading pair text live) :
      Reading pair (quote :: (inside ++ quote :: text)) live

/-- A closer behind the front is live, and with it there is one live closer more than there are
live openers. -/
def ClosesBehind (pair : Delimiters) (front : List Char) : Prop :=
  ∃ live, pair.Reading front live ∧ ¬pair.Quotes pair.closer ∧
    (live ++ [pair.closer]).count pair.closer = (live ++ [pair.closer]).count pair.opener + 1

/-- The closer between the body and the rest of a text is the first one at which the live closers
outnumber the live openers by one. -/
structure Matches (pair : Delimiters) (chars body rest : List Char) : Prop where
  text : chars = body ++ pair.closer :: rest
  closes : pair.ClosesBehind body
  first : ∀ front behind, chars = front ++ pair.closer :: behind → pair.ClosesBehind front →
    body.length ≤ front.length

/-! ## Reading one character at a time -/

/-- Where the text behind one more character stands with respect to literals. -/
def Quoting.next (pair : Delimiters) : Quoting → Char → Quoting
  | .escaped quote, _ => .inside quote
  | .inside quote, char =>
      if char = '\\' then .escaped quote else if char = quote then .outside else .inside quote
  | .outside, char => if pair.Quotes char then .inside char else .outside

/-- The character, if it is live. -/
def Quoting.shown (pair : Delimiters) : Quoting → Char → List Char
  | .outside, char => if pair.Quotes char then [] else [char]
  | .inside _, _ | .escaped _, _ => []

/-- Where the text behind a stretch stands with respect to literals. -/
def Quoting.after (pair : Delimiters) (quoting : Quoting) (text : List Char) : Quoting :=
  text.foldl (next pair) quoting

/-- The live characters of a stretch. -/
def liveFrom (pair : Delimiters) : Quoting → List Char → List Char
  | _, [] => []
  | quoting, char :: text => quoting.shown pair char ++ pair.liveFrom (quoting.next pair char) text

variable {pair : Delimiters} {quote : Char} {chars body rest text live : List Char}

@[simp] theorem Quoting.after_nil (quoting : Quoting) : quoting.after pair [] = quoting := rfl

@[simp] theorem Quoting.after_cons (quoting : Quoting) (char : Char) (text : List Char) :
    quoting.after pair (char :: text) = (quoting.next pair char).after pair text := rfl

theorem Quotes.ne_backslash (quotes : pair.Quotes quote) : quote ≠ '\\' := by
  rcases quotes.2 with rfl | rfl <;> decide

/-- Nothing of a literal is live, and behind its closing quote it is over. -/
theorem Inside.passes (pair : Delimiters) {inside : List Char} (closes : Inside quote inside)
    (noEscape : quote ≠ '\\') (text : List Char) :
    (Quoting.inside quote).after pair (inside ++ quote :: text) =
        Quoting.outside.after pair text ∧
      pair.liveFrom (.inside quote) (inside ++ quote :: text) = pair.liveFrom .outside text := by
  induction closes with
  | nil => simp [liveFrom, Quoting.next, Quoting.shown, noEscape]
  | escape char _ ih => simpa [liveFrom, Quoting.next, Quoting.shown] using ih
  | plain noEscape noQuote _ ih =>
      simpa [liveFrom, Quoting.next, Quoting.shown, noEscape, noQuote] using ih

/-- A text that ends outside of literals, read from its start or from within a literal on. -/
def Quoting.Reads (pair : Delimiters) : Quoting → (text live : List Char) → Prop
  | .outside, text, live => pair.Reading text live
  | .inside quote, text, live =>
      ∃ inside behind, text = inside ++ quote :: behind ∧ Inside quote inside ∧
        pair.Reading behind live
  | .escaped quote, text, live =>
      ∃ char inside behind, text = char :: (inside ++ quote :: behind) ∧ Inside quote inside ∧
        pair.Reading behind live

theorem Quoting.reads_of_after {quoting : Quoting} (ends : quoting.after pair text = .outside) :
    quoting.Reads pair text (pair.liveFrom quoting text) := by
  induction text generalizing quoting with
  | nil =>
      obtain rfl : quoting = .outside := ends
      exact .nil
  | cons char text ih =>
      have behind := ih ends
      cases quoting with
      | outside =>
          by_cases quotes : pair.Quotes char
          · simp only [next, if_pos quotes] at behind
            obtain ⟨inside, tail, rfl, closes, reading⟩ := behind
            simpa [Reads, liveFrom, shown, next, quotes] using .literal quotes closes reading
          · simp only [next, if_neg quotes] at behind
            simpa [Reads, liveFrom, shown, next, quotes] using .live quotes behind
      | inside quote =>
          by_cases escape : char = '\\'
          · subst escape
            obtain ⟨escaped, inside, tail, rfl, closes, reading⟩ := behind
            exact ⟨'\\' :: escaped :: inside, tail, rfl, .escape escaped closes, reading⟩
          · by_cases last : char = quote
            · subst last
              simp only [next, if_neg escape, if_true] at behind
              simpa [Reads, liveFrom, shown, next, escape] using
                ⟨[], text, rfl, .nil, behind⟩
            · simp only [next, if_neg escape, if_neg last] at behind
              obtain ⟨inside, tail, rfl, closes, reading⟩ := behind
              simpa [Reads, liveFrom, shown, next, escape, last] using
                ⟨char :: inside, tail, rfl, .plain escape last closes, reading⟩
      | escaped quote =>
          obtain ⟨inside, tail, rfl, closes, reading⟩ := behind
          exact ⟨char, inside, tail, rfl, closes, reading⟩

theorem reading_iff :
    pair.Reading text live ↔
      Quoting.outside.after pair text = .outside ∧ pair.liveFrom .outside text = live := by
  constructor
  · intro reading
    induction reading with
    | nil => exact ⟨rfl, rfl⟩
    | live plain _ ih => simpa [liveFrom, Quoting.next, Quoting.shown, plain] using ih
    | @literal quote inside text live opens closes _ ih =>
        have passes := closes.passes pair opens.ne_backslash text
        simpa [liveFrom, Quoting.next, Quoting.shown, opens, passes] using ih
  · rintro ⟨ends, rfl⟩
    exact Quoting.reads_of_after ends

/-! ## Counting -/

/-- The number of further open pairs behind a live character, if it does not close the last one. -/
def shift? (pair : Delimiters) (depth : Nat) : (shown : List Char) → Option Nat
  | [] => some depth
  | char :: _ =>
      if char = pair.opener then some (depth + 1)
      else if char = pair.closer then
        match depth with
        | 0 => none
        | depth + 1 => some depth
      else some depth

/-- With one more closer, the live closers outnumber the live openers by one more than the depth. -/
def Settles (pair : Delimiters) (depth : Nat) (live : List Char) : Prop :=
  (live ++ [pair.closer]).count pair.closer =
    (live ++ [pair.closer]).count pair.opener + depth + 1

variable {depth further : Nat} {quoting : Quoting} {char : Char}

theorem settles_nil : pair.Settles depth [] ↔ depth = 0 ∧ pair.closer ≠ pair.opener := by
  by_cases same : pair.closer = pair.opener
  · simp [Settles, same]
  · simp [Settles, same]

theorem settles_cons (shifted : pair.shift? depth [char] = some further) (live : List Char) :
    pair.Settles depth (char :: live) ↔ pair.Settles further live := by
  rw [Settles, Settles, List.cons_append, List.count_cons, List.count_cons]
  by_cases opens : char = pair.opener
  · subst opens
    obtain rfl : depth + 1 = further := by simpa [shift?] using shifted
    by_cases same : pair.opener = pair.closer
    · simp [same]
      omega
    · simp [same]
      omega
  · by_cases closes : char = pair.closer
    · subst closes
      cases depth with
      | zero => simp [shift?, opens] at shifted
      | succ depth =>
          obtain rfl : depth = further := by simpa [shift?, opens] using shifted
          simp [opens]
          omega
    · obtain rfl : depth = further := by simpa [shift?, opens, closes] using shifted
      simp [opens, closes]

theorem shown_eq (pair : Delimiters) (quoting : Quoting) (char : Char) :
    quoting.shown pair char = [] ∨
      quoting.shown pair char = [char] ∧ quoting = .outside ∧ ¬pair.Quotes char := by
  cases quoting with
  | outside =>
      by_cases quotes : pair.Quotes char
      · exact .inl (if_pos quotes)
      · exact .inr ⟨if_neg quotes, rfl, quotes⟩
  | inside quote | escaped quote => exact .inl rfl

theorem settles_shown (shifted : pair.shift? depth (quoting.shown pair char) = some further)
    (live : List Char) :
    pair.Settles depth (quoting.shown pair char ++ live) ↔ pair.Settles further live := by
  rcases shown_eq pair quoting char with hidden | ⟨shown, -⟩
  · rw [hidden] at shifted ⊢
    cases shifted
    exact Iff.rfl
  · rw [shown] at shifted ⊢
    exact settles_cons shifted live

/-- Only a live closer that is no opener ends the body, and only if no further pair is open. -/
theorem shift?_eq_none :
    pair.shift? depth (quoting.shown pair char) = none ↔
      char = pair.closer ∧ quoting = .outside ∧ ¬pair.Quotes char ∧ pair.Settles depth [] := by
  have counted : pair.shift? depth [char] = none ↔ char = pair.closer ∧ pair.Settles depth [] := by
    rw [settles_nil]
    by_cases opens : char = pair.opener
    · have goesOn : pair.shift? depth [char] ≠ none := by simp [shift?, opens]
      refine iff_of_false goesOn ?_
      rintro ⟨rfl, -, differs⟩
      exact differs opens
    · by_cases closes : char = pair.closer
      · subst closes
        cases depth <;> simp [shift?, opens]
      · simp [shift?, opens, closes]
  cases quoting with
  | outside =>
      by_cases quotes : pair.Quotes char
      · simp [Quoting.shown, quotes, shift?]
      · simp [Quoting.shown, quotes, counted]
  | inside quote | escaped quote => simp [Quoting.shown, shift?]

/-! ## The scan -/

theorem splitFrom?_cons (depth : Nat) (quoting : Quoting) (char : Char) (chars : List Char) :
    pair.splitFrom? depth quoting (char :: chars) =
      match pair.shift? depth (quoting.shown pair char) with
      | none => some ([], chars)
      | some further => keep char (pair.splitFrom? further (quoting.next pair char) chars) := by
  cases quoting with
  | escaped quote => rfl
  | inside quote =>
      simp only [splitFrom?, Quoting.shown, Quoting.next, shift?]
      split
      · rfl
      · split <;> rfl
  | outside =>
      by_cases quotes : pair.Quotes char
      · have opens : pair.quoted = true ∧ (char = '"' ∨ char = '\'') := quotes
        simp only [splitFrom?, if_pos opens, Quoting.shown, Quoting.next, if_pos quotes, shift?]
      · have plain : ¬(pair.quoted = true ∧ (char = '"' ∨ char = '\'')) := quotes
        simp only [splitFrom?, if_neg plain, Quoting.shown, Quoting.next, if_neg quotes, shift?]
        split
        · rfl
        · split
          · cases depth <;> rfl
          · rfl

/-- The scan stops where a live closer settles the depth. -/
theorem settles_of_splitFrom? (found : pair.splitFrom? depth quoting chars = some (body, rest)) :
    quoting.after pair body = .outside ∧ ¬pair.Quotes pair.closer ∧
      pair.Settles depth (pair.liveFrom quoting body) := by
  induction chars generalizing depth quoting body with
  | nil => cases found
  | cons char chars ih =>
      rw [splitFrom?_cons] at found
      cases shifted : pair.shift? depth (quoting.shown pair char) with
      | none =>
          obtain ⟨rfl, rfl, plain, settles⟩ := shift?_eq_none.mp shifted
          rw [shifted] at found
          cases found
          exact ⟨rfl, plain, settles⟩
      | some further =>
          rw [shifted] at found
          obtain ⟨inner, split, rfl⟩ := keep_eq_some.mp found
          obtain ⟨ends, plain, settles⟩ := ih split
          exact ⟨ends, plain, (settles_shown shifted _).mpr settles⟩

/-- The scan does not go beyond a live closer that settles the depth. -/
theorem splitFrom?_of_settles {front : List Char} (ends : quoting.after pair front = .outside)
    (plain : ¬pair.Quotes pair.closer) (settles : pair.Settles depth (pair.liveFrom quoting front))
    (behind : List Char) :
    ∃ body rest,
      pair.splitFrom? depth quoting (front ++ pair.closer :: behind) = some (body, rest) ∧
        body.length ≤ front.length := by
  induction front generalizing depth quoting with
  | nil =>
      obtain rfl : quoting = .outside := ends
      have stops : pair.shift? depth (Quoting.outside.shown pair pair.closer) = none :=
        shift?_eq_none.mpr ⟨rfl, rfl, plain, settles⟩
      exact ⟨[], behind, by rw [List.nil_append, splitFrom?_cons, stops], Nat.le_refl 0⟩
  | cons char front ih =>
      rw [List.cons_append, splitFrom?_cons]
      cases shifted : pair.shift? depth (quoting.shown pair char) with
      | none => exact ⟨[], _, rfl, Nat.zero_le _⟩
      | some further =>
          obtain ⟨body, rest, split, shorter⟩ := ih ends ((settles_shown shifted _).mp settles)
          exact ⟨char :: body, rest, keep_eq_some.mpr ⟨body, split, rfl⟩,
            Nat.succ_le_succ shorter⟩

theorem closesBehind_iff {front : List Char} :
    pair.ClosesBehind front ↔
      Quoting.outside.after pair front = .outside ∧ ¬pair.Quotes pair.closer ∧
        pair.Settles 0 (pair.liveFrom .outside front) := by
  constructor
  · rintro ⟨live, reading, plain, settles⟩
    obtain ⟨ends, rfl⟩ := reading_iff.mp reading
    exact ⟨ends, plain, settles⟩
  · rintro ⟨ends, plain, settles⟩
    exact ⟨_, reading_iff.mpr ⟨ends, rfl⟩, plain, settles⟩

theorem split?_of_closesBehind {front : List Char} (closes : pair.ClosesBehind front)
    (behind : List Char) :
    ∃ body rest, pair.split? (front ++ pair.closer :: behind) = some (body, rest) ∧
      body.length ≤ front.length := by
  obtain ⟨ends, plain, settles⟩ := closesBehind_iff.mp closes
  exact splitFrom?_of_settles ends plain settles behind

/-- A split is at the matching closer, if there is one. -/
theorem split?_eq_some_iff :
    pair.split? chars = some (body, rest) ↔ pair.Matches chars body rest := by
  constructor
  · intro found
    refine ⟨eq_of_splitFrom? found, closesBehind_iff.mpr (settles_of_splitFrom? found), ?_⟩
    rintro front behind rfl closes
    obtain ⟨other, _, split, shorter⟩ := split?_of_closesBehind closes behind
    rw [found] at split
    cases split
    exact shorter
  · rintro ⟨rfl, closes, first⟩
    obtain ⟨other, left, split, shorter⟩ := split?_of_closesBehind closes rest
    have text := eq_of_splitFrom? split
    have longer := first other left text (closesBehind_iff.mpr (settles_of_splitFrom? split))
    obtain ⟨rfl, tail⟩ := List.append_inj text (Nat.le_antisymm longer shorter)
    cases tail
    exact split

theorem split?_eq_none_iff :
    pair.split? chars = none ↔
      ∀ front behind, chars = front ++ pair.closer :: behind → ¬pair.ClosesBehind front := by
  constructor
  · rintro missing front behind rfl closes
    obtain ⟨body, rest, split, -⟩ := split?_of_closesBehind closes behind
    rw [missing] at split
    cases split
  · intro none
    cases split : pair.split? chars with
    | none => rfl
    | some parts =>
        have found := split?_eq_some_iff.mp split
        exact absurd found.closes (none _ _ found.text)

/-! ## Counters -/

/-- The variables of a scan for the matching closer. -/
structure Scan where
  /-- How many pairs are open, with the one around the text. -/
  depth : Nat
  /-- The quote that closes the literal that the scan is in. -/
  quote : Option Char
  /-- Whether a backslash of the literal stands in front. -/
  escaped : Bool
  deriving Repr, DecidableEq

/-- What must not happen to a counter. -/
inductive Scan.Fault where
  /-- The counter stood at zero and was to be decreased. -/
  | underflow
  deriving Repr, DecidableEq

namespace Scan

/-- The variables in front of the text behind an opener. -/
def start : Scan := ⟨1, none, false⟩

/-- The variables behind one more character, unless that is the closer. -/
def step (pair : Delimiters) (scan : Scan) (char : Char) : Except Fault (Option Scan) :=
  match scan.quote with
  | some quote =>
      if scan.escaped then .ok (some { scan with escaped := false })
      else if char = '\\' then .ok (some { scan with escaped := true })
      else if char = quote then .ok (some { scan with quote := none })
      else .ok (some scan)
  | none =>
      if pair.Quotes char then .ok (some { scan with quote := some char })
      else if char = pair.opener then .ok (some { scan with depth := scan.depth + 1 })
      else if char = pair.closer then
        match scan.depth with
        | 0 => .error .underflow
        | 1 => .ok none
        | depth + 1 => .ok (some { scan with depth := depth })
      else .ok (some scan)

/-- The offset of the closer in a text that stands at the given offset. -/
def run (pair : Delimiters) (scan : Scan) (offset : Nat) :
    List Char → Except Fault (Option Nat)
  | [] => .ok none
  | char :: chars =>
      match scan.step pair char with
      | .error fault => .error fault
      | .ok none => .ok (some offset)
      | .ok (some next) => next.run pair (offset + char.utf8Size) chars

/-- The variables with some further pairs open. -/
def within (depth : Nat) : Quoting → Scan
  | .outside => ⟨depth + 1, none, false⟩
  | .inside quote => ⟨depth + 1, some quote, false⟩
  | .escaped quote => ⟨depth + 1, some quote, true⟩

theorem step_within (pair : Delimiters) (depth : Nat) (quoting : Quoting) (char : Char) :
    (within depth quoting).step pair char =
      .ok ((pair.shift? depth (quoting.shown pair char)).map fun further =>
        within further (quoting.next pair char)) := by
  cases quoting with
  | escaped quote => rfl
  | inside quote =>
      by_cases escape : char = '\\'
      · simp [step, within, Quoting.shown, Quoting.next, shift?, escape]
      · by_cases last : char = quote
        · subst last
          simp [step, within, Quoting.shown, Quoting.next, shift?, escape]
        · simp [step, within, Quoting.shown, Quoting.next, shift?, escape, last]
  | outside =>
      simp only [step, within, Quoting.shown, Quoting.next]
      by_cases quotes : pair.Quotes char
      · simp [quotes, shift?]
      · simp only [if_neg quotes, shift?]
        split
        · rfl
        · split
          · cases depth <;> rfl
          · rfl

/-- With the pair around the text open, the counter never falls below zero. -/
theorem run_within (pair : Delimiters) (depth : Nat) (quoting : Quoting) (offset : Nat)
    (chars : List Char) :
    (within depth quoting).run pair offset chars =
      .ok ((pair.splitFrom? depth quoting chars).map fun split => offset + Utf8.size split.1) := by
  induction chars generalizing depth quoting offset with
  | nil => simp [run, splitFrom?]
  | cons char chars ih =>
      rw [run, step_within, splitFrom?_cons]
      cases pair.shift? depth (quoting.shown pair char) with
      | none => rfl
      | some further =>
          simp only [Option.map_some, ih]
          cases pair.splitFrom? further (quoting.next pair char) chars with
          | none => rfl
          | some split => simp [keep, Nat.add_assoc]

end Scan

/-! ## The offset of the closer -/

/-- The byte offset of the matching closer in the text behind an opener. -/
def closing? (pair : Delimiters) (chars : List Char) : Option Nat :=
  (pair.split? chars).map fun split => Utf8.size split.1

/-- The text behind an opener is cut at the first live closer at which the live closers outnumber
the live openers by one, and not at all if there is none; what follows that closer does not matter.
A scan with counters finds its offset and never decreases a counter that is zero. -/
theorem scan_stops_at_matching_closer (pair : Delimiters) (chars : List Char) :
    Scan.start.run pair 0 chars = .ok (pair.closing? chars) ∧
      (∀ offset, pair.closing? chars = some offset ↔
        ∃ body rest, pair.Matches chars body rest ∧ Utf8.size body = offset) ∧
      (pair.closing? chars = none ↔
        ∀ front behind, chars = front ++ pair.closer :: behind → ¬pair.ClosesBehind front) ∧
      ∀ body rest, pair.Matches chars body rest → ∀ other,
        pair.closing? (body ++ pair.closer :: other) = some (Utf8.size body) := by
  refine ⟨?_, ?_, ?_, ?_⟩
  · have ran := Scan.run_within pair 0 .outside 0 chars
    simp only [Nat.zero_add] at ran
    exact ran
  · intro offset
    simp only [closing?, Option.map_eq_some_iff, Prod.exists, split?_eq_some_iff]
  · rw [closing?, Option.map_eq_none_iff, split?_eq_none_iff]
  · intro body rest found other
    have split := splitFrom?_body (split?_eq_some_iff.mpr found) other
    rw [closing?, split?, split]
    rfl

/-- Brackets and quotes of both kinds, one of them escaped, stand in the literal; one that is not
closed hides the only closer. -/
theorem scan_stops_at_matching_closer_behind_literal :
    let body := "a[1] == \"é]\\\"['\"".toList
    let rest := " > b]".toList
    brackets.Matches (body ++ ']' :: rest) body rest ∧
      Scan.start.run brackets 0 (body ++ ']' :: rest) = .ok (some 17) ∧
      brackets.closing? (body ++ ']' :: "]é".toList) = some 17 ∧
      brackets.closing? "x == \"]".toList = none ∧
      ¬brackets.ClosesBehind "x == \"".toList := by
  intro body rest
  have found : brackets.Matches (body ++ ']' :: rest) body rest :=
    split?_eq_some_iff.mp (by decide)
  have unclosed : brackets.closing? "x == \"]".toList = none := by decide
  obtain ⟨ran, offsets, -, behind⟩ := scan_stops_at_matching_closer brackets (body ++ ']' :: rest)
  obtain ⟨-, -, missing, -⟩ := scan_stops_at_matching_closer brackets "x == \"]".toList
  refine ⟨found, ?_, behind body rest found _, unclosed, missing.mp unclosed _ [] rfl⟩
  rw [ran, (offsets 17).mpr ⟨body, rest, found, rfl⟩]

end NodeQuery.Selector.Delimiters
