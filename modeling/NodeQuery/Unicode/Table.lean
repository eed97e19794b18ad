import NodeQuery.RangeSet

/-!
# Tables of character properties

The tables of this folder are texts of words between blanks.  A word with `@` in front names an
entry; the words behind it are the ranges of the entry in increasing order.  Each range is given in
hexadecimal: how many characters lie between it and the range before, and, behind `+`, how many
characters it has after its first.
-/

namespace NodeQuery.Unicode

/-- The words of a text, which blanks and line ends separate. -/
def words (chars : List Char) : List (List Char) :=
  let finish (word : List Char) (rest : List (List Char)) : List (List Char) :=
    if word.isEmpty then rest else word :: rest
  let (word, rest) := chars.foldr
    (fun char (word, rest) =>
      if char.isWhitespace then ([], finish word rest) else (char :: word, rest))
    ([], [])
  finish word rest

/-- The value of a hexadecimal digit in lower case; other characters count as zero. -/
def hexDigit (char : Char) : Nat :=
  if char.isDigit then char.toNat - '0'.toNat
  else if 'a' ≤ char ∧ char ≤ 'f' then char.toNat - 'a'.toNat + 10
  else 0

/-- The hexadecimal numbers of a word, which `separator` stands between. -/
def numbers (separator : Char) (word : List Char) : List Nat :=
  let (number, numbers) := word.foldl
    (fun (number, numbers) char =>
      if char = separator then (0, number :: numbers)
      else (number * 16 + hexDigit char, numbers))
    (0, [])
  (number :: numbers).reverse

/-- A named set of characters. -/
structure Entry where
  names : List String
  set : RangeSet
  deriving Repr, Inhabited

/-- Named sets of characters, in the order of their text. -/
structure Table where
  entries : List Entry
  deriving Repr, Inhabited

namespace Table

/-- The ranges of an entry, the first of which is counted from `next`. -/
def ranges (next : Nat) : List (List Nat) → List NumberRange
  | [] => []
  | word :: words =>
      let first := next + word.headD 0
      let last := first + (word.tail.headD 0)
      ⟨first, last⟩ :: ranges (last + 1) words

/-- Reads the entries of a table from the back: `pending` are the words of ranges whose names are
still to come. -/
def readWords (text : List (List Char)) : List Entry :=
  let (_, _, entries) := text.foldr
    (fun word (pending, named, entries) =>
      match word with
      | '@' :: name =>
          let name := String.ofList name
          match named, entries with
          | true, entry :: entries =>
              (pending, true, ⟨name :: entry.names, entry.set⟩ :: entries)
          | _, entries => ([], true, ⟨[name], ⟨ranges 0 pending⟩⟩ :: entries)
      | _ =>
          let word := numbers '+' word
          if named then ([word], false, entries) else (word :: pending, false, entries))
    (([] : List (List Nat)), false, ([] : List Entry))
  entries

/-- The table that a text gives. -/
def read (text : String) : Table := ⟨readWords (words text.toList)⟩

/-- The set of the first entry one of whose names satisfies `accept`. -/
def find? (table : Table) (accept : String → Bool) : Option RangeSet :=
  (table.entries.find? fun entry => entry.names.any accept).map Entry.set

/-- The set of the entry with the given name, written as in the table. -/
def get (table : Table) (name : String) : RangeSet :=
  (table.find? (· == name)).getD .empty

/-- The union of the entries one of whose names satisfies `accept`. -/
def unionWhere (table : Table) (accept : String → Bool) : RangeSet :=
  .ofRanges ((table.entries.filter fun entry => entry.names.any accept).flatMap (·.set.ranges))

end Table

end NodeQuery.Unicode
