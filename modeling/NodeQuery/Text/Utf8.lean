import NodeQuery.RangeSet

/-!
# UTF-8

The bytes of characters, and the byte sequences of ranges of characters.
-/

namespace NodeQuery.Utf8

/-- The bytes of a text. -/
def size (chars : List Char) : Nat :=
  chars.foldl (fun size char => size + char.utf8Size) 0

theorem foldl_size (chars : List Char) (start : Nat) :
    chars.foldl (fun size char => size + char.utf8Size) start = start + size chars := by
  induction chars generalizing start with
  | nil => rfl
  | cons char chars ih =>
      have tail := ih (0 + char.utf8Size)
      simp only [size, List.foldl_cons, ih (start + char.utf8Size)] at tail ⊢
      omega

@[simp] theorem size_nil : size [] = 0 := rfl

@[simp] theorem size_cons (char : Char) (chars : List Char) :
    size (char :: chars) = char.utf8Size + size chars := by
  rw [← foldl_size]
  simp [size]

@[simp] theorem size_append (left right : List Char) :
    size (left ++ right) = size left + size right := by
  induction left with
  | nil => simp
  | cons char left ih => simp [ih, Nat.add_assoc]

/-- The bytes of the character with a code. -/
def encode (code : Nat) : List Nat :=
  if code < 0x80 then [code]
  else if code < 0x800 then [0xc0 + code / 64, 0x80 + code % 64]
  else if code < 0x10000 then [0xe0 + code / 4096, 0x80 + code / 64 % 64, 0x80 + code % 64]
  else
    [0xf0 + code / 262144, 0x80 + code / 4096 % 64, 0x80 + code / 64 % 64, 0x80 + code % 64]

/-- A sequence of ranges; it stands for every sequence of bytes that has each byte in the range at
its place. -/
abbrev Sequence := List NumberRange

/-- All bytes behind the first of a character. -/
def continuation : NumberRange := ⟨0x80, 0xbf⟩

/-- The sequences of the numbers from `first` to `last`, written in base 64 with `count` digits
behind the leading one; `lead` is added to the leading digit.  The sequences are in increasing
order, and as few as possible. -/
def sequences : (count : Nat) → (lead first last : Nat) → List Sequence
  | 0, lead, first, last => [[⟨lead + first, lead + last⟩]]
  | count + 1, lead, first, last =>
      let block := 64 ^ (count + 1)
      let below (digit first last : Nat) : List Sequence :=
        (sequences count 0x80 first last).map (⟨lead + digit, lead + digit⟩ :: ·)
      let firstDigit := first / block
      let lastDigit := last / block
      if firstDigit = lastDigit then below firstDigit (first % block) (last % block)
      else
        let partialFirst := first % block ≠ 0
        let partialLast := last % block ≠ block - 1
        let wholeFirst := if partialFirst then firstDigit + 1 else firstDigit
        let wholeLast := if partialLast then lastDigit - 1 else lastDigit
        (if partialFirst then below firstDigit (first % block) (block - 1) else []) ++
          (if wholeFirst ≤ wholeLast then
            [⟨lead + wholeFirst, lead + wholeLast⟩ :: List.replicate (count + 1) continuation]
          else []) ++
          (if partialLast then below lastDigit 0 (last % block) else [])

/-- The sequences of the characters with codes in a range, in increasing order. -/
def sequencesOf (range : NumberRange) : List Sequence :=
  let within (count lead low high : Nat) : List Sequence :=
    let first := max range.first low
    let last := min range.last high
    if first ≤ last then sequences count lead first last else []
  within 0 0 0 0x7f ++ within 1 0xc0 0x80 0x7ff ++ within 2 0xe0 0x800 0xffff ++
    within 3 0xf0 0x10000 0x10ffff

end NodeQuery.Utf8
