import NodeQuery.RangeSet

/-!
# White space

The characters with the property White_Space, and texts without them at their ends.
-/

namespace NodeQuery.Text

/-- The characters with the property White_Space. -/
def whiteSpace : RangeSet :=
  ⟨[⟨0x09, 0x0d⟩, ⟨0x20, 0x20⟩, ⟨0x85, 0x85⟩, ⟨0xa0, 0xa0⟩, ⟨0x1680, 0x1680⟩, ⟨0x2000, 0x200a⟩,
    ⟨0x2028, 0x2029⟩, ⟨0x202f, 0x202f⟩, ⟨0x205f, 0x205f⟩, ⟨0x3000, 0x3000⟩]⟩

def isBlank (char : Char) : Bool := whiteSpace.contains char.toNat

/-- A text without the blanks at both ends. -/
def trim (chars : List Char) : List Char :=
  ((chars.dropWhile isBlank).reverse.dropWhile isBlank).reverse

end NodeQuery.Text
