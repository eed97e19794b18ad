import NodeQuery.Unicode.Category
import NodeQuery.Unicode.Property

/-!
# Quoted text

Strings inside printed values and expressions stand between double quotes.  Quotes, backslashes and
control characters are written as escapes, and so is every character that would not show by
itself: unassigned characters, separators other than the blank, and marks that extend the
character in front of them.
-/

namespace NodeQuery.Quoted

/-- The general categories whose characters do not show. -/
def hiddenCategories : List String := ["Cc", "Cf", "Cn", "Co", "Zl", "Zp", "Zs"]

/-- The characters that are written by their code points. -/
def hidden : RangeSet :=
  let invisible := Unicode.categories.unionWhere hiddenCategories.contains
  (invisible.diff (.range 32 32) 0x10FFFF).union (Unicode.properties.get "Grapheme_Extend")

/-- Whether a character is written by its code point.  Printable ASCII needs no look at the
table. -/
def isHidden (char : Char) : Bool :=
  if 32 ≤ char.toNat ∧ char.toNat < 127 then false else hidden.contains char.toNat

/-- One character inside quotes. -/
def encodeChar (char : Char) : List Char :=
  if char = '"' then ['\\', '"']
  else if char = '\\' then ['\\', '\\']
  else if char = '\n' then ['\\', 'n']
  else if char = '\r' then ['\\', 'r']
  else if char = '\t' then ['\\', 't']
  else if char = '\x00' then ['\\', '0']
  else if isHidden char then
    '\\' :: 'u' :: '\x7b' :: (Nat.toDigits 16 char.toNat ++ ['\x7d'])
  else [char]

/-- A text between double quotes. -/
def encode (text : String) : String :=
  String.ofList ('"' :: (text.toList.flatMap encodeChar ++ ['"']))

end NodeQuery.Quoted
