import NodeQuery.Regex.Syntax
import NodeQuery.Text.Blank
import NodeQuery.Unicode.Age
import NodeQuery.Unicode.Break
import NodeQuery.Unicode.Category
import NodeQuery.Unicode.Folding
import NodeQuery.Unicode.Property
import NodeQuery.Unicode.Script

/-!
# Sets of characters that patterns name

Sets of characters are sets of their codes; surrogates are codes of no character, so no set has
them.
-/

namespace NodeQuery.Regex

/-- The largest code of a character. -/
def lastCode : Nat := 0x10ffff

/-- All characters. -/
def everyCharacter : RangeSet := .ofRanges [⟨0, 0xd7ff⟩, ⟨0xe000, lastCode⟩]

/-- All characters of ASCII. -/
def asciiCharacters : RangeSet := .range 0 0x7f

/-- The characters that are not in a set. -/
def otherCharacters (set : RangeSet) : RangeSet := everyCharacter.diff set lastCode

/-- Whether a set has characters of ASCII only. -/
def isAscii (set : RangeSet) : Bool := set.ranges.all fun range => range.last ≤ 0x7f

/-- A set or, if it is negated, all other characters. -/
def negateIf (negated : Bool) (set : RangeSet) : RangeSet :=
  if negated then otherCharacters set else set

/-- The characters of a class that is named in brackets. -/
def NamedClass.set : NamedClass → RangeSet
  | .alnum => .ofRanges [digits, upper, lower]
  | .alpha => .ofRanges [upper, lower]
  | .ascii => asciiCharacters
  | .blank => .ofCodes [0x09, 0x20]
  | .cntrl => .ofRanges [⟨0x00, 0x1f⟩, ⟨0x7f, 0x7f⟩]
  | .digit => .ofRanges [digits]
  | .graph => .range 0x21 0x7e
  | .lower => .ofRanges [lower]
  | .print => .range 0x20 0x7e
  | .punct => .ofRanges [⟨0x21, 0x2f⟩, ⟨0x3a, 0x40⟩, ⟨0x5b, 0x60⟩, ⟨0x7b, 0x7e⟩]
  | .space => .ofRanges [⟨0x09, 0x0d⟩, ⟨0x20, 0x20⟩]
  | .upper => .ofRanges [upper]
  | .word => .ofRanges [digits, upper, lower, ⟨0x5f, 0x5f⟩]
  | .xdigit => .ofRanges [digits, ⟨0x41, 0x46⟩, ⟨0x61, 0x66⟩]
where
  digits : NumberRange := ⟨0x30, 0x39⟩
  upper : NumberRange := ⟨0x41, 0x5a⟩
  lower : NumberRange := ⟨0x61, 0x7a⟩

namespace EscapedClass

/-- The characters of ASCII in a class that has an escape. -/
def ascii : EscapedClass → RangeSet
  | .digit => NamedClass.digit.set
  | .space => NamedClass.space.set
  | .word => NamedClass.word.set

/-- All decimal digits. -/
def digits : RangeSet := Unicode.categories.get "Nd"

/-- All letters, marks, digits, connectors and joiners. -/
def wordCharacters : RangeSet :=
  let parts := Unicode.categories.unionWhere ["Mn", "Mc", "Me", "Nd", "Pc"].contains
  (parts.union (Unicode.properties.get "Alphabetic")).union
    (Unicode.properties.get "Join_Control")

/-- All characters of a class that has an escape. -/
def full : EscapedClass → RangeSet
  | .digit => digits
  | .space => Text.whiteSpace
  | .word => wordCharacters

end EscapedClass

namespace Property

/-- A name in the form in which names are compared: without case, blanks, `_`, `-` and a leading
`is`.  What remains of `isc` would be the short name of a category, so it keeps its `is`. -/
def normalize (name : String) : String :=
  let kept (chars : List Char) : List Char :=
    (chars.filter fun char => char ≠ ' ' && char ≠ '_' && char ≠ '-' && char.toNat < 128).map
      Char.toLower
  match name.toList with
  | first :: second :: rest =>
      if first.toLower = 'i' && second.toLower = 's' then
        match kept rest with
        | ['c'] => "isc"
        | rest => .ofList rest
      else .ofList (kept (first :: second :: rest))
  | chars => .ofList (kept chars)

/-- Whether a name in a table is the given one, in normal form. -/
def isNamed (name : String) (entry : String) : Bool := normalize entry == name

/-- The categories that have parts, with the short names of the parts. -/
def unions : List (List String × List String) :=
  [(["l", "letter"], ["Lu", "Ll", "Lt", "Lm", "Lo"]),
   (["lc", "casedletter"], ["Lu", "Ll", "Lt"]),
   (["m", "mark", "combiningmark"], ["Mn", "Mc", "Me"]),
   (["n", "number"], ["Nd", "Nl", "No"]),
   (["p", "punctuation", "punct"], ["Pc", "Pd", "Ps", "Pe", "Pi", "Pf", "Po"]),
   (["s", "symbol"], ["Sm", "Sc", "Sk", "So"]),
   (["z", "separator"], ["Zs", "Zl", "Zp"]),
   (["c", "other"], ["Cc", "Cf", "Co", "Cn"])]

/-- The characters of a category, given by its name in normal form. -/
def category? (name : String) : Option RangeSet :=
  match name with
  | "any" => some everyCharacter
  | "ascii" => some asciiCharacters
  | "assigned" => some (otherCharacters (Unicode.categories.get "Cn"))
  | _ =>
      match unions.find? fun (names, _) => names.contains name with
      | some (_, parts) => some (Unicode.categories.unionWhere fun part => parts.contains part)
      | none => Unicode.categories.find? (isNamed name)

/-- The characters that a version of Unicode has, given by its name in normal form. -/
def age? (name : String) : Option RangeSet :=
  let rec upTo (found : RangeSet) : List Unicode.Entry → Option RangeSet
    | [] => none
    | entry :: entries =>
        let found := found.union entry.set
        if entry.names.any (isNamed name) then some found else upTo found entries
  upTo .empty Unicode.ages.entries

/-- The characters that have a property; `none` if the property is unknown.  A name alone is a
property first, then a category, then a script. -/
def set? : Property → Option RangeSet
  | .named name =>
      let name := normalize name
      (Unicode.properties.find? (isNamed name)).or
        ((category? name).or (Unicode.scripts.find? (isNamed name)))
  | .valued name value =>
      let value := normalize value
      match normalize name with
      | "gc" | "generalcategory" => category? value
      | "sc" | "script" => Unicode.scripts.find? (isNamed value)
      | "scx" | "scriptextensions" => Unicode.scriptExtensions.find? (isNamed value)
      | "age" => age? value
      | "gcb" | "graphemeclusterbreak" => Unicode.graphemeBreaks.find? (isNamed value)
      | "wb" | "wordbreak" => Unicode.wordBreaks.find? (isNamed value)
      | "sb" | "sentencebreak" => Unicode.sentenceBreaks.find? (isNamed value)
      | _ => none

end Property

end NodeQuery.Regex
