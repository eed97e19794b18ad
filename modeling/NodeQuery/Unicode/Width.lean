import NodeQuery.Unicode.Property

/-!
# Widths

How many columns a character takes where all characters of a text are as wide as a letter or twice
as wide (Unicode 16.0).
-/

namespace NodeQuery.Unicode

/-- The characters that are wide or full-width among East Asian ones. -/
def wideCharacters : RangeSet := (Table.read "
@W @Wide 1100+5f 11ba+1 d+1 be+3 3 2 209+1 15+1 1a+7 10+b 2b a+5 3 d 8+1 11+1 5+1 8 5 15 7+1 1 4
2 7 4+1 1c 23 1 4+2 1 3d+2 18 e 35b+1 33 4 32a+19 1+58 c+d5 1a+4e 2+55 2+66 5+2a 1+5d 1+55 9+2f
1+27 8+723c 3+36 499+1c 283+2ba3 215c+1ff 310+9 16+22 1+12 1+3 95+5f 7f+6 6ff9+4 b+1 e+17f7
8+4d5 29+9 22e7+3 1+6 1+1 1+122 f 1d+2 2 e+3 8+18b 2004+56 9+16 1c8d ca be 2+9 65+2 d+2b 4+8 7+1
e+5 9a+20 c+8 1+45 1+15 c+2a 4+4 c+10 3 3+46 1 1+ba 2+3e d+3 1+17 12 1a+1 d 56+54 30+45 6 3+2
2+2 4+3 b+1 7+8 e3+b 4 11b+2e 1+9 1+b8 70+c 3+9 5+37 7+e 2+a 6+8 507+fffd 2+fffd").get "Wide"

/-- The vowels and final consonants that join the syllable in front of them. -/
def joiningJamo : RangeSet :=
  ⟨[⟨0x1160, 0x11ff⟩, ⟨0xd7b0, 0xd7c6⟩, ⟨0xd7cb, 0xd7fb⟩]⟩

/-- The characters that take no column of their own. -/
def zeroWidthCharacters : RangeSet :=
  ((properties.get "Default_Ignorable_Code_Point").union (properties.get "Grapheme_Extend")).union
    (joiningJamo.union (.ofCodes [0x605, 0x70f, 0x890, 0x891, 0x8e2, 0xa8fa]))

/-- The columns of a character that can be seen. -/
def width (char : Char) : Nat :=
  match char.toNat with
  | 0x2d7f => 1
  | 0x115f | 0x17a4 => 2
  | 0x17d8 => 3
  | code =>
      if zeroWidthCharacters.contains code then 0
      else if wideCharacters.contains code then 2
      else 1

end NodeQuery.Unicode
