import Gateway.Text.CodeSet

/-!
# Ignorable characters

The characters that nothing is drawn for where they have no effect: those with the property
`Default_Ignorable_Code_Point`, such as joiners, variation selectors, the soft hyphen and the fillers
of Hangul, which are letters and yet cannot be seen. The table is the one of Unicode 17; codes that
are kept free for more such characters are in it.
-/

namespace Gateway

/-- The characters with the property `Default_Ignorable_Code_Point`. -/
def ignorable : CodeSet :=
  ⟨[(0x00AD, 0x00AD), (0x034F, 0x034F), (0x061C, 0x061C), (0x115F, 0x1160), (0x17B4, 0x17B5),
    (0x180B, 0x180F), (0x200B, 0x200F), (0x202A, 0x202E), (0x2060, 0x206F), (0x3164, 0x3164),
    (0xFE00, 0xFE0F), (0xFEFF, 0xFEFF), (0xFFA0, 0xFFA0), (0xFFF0, 0xFFF8), (0x1BCA0, 0x1BCA3),
    (0x1D173, 0x1D17A), (0xE0000, 0xE0FFF)],
    by decide +kernel⟩

example : ignorable.size = 4174 := by decide +kernel

/-- Whether a character can go unseen. -/
def isIgnorable (c : Char) : Bool :=
  ignorable.contains c

end Gateway
