import MarketQuery.Text.Extending

/-!
# Characters without a width

* `ignorableRanges`: the code points with the property `Default_Ignorable_Code_Point`;
* `joiningJamoRanges`: the vowels and trailing consonants of a Hangul syllable;
* `leadingMarkRanges`: marks and signs written before or over the digits or letters after them;
* `recentMarkRanges`: extending marks that Unicode 18 adds;
* `isZeroWidth`: the characters that take no column;
* `isTransparent`: those of them that an Arabic joining looks through.
-/

namespace MarketQuery.Text.Width

/-- Code points with the property `Default_Ignorable_Code_Point`. -/
def ignorableRanges : Ranges :=
  [(0xAD, 0xAD), (0x34F, 0x34F), (0x61C, 0x61C), (0x115F, 0x1160), (0x17B4, 0x17B5),
   (0x180B, 0x180F), (0x200B, 0x200F), (0x202A, 0x202E), (0x2060, 0x206F), (0x3164, 0x3164),
   (0xFE00, 0xFE0F), (0xFEFF, 0xFEFF), (0xFFA0, 0xFFA0), (0xFFF0, 0xFFF8), (0x1BCA0, 0x1BCA3),
   (0x1D173, 0x1D17A), (0xE0000, 0xE0FFF)]

/-- Hangul vowels and trailing consonants. -/
def joiningJamoRanges : Ranges :=
  [(0x1160, 0x11FF), (0xD7B0, 0xD7C6), (0xD7CB, 0xD7FB)]

/-- Marks that stand before the text they belong to. -/
def leadingMarkRanges : Ranges :=
  [(0x605, 0x605), (0x70F, 0x70F), (0x890, 0x891), (0x8E2, 0x8E2), (0xD4E, 0xD4E), (0xA8FA, 0xA8FA),
   (0x111C2, 0x111C3), (0x113D1, 0x113D1), (0x1193F, 0x1193F), (0x11941, 0x11941),
   (0x11A84, 0x11A89), (0x11D46, 0x11D46), (0x11F02, 0x11F02)]

/-- Extending marks that Unicode 18 adds. -/
def recentMarkRanges : Ranges :=
  [(0x5C8, 0x5C9), (0xB53, 0xB54), (0x1ADE, 0x1ADF), (0x1AEC, 0x1AF0), (0x10ECB, 0x10ECF),
   (0x10EF0, 0x10EF9), (0x11DF0, 0x11DF0), (0x1D127, 0x1D128), (0x1D250, 0x1D252),
   (0x1D25B, 0x1D25C), (0x1D25F, 0x1D25F), (0x1D280, 0x1D281)]

/-- Format characters with joining type `Transparent`. -/
def joiningFormatRanges : Ranges :=
  [(0xAD, 0xAD), (0x61C, 0x61C), (0x70F, 0x70F), (0x200B, 0x200B), (0x200E, 0x200F),
   (0x202A, 0x202E), (0x2060, 0x2064), (0x206A, 0x206F), (0xFEFF, 0xFEFF), (0x1BCA0, 0x1BCA3),
   (0x1D173, 0x1D17A), (0xE0001, 0xE0001)]

/-- Extending characters whose joining type is not `Transparent`. -/
def spacingExtensionRanges : Ranges :=
  [(0x9BE, 0x9BE), (0x9D7, 0x9D7), (0xB3E, 0xB3E), (0xB57, 0xB57), (0xBBE, 0xBBE), (0xBD7, 0xBD7),
   (0xCC0, 0xCC0), (0xCC2, 0xCC2), (0xCC7, 0xCC8), (0xCCA, 0xCCB), (0xCD5, 0xCD6), (0xD3E, 0xD3E),
   (0xD57, 0xD57), (0xDCF, 0xDCF), (0xDDF, 0xDDF), (0x1715, 0x1715), (0x1734, 0x1734),
   (0x1B35, 0x1B35), (0x1B3B, 0x1B3B), (0x1B3D, 0x1B3D), (0x1B43, 0x1B44), (0x1BAA, 0x1BAA),
   (0x1BF2, 0x1BF3), (0x200C, 0x200C), (0x302E, 0x302F), (0xA953, 0xA953), (0xA9C0, 0xA9C0),
   (0x111C0, 0x111C0), (0x11235, 0x11235), (0x1133E, 0x1133E), (0x1134D, 0x1134D),
   (0x11357, 0x11357), (0x113B8, 0x113B8), (0x113C2, 0x113C2), (0x113C5, 0x113C5),
   (0x113C7, 0x113C9), (0x113CF, 0x113CF), (0x114B0, 0x114B0), (0x114BD, 0x114BD),
   (0x115AF, 0x115AF), (0x116B6, 0x116B6), (0x11930, 0x11930), (0x1193D, 0x1193D),
   (0x11F41, 0x11F41), (0x16FF0, 0x16FF1), (0x1D165, 0x1D166), (0x1D16D, 0x1D172)]

/-- The character takes no column. U+115F fills the place of a syllable and U+2D7F is a letter. -/
def isZeroWidth (c : Char) : Bool :=
  c != '\u115f' && c != '\u2d7f' &&
    (isExtending c || ignorableRanges.contains c || joiningJamoRanges.contains c ||
      leadingMarkRanges.contains c || recentMarkRanges.contains c)

/-- The character is ignored between two joining Arabic letters. -/
def isTransparent (c : Char) : Bool :=
  joiningFormatRanges.contains c || recentMarkRanges.contains c ||
    (isExtending c && !spacingExtensionRanges.contains c)

end MarketQuery.Text.Width
