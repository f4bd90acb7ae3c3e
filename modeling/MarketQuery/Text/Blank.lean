import MarketQuery.Text.Ranges

/-!
# White space

* `isBlank`: the 25 characters with the property `White_Space`;
* `trim`: a text without the blanks at its two ends.
-/

namespace MarketQuery.Text

/-- Code points with the property `White_Space`. -/
def blankRanges : Ranges :=
  [(0x9, 0xD), (0x20, 0x20), (0x85, 0x85), (0xA0, 0xA0), (0x1680, 0x1680), (0x2000, 0x200A),
   (0x2028, 0x2029), (0x202F, 0x202F), (0x205F, 0x205F), (0x3000, 0x3000)]

/-- White space. -/
def isBlank (c : Char) : Bool := blankRanges.contains c

/-- A list of characters without the blanks at its end. -/
def trimEnd (cs : List Char) : List Char := (cs.reverse.dropWhile isBlank).reverse

/-- A list of characters without the blanks at its two ends. -/
def trimList (cs : List Char) : List Char := trimEnd (cs.dropWhile isBlank)

/-- A text without the blanks at its two ends. -/
def trim (s : String) : String := .ofList (trimList s.toList)

end MarketQuery.Text
