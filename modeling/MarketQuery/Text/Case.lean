/-!
# Letter case

Words that the program looks for are compared without regard to the case of ASCII letters; other
letters are left alone.

* `lower`: ASCII letters made small;
* `sameWord`: two texts agree but for the case of ASCII letters.
-/

namespace MarketQuery.Text

/-- A list of characters with its ASCII letters made small. -/
def lowerList (cs : List Char) : List Char := cs.map Char.toLower

/-- A text with its ASCII letters made small. -/
def lower (s : String) : String := .ofList (lowerList s.toList)

/-- Two texts agree but for the case of ASCII letters. -/
def sameWord (s t : String) : Bool := lowerList s.toList = lowerList t.toList

end MarketQuery.Text
