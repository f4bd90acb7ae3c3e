import MarketQuery.Text.Width.Zero
import MarketQuery.Text.Width.Wide
import MarketQuery.Text.Width.Emoji

/-!
# Columns on a terminal

The columns a text takes are not the sum of what its characters take alone: a picture selector
widens the character before it, joined pictographs share one place, some letters merge. A text is
measured from its end, and each character is measured in view of what follows it.

* `charWidth`: the columns of a character on its own, controls none;
* `Follower`, `Context`: what follows a character, as far as its width depends on it;
* `measure`: the columns a character adds before a context, and the context it leaves;
* `width`: the columns of a text.
-/

namespace MarketQuery.Text

open Width

/-- The columns of a character that is no control. -/
def cellWidth (c : Char) : Nat :=
  if isZeroWidth c then 0
  else if c = '\u17d8' then 3
  else if isWide c then 2
  else 1

/-- A control character: below U+0020, or from U+007F to U+009F. -/
def isControl (c : Char) : Bool := c.toNat < 0x20 || (0x7f ≤ c.toNat && c.toNat < 0xa0)

/-- The columns of a character on its own; a control has none. -/
def charWidth (c : Char) : Nat := if isControl c then 0 else cellWidth c

/-- Letters and signs that merge with a character before them. -/
inductive Ligature
  | lamed
  | ya
  | yaVowel
  | tifinagh
  | tifinaghJoined
  | lisuTone
  | orkhonI
  | khmerLetter
  deriving DecidableEq, Repr

/-- What follows a character. -/
inductive Follower
  | plain
  | lineFeed
  | skinTone
  | flagLetter
  | flagLetters
  | pictograph
  | joiner
  | joinedKeycap
  | joinedFlag
  | joinedFlagEven
  | joinedFlagOdd
  | joinedTags (letters digits : Nat)
  | kiratE
  | kiratAi
  | alef
  | ligature (sign : Ligature) (joined : Bool)
  deriving DecidableEq, Repr

/-- What follows a character, and the selectors between. -/
structure Context where
  follower : Follower := .plain
  asPicture : Bool := false
  asText : Bool := false
  /-- A quotation mark before it is widened. -/
  asWide : Bool := false
  deriving DecidableEq, Repr

namespace Follower

/-- The follower takes part in a merge, so selectors before it are kept in mind. -/
def merges : Follower → Bool
  | alef | ligature .. => true
  | _ => false

/-- A pictograph is joined to what comes before. -/
def joins : Follower → Bool
  | joiner | joinedKeycap => true
  | _ => false

end Follower

namespace Context

/-- The context with a picture selector put before it. -/
def selectPicture (x : Context) : Context :=
  if x.follower.merges || (x.follower.joins && !x.asPicture) then { x with asPicture := true }
  else { asPicture := true }

/-- The context without its picture selector. -/
def dropPicture (x : Context) : Context :=
  if x.follower.merges then { x with asPicture := false } else {}

/-- The context with a text selector put before it. -/
def selectText (x : Context) : Context :=
  if x.follower.merges then { x with asText := true } else { asText := true }

/-- The context with a selector of wide quotation marks put before it. -/
def selectWide (x : Context) : Context :=
  if x.follower.merges then { x with asWide := true } else { asWide := true }

end Context

/-- The letters `lam`, which merge with a following `alef`. -/
def isLam (c : Char) : Bool :=
  Ranges.contains [(0x644, 0x644), (0x6B5, 0x6B8), (0x76A, 0x76A), (0x8A6, 0x8A6), (0x8C7, 0x8C7)] c

/-- The letters `alef`. -/
def isAlef (c : Char) : Bool :=
  Ranges.contains
    [(0x622, 0x623), (0x625, 0x625), (0x627, 0x627), (0x671, 0x673), (0x675, 0x675),
     (0x773, 0x774), (0x870, 0x882)] c

/-- Khmer letters that are written below a letter when U+17D2 stands before them. -/
def isKhmerSubscript (c : Char) : Bool :=
  Ranges.contains
    [(0x1780, 0x1782), (0x1784, 0x1787), (0x1789, 0x178C), (0x178E, 0x1793), (0x1795, 0x1798),
     (0x179B, 0x179D), (0x17A0, 0x17A0), (0x17A2, 0x17A2), (0x17A7, 0x17A7), (0x17AB, 0x17AC),
     (0x17AF, 0x17AF)] c

/-- Quotation marks that are drawn narrow or wide. -/
def isCurlyQuote (c : Char) : Bool := Ranges.contains [(0x2018, 0x2019), (0x201C, 0x201D)] c

/-- Tifinagh consonants. -/
def isTifinagh (c : Char) : Bool := Ranges.contains [(0x2D31, 0x2D65), (0x2D6F, 0x2D6F)] c

/-- Regional indicators, of which two make a flag. -/
def isFlagLetter (c : Char) : Bool := Ranges.contains [(0x1F1E6, 0x1F1FF)] c

/-- The five skin tones. -/
def isSkinTone (c : Char) : Bool := Ranges.contains [(0x1F3FB, 0x1F3FF)] c

/-- Ignorable marks, which do not keep letters from merging. -/
def isIgnorableMark (c : Char) : Bool :=
  Ranges.contains
    [(0x34F, 0x34F), (0x17B4, 0x17B5), (0x180B, 0x180D), (0x180F, 0x180F), (0x200D, 0x200D),
     (0xFE00, 0xFE0F), (0xE0100, 0xE01EF)] c

/-- What a character is to the one before it. -/
def Follower.ofChar (c : Char) : Follower :=
  if c = '\u05dc' then .ligature .lamed false
  else if isAlef c then .alef
  else if isKhmerSubscript c then .ligature .khmerLetter true
  else if c = '\u1a10' then .ligature .ya false
  else if isTifinagh c then .ligature .tifinagh false
  else if c = '\ua4fc' || c = '\ua4fd' then .ligature .lisuTone true
  else if c.toNat = 0x10C03 then .ligature .orkhonI false
  else if c.toNat = 0x16D67 then .kiratE
  else if c.toNat = 0x16D68 then .kiratAi
  else if isFlagLetter c then .flagLetter
  else if isSkinTone c then .skinTone
  else if isPictograph c then .pictograph
  else .plain

/-- The context a character makes on its own. -/
def Context.ofChar (c : Char) : Context :=
  if c = '\ufe0f' then { asPicture := true }
  else if c = '\ufe0e' then { asText := true }
  else if c = '\ufe01' then { asWide := true }
  else { follower := .ofChar c }

/-- How a character merges with the follower after it: the columns it adds and what it becomes. -/
def merge (c : Char) : Follower → Option (Int × Follower)
  | .alef =>
    if isLam c then some (0, .plain)
    else if isZeroWidth c && isTransparent c then some (0, .alef)
    else none
  | .ligature .lamed true => if c = '\u05d0' then some (0, .plain) else none
  | .ligature .khmerLetter _ => if c = '\u17d2' then some (-1, .plain) else none
  | .ligature .ya true => if c = '\u1a17' then some (0, .ligature .yaVowel true) else none
  | .ligature .yaVowel _ => if c = '\u1a15' then some (0, .plain) else none
  | .ligature .tifinagh joined =>
    if c = '\u2d7f' then some (1, .ligature .tifinaghJoined true)
    else if joined && isTifinagh c then some (0, .plain)
    else none
  | .ligature .tifinaghJoined _ => if isTifinagh c then some (-1, .plain) else none
  | .ligature .lisuTone _ =>
    if Ranges.contains [(0xA4F8, 0xA4FB)] c then some (0, .plain) else none
  | .ligature .orkhonI true => if c.toNat = 0x10C32 then some (0, .plain) else none
  | .skinTone =>
    if isTonable c then some (0, .pictograph)
    else if c = '\u200d' then some (0, .joiner)
    else none
  | .flagLetter => if isFlagLetter c then some (1, .flagLetters) else none
  | .flagLetters =>
    if isFlagLetter c then some (1, .flagLetters)
    else if c = '\u200d' then some (0, .joiner)
    else none
  | .pictograph => if c = '\u200d' then some (0, .joiner) else none
  | .joiner =>
    if c = '\u20e3' then some (0, .joinedKeycap)
    else if isFlagLetter c then some (1, .joinedFlag)
    else if isSkinTone c then some (0, .skinTone)
    else if c.toNat = 0xE007F then some (0, .joinedTags 0 0)
    else if isPictograph c then some (0, .pictograph)
    else none
  | .joinedFlag => if isFlagLetter c then some (-1, .joinedFlagEven) else none
  | .joinedFlagOdd =>
    if isFlagLetter c then some (-1, .joinedFlagEven)
    else if c = '\u200d' then some (0, .joiner)
    else none
  | .joinedFlagEven =>
    if isFlagLetter c then some (3, .joinedFlagOdd)
    else if c = '\u200d' then some (0, .joiner)
    else none
  | .joinedTags letters digits =>
    if Ranges.contains [(0xE0061, 0xE007A)] c && digits = 0 && letters < 6 then
      some (0, .joinedTags (letters + 1) 0)
    else if Ranges.contains [(0xE0030, 0xE0039)] c && letters ≤ 4 && digits < 3 then
      some (0, .joinedTags letters (digits + 1))
    else if c.toNat = 0x1F3F4 && ((digits = 0 && 3 ≤ letters) || digits = 3) then
      some (0, .pictograph)
    else none
  | .kiratE =>
    if c.toNat = 0x16D63 || c.toNat = 0x16D69 then some (0, .plain)
    else if c.toNat = 0x16D67 then some (0, .kiratAi)
    else if c.toNat = 0x16D68 then some (1, .kiratE)
    else none
  | .kiratAi => if c.toNat = 0x16D63 then some (0, .plain) else none
  | _ => none

/-- A character of the first blocks, where each takes one column but `\r` before `\n`. -/
def measureLatin (c : Char) (x : Context) : Int × Context :=
  if c = '\n' then (1, { follower := .lineFeed })
  else if c = '\r' && x.follower = .lineFeed then (0, {})
  else (1, {})

/-- A character in a context without selectors to settle. -/
def measureMerging (c : Char) (x : Context) : Int × Context :=
  match merge c x.follower with
  | some (columns, follower) => (columns, { x with follower })
  | none => (cellWidth c, .ofChar c)

/-- A character beyond the first blocks, no picture selector being left in the context. -/
def measureBeyond (c : Char) (x : Context) : Int × Context :=
  if c = '\ufe0f' then (0, x.selectPicture)
  else if c = '\ufe0e' then (0, x.selectText)
  else if c = '\ufe01' then (0, x.selectWide)
  else if x.asText && isTextSelectable c then (1, {})
  else if x.asWide && isCurlyQuote c then (2, {})
  else
    let x := { x with asText := false, asWide := false }
    match x.follower with
    | .ligature sign joined =>
      if c = '\u200d' then (0, { x with follower := .ligature sign true })
      else if isIgnorableMark c then (0, { x with follower := .ligature sign joined })
      else measureMerging c x
    | _ => measureMerging c x

/-- The columns that a character adds before a context, and the context that it leaves. -/
def measure (c : Char) (x : Context) : Int × Context :=
  if x.asPicture && isSelectable c then
    (if x.follower.joins then 0 else 2, { follower := .pictograph })
  else
    let x := if x.asPicture then x.dropPicture else x
    if c.toNat ≤ 0xa0 then measureLatin c x else measureBeyond c x

/-- The columns of a text and the context that it leaves to a text before it. -/
def measureAll (cs : List Char) : Int × Context :=
  cs.foldr (fun c (total, x) => let (columns, y) := measure c x; (total + columns, y)) (0, {})

/-- The columns of a text on a terminal. -/
def width (s : String) : Nat := (measureAll s.toList).1.toNat

end MarketQuery.Text
