/-!
# Text from octets

Octets that are not well-formed UTF-8 are not refused: each longest piece that could still have
begun a character, or a single octet that could not, gives one U+FFFD.

* `Start`: what a first octet promises, namely how many octets follow and the range of the next;
* `ofOctets`: the text of a list of octets;
* `octets`: the octets of a text.
-/

namespace MarketQuery.Text

/-- What the first octet of a character promises. -/
structure Start where
  /-- The bits of the code point that it holds. -/
  bits : Nat
  /-- How many octets follow. -/
  owed : Nat
  /-- The least second octet. -/
  low : Nat := 0x80
  /-- The greatest second octet. -/
  high : Nat := 0xBF

/-- The promise of a first octet, if it can begin a character of more than one octet. -/
def Start.ofOctet? (b : UInt8) : Option Start :=
  let n := b.toNat
  if 0xC2 ≤ n ∧ n ≤ 0xDF then some { bits := n - 0xC0, owed := 1 }
  else if n = 0xE0 then some { bits := 0, owed := 2, low := 0xA0 }
  else if n = 0xED then some { bits := 0xD, owed := 2, high := 0x9F }
  else if 0xE1 ≤ n ∧ n ≤ 0xEF then some { bits := n - 0xE0, owed := 2 }
  else if n = 0xF0 then some { bits := 0, owed := 3, low := 0x90 }
  else if n = 0xF4 then some { bits := 4, owed := 3, high := 0x8F }
  else if 0xF1 ≤ n ∧ n ≤ 0xF3 then some { bits := n - 0xF0, owed := 3 }
  else none

/-- The character that stands for octets that make none. -/
def replacement : Char := '\ufffd'

/-- Octets read with a character open (`some`) or none. -/
def ofOctetsFrom : Option Start → List UInt8 → List Char
  | none, [] => []
  | some _, [] => [replacement]
  | some s, b :: rest =>
    if s.low ≤ b.toNat ∧ b.toNat ≤ s.high then
      let bits := s.bits * 64 + (b.toNat - 0x80)
      if s.owed ≤ 1 then .ofNat bits :: ofOctetsFrom none rest
      else ofOctetsFrom (some { bits, owed := s.owed - 1 }) rest
    else
      replacement ::
        if b < 0x80 then .ofNat b.toNat :: ofOctetsFrom none rest
        else match Start.ofOctet? b with
          | some t => ofOctetsFrom (some t) rest
          | none => replacement :: ofOctetsFrom none rest
  | none, b :: rest =>
    if b < 0x80 then .ofNat b.toNat :: ofOctetsFrom none rest
    else match Start.ofOctet? b with
      | some t => ofOctetsFrom (some t) rest
      | none => replacement :: ofOctetsFrom none rest

/-- The text of a list of octets. -/
def ofOctets (octets : List UInt8) : String := .ofList (ofOctetsFrom none octets)

/-- The octets of a text. -/
def octets (text : String) : List UInt8 := text.toUTF8.data.toList

end MarketQuery.Text
