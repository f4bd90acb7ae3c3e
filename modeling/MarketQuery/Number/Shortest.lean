import MarketQuery.Number.Binary64

/-!
# The fewest digits that identify a number

The reals that are nearer to a size than to any other form an interval, ends included when the
code is even. On each grid of multiples of a power of ten only the two neighbours of the size can
be the nearest point; the grids are tried from a coarse one down, and the first with a point in the
interval gives the fewest digits. On the grid of `10 ^ (-1074)` the size itself lies.

* `Decimal`: `digits * 10 ^ exponent`;
* `Reads`: the decimals that are read as a given code;
* `shortest`: the decimal of fewest digits, of these the nearest to the size.
-/

namespace MarketQuery.Number

/-- The decimal `digits * 10 ^ exponent`. -/
structure Decimal where
  digits : Nat
  exponent : Int
  deriving DecidableEq, Repr

/-- Where to go when two decimals are equally near. -/
inductive Tie
  | up
  | toEven
  deriving DecidableEq, Repr

open Binary64 (one units)

/-- The denominator that both ends of the interval and the points of a grid are brought to. -/
def gridDenominator (exponent : Int) : Nat := Nat.pow 10 (-exponent).toNat

/-- Twice the step of a grid, in units, over `gridDenominator`. -/
def gridStep (exponent : Int) : Nat := Nat.pow 10 exponent.toNat * (2 * one)

/-- The decimal lies in the interval of reals that are read as the code. -/
def Reads (code : Nat) (d : Decimal) : Prop :=
  let lo := (units (code - 1) + units code) * gridDenominator d.exponent
  let hi := (units code + units (code + 1)) * gridDenominator d.exponent
  let x := d.digits * gridStep d.exponent
  if code % 2 = 0 then lo ≤ x ∧ x ≤ hi else lo < x ∧ x < hi

instance (code : Nat) (d : Decimal) : Decidable (Reads code d) := by
  unfold Reads; infer_instance

/-- The nearest decimal of a grid among those that are read as the code. -/
def onGrid? (tie : Tie) (code : Nat) (exponent : Int) : Option Decimal :=
  let x := 2 * units code * gridDenominator exponent
  let step := gridStep exponent
  let below : Decimal := ⟨x / step, exponent⟩
  let above : Decimal := ⟨x / step + 1, exponent⟩
  let nearer := if 2 * (x % step) < step then below
    else if step < 2 * (x % step) then above
    else match tie with
      | .up => above
      | .toEven => if below.digits % 2 = 0 then below else above
  if Reads code below then
    if Reads code above then some nearer else some below
  else if Reads code above then some above
  else none

/-- The exact size of a code. -/
def exactly (code : Nat) : Decimal := ⟨units code * Nat.pow 5 1074, -1074⟩

/-- The grids from `10 ^ exponent` down, at most `steps` of them, and then the exact size. -/
def shortestFrom (tie : Tie) (code : Nat) : Nat → Int → Decimal
  | 0, _ => exactly code
  | steps + 1, exponent =>
    (onGrid? tie code exponent).getD (shortestFrom tie code steps (exponent - 1))

/-- A grid too coarse to have a point in the interval of the code. -/
def coarsest (code : Nat) : Int := (((units code).log2 : Int) - 1074) * 3 / 10 + 4

/-- The decimal of fewest digits that is read as the code, and of these the nearest to its size. -/
def shortest (tie : Tie) (code : Nat) : Decimal :=
  shortestFrom tie code (coarsest code + 1074).toNat (coarsest code)

/-- What a grid gives is one of its points and is read as the code. -/
theorem onGrid?_inv {tie : Tie} {code : Nat} {exponent : Int} {d : Decimal}
    (h : onGrid? tie code exponent = some d) : d.exponent = exponent ∧ Reads code d := by
  unfold onGrid? at h
  dsimp only at h
  split at h
  case isTrue hb =>
    split at h
    case isTrue ha =>
      obtain rfl := Option.some.inj h
      split
      · exact ⟨rfl, hb⟩
      · split
        · exact ⟨rfl, ha⟩
        · cases tie
          · exact ⟨rfl, ha⟩
          · dsimp only
            split
            · exact ⟨rfl, hb⟩
            · exact ⟨rfl, ha⟩
    case isFalse => exact Option.some.inj h ▸ ⟨rfl, hb⟩
  case isFalse =>
    split at h
    case isTrue ha => exact Option.some.inj h ▸ ⟨rfl, ha⟩
    case isFalse => exact absurd h (by simp)

theorem reads_of_onGrid? {tie : Tie} {code : Nat} {exponent : Int} {d : Decimal}
    (h : onGrid? tie code exponent = some d) : Reads code d := (onGrid?_inv h).2

end MarketQuery.Number
