/-!
# Shortest decimals

The shortest decimal that stands for a binary number is the one on the coarsest decimal grid that
still rounds to that number.

* `Cell` — a number with the interval of reals that round to it;
* `Cell.onGrid?` — the multiple of a power of ten in the interval that lies nearest to the number;
* `Cell.shortest` — the first hit when the grid is refined step by step;
* `positional` — digits and a power of ten written out with a decimal point and no exponent.
-/

namespace RelayDevice

namespace Decimal

/-- A number and the reals that round to it, over one denominator. -/
structure Cell where
  /-- The lower end of the interval. -/
  low : Nat
  /-- The number itself. -/
  centre : Nat
  /-- The upper end of the interval. -/
  high : Nat
  /-- What the other three are divided by. -/
  unit : Nat
  /-- Whether the ends belong to the interval. -/
  closed : Bool
deriving DecidableEq, Repr

namespace Cell

/-- The interval around `m * 2 ^ q`: half a step to both sides, but only a quarter downwards where
the steps below are half as wide. The ends round to an even `m`. -/
def ofBinary (m : Nat) (q : Int) (narrowBelow : Bool) : Cell :=
  let scale := Nat.pow 2 (q - 2).toNat
  { low := (4 * m - if narrowBelow then 1 else 2) * scale
    centre := 4 * m * scale
    high := (4 * m + 2) * scale
    unit := Nat.pow 2 (2 - q).toNat
    closed := m % 2 == 0 }

/-- Whether `n` units of the grid lie in the interval, where `step` is one unit of the grid and
`fine` scales the interval to it. -/
def holds (c : Cell) (step fine n : Nat) : Bool :=
  let x := n * step
  if c.closed then c.low * fine ≤ x && x ≤ c.high * fine
  else c.low * fine < x && x < c.high * fine

/-- The positive multiple of `10 ^ k` in the interval nearest to the number, counted in that power;
of two equally near ones the greater. -/
def onGrid? (c : Cell) (k : Int) : Option Nat :=
  let step := c.unit * Nat.pow 10 k.toNat
  let fine := Nat.pow 10 (-k).toNat
  let below := c.centre * fine / step
  let above := below + 1
  let belowFits := 0 < below && c.holds step fine below
  let aboveFits := c.holds step fine above
  let aboveNearer := (below * 2 + 1) * step ≤ 2 * c.centre * fine
  if aboveFits && (aboveNearer || !belowFits) then some above
  else if belowFits then some below
  else none

/-- The first hit on the grids `10 ^ k`, `10 ^ (k - 1)` and so on for `n` grids. -/
def search (c : Cell) : Nat → Int → Option (Nat × Int)
  | 0, _ => none
  | n + 1, k =>
    match c.onGrid? k with
    | some d => some (d, k)
    | none => c.search n (k - 1)

end Cell

/-- Digits times a power of ten, written out. -/
def positional (digits : Nat) (exponent : Int) : String :=
  let word := toString digits
  if 0 ≤ exponent then word ++ String.ofList (List.replicate exponent.toNat '0')
  else
    let places := (-exponent).toNat
    let whole := String.ofList (List.replicate (places + 1 - word.length) '0') ++ word
    let cut := whole.length - places
    String.ofList (whole.toList.take cut) ++ "." ++ String.ofList (whole.toList.drop cut)

end Decimal

/-- A binary floating-point number of 32 bits, told apart by its bits, so that every number that is
none keeps its payload. -/
structure Binary32 where
  /-- Sign, eight exponent bits and twenty-three fraction bits. -/
  bits : UInt32
deriving DecidableEq, Repr

namespace Binary32

/-- The biased exponent. -/
def exponent (x : Binary32) : Nat := x.bits.toNat / 8388608 % 256

/-- The fraction. -/
def fraction (x : Binary32) : Nat := x.bits.toNat % 8388608

/-- Whether the sign bit is set. -/
def isNegative (x : Binary32) : Bool := 2147483648 ≤ x.bits.toNat

/-- The interval of a finite number that is not zero. -/
def cell (x : Binary32) : Decimal.Cell :=
  if x.exponent = 0 then .ofBinary x.fraction (-149) false
  else .ofBinary (8388608 + x.fraction) ((x.exponent : Int) - 150)
    (x.fraction == 0 && 1 < x.exponent)

/-- The number without its sign, in the fewest digits and without an exponent. -/
def magnitude (x : Binary32) : String :=
  if x.exponent = 0 ∧ x.fraction = 0 then "0"
  else
    match x.cell.search 90 39 with
    | some (digits, k) => Decimal.positional digits k
    | none => "0"

/-- The number in the fewest digits that read back as it. -/
def text (x : Binary32) : String :=
  let sign := if x.isNegative then "-" else ""
  if x.exponent = 255 then
    if x.fraction = 0 then sign ++ "inf" else "NaN"
  else sign ++ x.magnitude

end Binary32

end RelayDevice
