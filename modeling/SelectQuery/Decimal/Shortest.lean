/-!
# Shortest decimal of a rounding interval

A positive binary number `mantissa * 2 ^ exponent` stands for every real that rounds to it. Of the
decimals in that interval the one with the fewest digits is chosen, and of those the one nearest to
the number. All comparisons are exact, on natural numbers: `Interval.covers` scales both sides to a
common grid.
-/

namespace SelectQuery.Decimal

/-- Which of two equally near decimals is taken. -/
inductive Tie where
  | away
  | even
  deriving DecidableEq, Repr

/-- The decimal `digits * 10 ^ exponent`. -/
structure Scaled where
  digits : Nat
  exponent : Int
  deriving DecidableEq, Repr

/-- The reals around `4 * mantissa`, in units of `2 ^ exponent`, from `below` under it to two above
it, with both ends or with neither. -/
structure Interval where
  mantissa : Nat
  exponent : Int
  below : Nat
  closed : Bool
  deriving DecidableEq, Repr

namespace Interval

/-- What one unit of the interval measures on the common grid with `10 ^ k`. -/
def unit (i : Interval) (k : Int) : Nat :=
  Nat.pow 2 i.exponent.toNat * Nat.pow 10 (-k).toNat

/-- What `10 ^ k` measures on the common grid. -/
def grid (i : Interval) (k : Int) : Nat :=
  Nat.pow 10 k.toNat * Nat.pow 2 (-i.exponent).toNat

/-- Whether `d * 10 ^ k` lies in the interval. -/
def covers (i : Interval) (d : Nat) (k : Int) : Bool :=
  let x := d * i.grid k
  let low := (4 * i.mantissa - i.below) * i.unit k
  let high := (4 * i.mantissa + 2) * i.unit k
  if i.closed then low ≤ x && x ≤ high else low < x && x < high

/-- The decimal of exponent `k` in the interval that is nearest to its centre. -/
def nearest? (tie : Tie) (i : Interval) (k : Int) : Option Nat :=
  let centre := 4 * i.mantissa * i.unit k
  let d := centre / i.grid k
  match i.covers d k, i.covers (d + 1) k with
  | false, false => none
  | true, false => some d
  | false, true => some (d + 1)
  | true, true =>
    let down := centre - d * i.grid k
    let up := (d + 1) * i.grid k - centre
    if down < up then some d
    else if up < down then some (d + 1)
    else match tie with
      | .away => some (d + 1)
      | .even => some (if d % 2 = 0 then d else d + 1)

/-- Tries ever smaller exponents, from `k` down. -/
def search (tie : Tie) (i : Interval) : Nat → Int → Option Scaled
  | 0, _ => none
  | fuel + 1, k =>
    match i.nearest? tie k with
    | some d => some ⟨d, k⟩
    | none => search tie i fuel (k - 1)

/-- An exponent of ten that no number of the interval reaches. -/
def top (i : Interval) : Int :=
  ((i.mantissa.log2 : Int) + 4 + i.exponent) * 30103 / 100000 + 2

/-- The shortest decimal of the interval. -/
def shortest (tie : Tie) (i : Interval) : Scaled :=
  (i.search tie 400 i.top).getD ⟨0, 0⟩

end Interval

end SelectQuery.Decimal
