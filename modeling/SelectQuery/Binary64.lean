import SelectQuery.Decimal.Notation

/-!
# Binary floating point numbers of 64 bits

A number is its 64 bits: sign, eleven bits of exponent, 52 bits of fraction. Two numbers compare
by value, so a NaN differs from itself and the two zeros are equal; equality of the bits is
equality in the logic. A number has two texts: the one for messages never has an exponent, the
one for statements has one beyond sixteen places.
-/

namespace SelectQuery

/-- A floating point number as its bits. -/
structure Binary64 where
  bits : UInt64
  deriving Repr

namespace Binary64

def isNegative (x : Binary64) : Bool := 0x8000000000000000 ≤ x.bits

/-- The bits without the sign. -/
def magnitude (x : Binary64) : Nat := x.bits.toNat % 0x8000000000000000

def exponentField (x : Binary64) : Nat := x.magnitude >>> 52

def fraction (x : Binary64) : Nat := x.magnitude % 0x10000000000000

def isFinite (x : Binary64) : Bool := x.exponentField < 2047

def isNaN (x : Binary64) : Bool := !x.isFinite && x.fraction != 0

def isZero (x : Binary64) : Bool := x.magnitude = 0

/-- Equality of values. -/
def sameValue (x y : Binary64) : Bool :=
  !x.isNaN && !y.isNaN && (x.bits == y.bits || (x.isZero && y.isZero))

instance : BEq Binary64 := ⟨sameValue⟩

/-- The reals that round to the size of a finite number other than zero. A power of two lies
nearer to the number below it than to the one above. -/
def interval (x : Binary64) : Decimal.Interval :=
  let e := x.exponentField
  let mantissa := if e = 0 then x.fraction else 0x10000000000000 + x.fraction
  { mantissa
    exponent := (max e 1 : Nat) - 1077
    below := if x.fraction = 0 && 1 < e then 1 else 2
    closed := mantissa % 2 = 0 }

/-- A finite number in the given notation. -/
def write (n : Decimal.Notation) (x : Binary64) : String :=
  (if x.isNegative then "-" else "") ++
    (if x.isZero then "0" ++ n.wholeMark else n.write (x.interval.shortest n.tie))

/-- Numbers in messages have all their places, and a tie goes away from zero. -/
def messageNotation : Decimal.Notation :=
  { tie := .away, positional := none, wholeMark := "" }

/-- Numbers in statements have all their places between 10⁻⁵ and 10¹⁶, a whole number then ends
in `.0`, and a tie goes to the even neighbour. -/
def literalNotation : Decimal.Notation :=
  { tie := .even, positional := some (-5, 15), wholeMark := ".0" }

/-- The text of a number in a message. -/
def display (x : Binary64) : String :=
  if x.isNaN then "NaN"
  else if x.isFinite then x.write messageNotation
  else if x.isNegative then "-inf" else "inf"

/-- The text of a number in a statement; infinities and NaN have none. -/
def literal? (x : Binary64) : Option String :=
  if x.isFinite then some (x.write literalNotation) else none

end Binary64

/-- A floating point number of 32 bits. -/
structure Binary32 where
  bits : UInt32
  deriving Repr

/-- The number of 64 bits with the same value. -/
def Binary32.widen (x : Binary32) : Binary64 :=
  let n := x.bits.toNat
  let sign := (n >>> 31) <<< 63
  let e := (n >>> 23) % 256
  let f := n % 0x800000
  let size :=
    if e = 255 then (2047 <<< 52) + (f <<< 29)
    else if e ≠ 0 then ((e + 896) <<< 52) + (f <<< 29)
    else if f = 0 then 0
    else ((f.log2 + 874) <<< 52) + (f <<< (52 - f.log2) - 0x10000000000000)
  ⟨UInt64.ofNat (sign + size)⟩

end SelectQuery
