import SelectQuery.Decimal.Shortest

/-!
# Decimal notation

How a decimal is written: with all its places up to a given size, or as digits and an exponent.
-/

namespace SelectQuery.Decimal

/-- The choices of a number format. -/
structure Notation where
  /-- Which of two equally near decimals is taken. -/
  tie : Tie
  /-- The exponents of the leading digit at which all places are written; none means all. -/
  positional : Option (Int × Int)
  /-- What follows a whole number that is written with all places. -/
  wholeMark : String
  deriving DecidableEq, Repr

namespace Notation

/-- The exponents at which all places are written. -/
def isPositional (n : Notation) (e : Int) : Bool :=
  match n.positional with
  | none => true
  | some (first, last) => first ≤ e && e ≤ last

/-- Zeros, `n` of them. -/
def zeros (n : Nat) : String :=
  String.ofList (List.replicate n '0')

/-- A decimal with all its places. -/
def writePlaces (n : Notation) (digits : List Char) (exponent : Int) : String :=
  let point := (digits.length : Int) + exponent
  if 0 ≤ exponent then String.ofList digits ++ zeros exponent.toNat ++ n.wholeMark
  else if 0 < point then
    String.ofList (digits.take point.toNat) ++ "." ++ String.ofList (digits.drop point.toNat)
  else "0." ++ zeros (-point).toNat ++ String.ofList digits

/-- A decimal as one digit, its further places and an exponent. -/
def writeScientific (digits : List Char) (leading : Int) : String :=
  String.ofList (digits.take 1) ++
    (if digits.length ≤ 1 then "" else "." ++ String.ofList (digits.drop 1)) ++
    "e" ++ toString leading

/-- A positive decimal. -/
def write (n : Notation) (s : Scaled) : String :=
  let digits := Nat.toDigits 10 s.digits
  let leading := (digits.length : Int) - 1 + s.exponent
  if n.isPositional leading then n.writePlaces digits s.exponent
  else writeScientific digits leading

end Notation

end SelectQuery.Decimal
