import SelectQuery.Toml.Text
import SelectQuery.Toml.Value

/-!
# Numbers in a configuration

Integers in four bases and decimals. Underscores may stand between two digits, and a decimal number
has no leading zero.
-/

namespace SelectQuery.Toml

/-- Digits, with single underscores between them, without the underscores. -/
def digits (isDigit : Char → Bool) : List Char → Option (List Char)
  | [] => none
  | [c] => if isDigit c then some [c] else none
  | c :: '_' :: cs => if isDigit c then (digits isDigit cs).map (c :: ·) else none
  | c :: cs => if isDigit c then (digits isDigit cs).map (c :: ·) else none

/-- Decimal digits without a leading zero. -/
def wholeDigits (cs : List Char) : Option (List Char) := do
  let ds ← digits Char.isDigit cs
  if ds.length = 1 || ds.head? ≠ some '0' then some ds else none

/-- A sign and what follows it. -/
def signed : List Char → Int × List Char
  | '+' :: cs => (1, cs)
  | '-' :: cs => (-1, cs)
  | cs => (1, cs)

/-- An integer in base 16, 8 or 2. -/
def based (base : Nat) (cs : List Char) : Option Value := do
  let ds ← digits (fun c => (hexValue? c).any (· < base)) cs
  let ns ← ds.mapM hexValue?
  return .integer (ns.foldl (base * · + ·) (0 : Nat) : Nat)

def integer? (cs : List Char) : Option Value :=
  match cs with
  | '0' :: 'x' :: ds => based 16 ds
  | '0' :: 'o' :: ds => based 8 ds
  | '0' :: 'b' :: ds => based 2 ds
  | cs => do
    let (sign, ds) := signed cs
    let ds ← wholeDigits ds
    return .integer (sign * Nat.ofDigitChars 10 ds 0)

def isExponentMark (c : Char) : Bool := c = 'e' || c = 'E'

/-- What follows the first character of a kind, if there is one. -/
def after? (p : Char → Bool) (cs : List Char) : Option (List Char) :=
  match cs.dropWhile (fun c => !p c) with
  | [] => none
  | _ :: rest => some rest

/-- A decimal: a whole part, and a fraction or an exponent or both. -/
def decimal? (cs : List Char) : Option Value := do
  let (sign, body) := signed cs
  if body = ['i', 'n', 'f'] || body = ['n', 'a', 'n'] then return .notFinite
  let mantissa := body.takeWhile (fun c => !isExponentMark c)
  let exponent ← match after? isExponentMark body with
    | none => some 0
    | some cs => do
      let (s, ds) := signed cs
      let ds ← digits Char.isDigit ds
      some (s * (Nat.ofDigitChars 10 ds 0 : Int))
  let whole ← wholeDigits (mantissa.takeWhile (· ≠ '.'))
  let fraction ← match after? (· = '.') mantissa with
    | none => some []
    | some cs => digits Char.isDigit cs
  if mantissa = body && fraction = [] then none
  else
    return .decimal (sign * Nat.ofDigitChars 10 (whole ++ fraction) 0)
      (exponent - fraction.length)

/-- Whether a decimal rounds to a finite number of 64 bits. -/
def isFiniteDecimal (coefficient exponent : Int) : Bool :=
  let size := coefficient.natAbs
  let places := (Nat.toDigits 10 size).length + exponent
  if size = 0 || places < 300 then true
  else if 320 < places then false
  else
    let bound := Nat.pow 2 1024 - Nat.pow 2 970
    if 0 ≤ exponent then size * Nat.pow 10 exponent.toNat < bound
    else size < bound * Nat.pow 10 (-exponent).toNat

end SelectQuery.Toml
