/-!
# Strings in a configuration

Basic strings have escapes, literal strings have none; both have a form over several lines, between
threefold quotes. Each reader starts after the opening quote and gives the content and what follows
the closing one.
-/

namespace SelectQuery.Toml

/-- What a reader finds: a result and the text after it. -/
abbrev Found (α : Type) := Option (α × List Char)

/-- Characters that may stand for themselves: all but controls, with the tab among them. -/
def isPlain (c : Char) : Bool :=
  c = '\t' || (0x20 ≤ c.toNat && c.toNat ≠ 0x7F)

def isBlank (c : Char) : Bool := c = ' ' || c = '\t'

/-- Puts a character in front of what was found. -/
def Found.cons (c : Char) (f : Found (List Char)) : Found (List Char) :=
  f.map fun (s, rest) => (c :: s, rest)

/-! ## Escapes -/

def hexValue? (c : Char) : Option Nat :=
  if c.isDigit then some (c.toNat - '0'.toNat)
  else if 'a' ≤ c && c ≤ 'f' then some (c.toNat - 'a'.toNat + 10)
  else if 'A' ≤ c && c ≤ 'F' then some (c.toNat - 'A'.toNat + 10)
  else none

/-- The character with a number of the given digits, if there is one. -/
def hexChar? (digits : List Char) : Option Char := do
  let ns ← digits.mapM hexValue?
  let n := ns.foldl (16 * · + ·) 0
  if n.isValidChar then some (Char.ofNat n) else none

/-- The escapes of one character. -/
def shortEscape? : Char → Option Char
  | 'b' => some '\x08'
  | 't' => some '\t'
  | 'n' => some '\n'
  | 'f' => some '\x0c'
  | 'r' => some '\r'
  | 'e' => some '\x1b'
  | '"' => some '"'
  | '\\' => some '\\'
  | _ => none

/-- What follows a backslash. -/
def escape : List Char → Found Char
  | 'x' :: a :: b :: cs => (hexChar? [a, b]).map (·, cs)
  | 'u' :: a :: b :: c :: d :: cs => (hexChar? [a, b, c, d]).map (·, cs)
  | 'U' :: a :: b :: c :: d :: e :: f :: g :: h :: cs =>
    (hexChar? [a, b, c, d, e, f, g, h]).map (·, cs)
  | c :: cs => (shortEscape? c).map (·, cs)
  | [] => none

/-! ## One line -/

/-- A basic string on one line. The fuel bounds the number of characters. -/
def basicLine : Nat → List Char → Found (List Char)
  | 0, _ => none
  | fuel + 1, cs =>
    match cs with
    | [] => none
    | '"' :: rest => some ([], rest)
    | '\\' :: rest => (escape rest).bind fun (c, rest) => (basicLine fuel rest).cons c
    | c :: rest => if isPlain c then (basicLine fuel rest).cons c else none

/-- A literal string on one line. -/
def literalLine : List Char → Found (List Char)
  | [] => none
  | c :: rest =>
    if c = '\'' then some ([], rest)
    else if isPlain c then (literalLine rest).cons c
    else none

/-! ## Several lines -/

/-- The text after a line break at its start. -/
def afterBreak? : List Char → Option (List Char)
  | '\n' :: rest => some rest
  | '\r' :: '\n' :: rest => some rest
  | _ => none

/-- The closing quotes of a string over several lines: three, before which one or two more belong
to the content. -/
def closing? (q : Char) (cs : List Char) : Found (List Char) :=
  let n := (cs.takeWhile (· = q)).length
  if n < 3 then none
  else some (List.replicate (min n 5 - 3) q, cs.drop (min n 5))

/-- Whether a character is blank or breaks a line. -/
def isSpace (c : Char) : Bool := isBlank c || c = '\n' || c = '\r'

/-- Skips blanks and line breaks; a carriage return alone is no line break. -/
def skipSpace : List Char → List Char
  | '\r' :: '\n' :: rest => skipSpace rest
  | c :: rest => if isBlank c || c = '\n' then skipSpace rest else c :: rest
  | [] => []

/-- A basic string over several lines. A backslash before a line break joins the lines. -/
def basicLines : Nat → List Char → Found (List Char)
  | 0, _ => none
  | fuel + 1, cs =>
    match closing? '"' cs with
    | some found => some found
    | none =>
      match cs with
      | [] => none
      | '\\' :: rest =>
        match afterBreak? (rest.dropWhile isBlank) with
        | some next => basicLines fuel (skipSpace next)
        | none => (escape rest).bind fun (c, rest) => (basicLines fuel rest).cons c
      | '\n' :: rest => (basicLines fuel rest).cons '\n'
      | '\r' :: '\n' :: rest => ((basicLines fuel rest).cons '\n').cons '\r'
      | c :: rest => if isPlain c then (basicLines fuel rest).cons c else none

/-- A literal string over several lines. -/
def literalLines : Nat → List Char → Found (List Char)
  | 0, _ => none
  | fuel + 1, cs =>
    match closing? '\'' cs with
    | some found => some found
    | none =>
      match cs with
      | [] => none
      | '\n' :: rest => (literalLines fuel rest).cons '\n'
      | '\r' :: '\n' :: rest => ((literalLines fuel rest).cons '\n').cons '\r'
      | c :: rest => if isPlain c then (literalLines fuel rest).cons c else none

/-- A string that opens with a quote, over several lines if the quote is threefold. A line break
right after a threefold quote is not content. -/
def quoted : List Char → Found (List Char)
  | '"' :: '"' :: '"' :: cs => basicLines (cs.length + 1) ((afterBreak? cs).getD cs)
  | '\'' :: '\'' :: '\'' :: cs => literalLines (cs.length + 1) ((afterBreak? cs).getD cs)
  | '"' :: cs => basicLine (cs.length + 1) cs
  | '\'' :: cs => literalLine cs
  | _ => none

end SelectQuery.Toml
