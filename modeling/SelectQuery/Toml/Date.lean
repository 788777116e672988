/-!
# Dates and times in a configuration

A date, a time, or both, the latter perhaps with an offset. Seconds may be left out.
-/

namespace SelectQuery.Toml.Date

/-- The number of two digits. -/
def pair? : List Char → Option (Nat × List Char)
  | a :: b :: cs =>
    if a.isDigit && b.isDigit then some (Nat.ofDigitChars 10 [a, b] 0, cs) else none
  | _ => none

/-- What follows a given character. -/
def expect? (c : Char) : List Char → Option (List Char)
  | d :: cs => if c = d then some cs else none
  | [] => none

def isLeap (year : Nat) : Bool :=
  year % 4 = 0 && (year % 100 ≠ 0 || year % 400 = 0)

def daysIn (year month : Nat) : Nat :=
  if month = 2 then (if isLeap year then 29 else 28)
  else if month = 4 || month = 6 || month = 9 || month = 11 then 30
  else 31

/-- A day of the calendar. -/
def date? (cs : List Char) : Option (List Char) := do
  let (century, cs) ← pair? cs
  let (rest, cs) ← pair? cs
  let (month, cs) ← pair? (← expect? '-' cs)
  let (day, cs) ← pair? (← expect? '-' cs)
  if 1 ≤ month && month ≤ 12 && 1 ≤ day && day ≤ daysIn (100 * century + rest) month then some cs
  else none

/-- A fraction of a second, if there is one. -/
def fraction? : List Char → Option (List Char)
  | '.' :: c :: cs => if c.isDigit then some (cs.dropWhile Char.isDigit) else none
  | '.' :: [] => none
  | cs => some cs

/-- A time of the day; a second may be a leap second. -/
def time? (cs : List Char) : Option (List Char) := do
  let (hour, cs) ← pair? cs
  let (minute, cs) ← pair? (← expect? ':' cs)
  if 23 < hour || 59 < minute then none
  else match cs with
    | ':' :: cs => do
      let (second, cs) ← pair? cs
      if 60 < second then none else fraction? cs
    | cs => some cs

/-- An offset of at most a day, if there is one. -/
def offset? : List Char → Option (List Char)
  | [] => some []
  | c :: cs =>
    if c = 'Z' || c = 'z' then some cs
    else if c = '+' || c = '-' then do
      let (hours, cs) ← pair? cs
      let (minutes, cs) ← pair? (← expect? ':' cs)
      if hours * 60 + minutes ≤ 24 * 60 then some cs else none
    else none

def isSeparator (c : Char) : Bool := c = 'T' || c = 't' || c = ' '

/-- Whether a text is a date, a time or both. -/
def isDate (cs : List Char) : Bool :=
  match date? cs with
  | some [] => true
  | some (c :: rest) => isSeparator c && (time? rest >>= offset?) == some []
  | none => time? cs == some []

end SelectQuery.Toml.Date
