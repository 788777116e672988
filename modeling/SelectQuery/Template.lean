/-!
# Term templates

A template is text with numbered slots: `{n}` is a slot, `{{` and `}}` stand for single braces, and
no other brace may occur. Reading goes in two steps: into pieces, each a character or a slot, which
reports the leftmost fault, and from pieces into parts, which gathers neighbouring characters.
`gathered_ofPieces` says that what is read has no empty text and no two texts side by side.
-/

namespace SelectQuery.Template

/-- A stretch of text, or a slot. -/
inductive Part where
  | text (s : String)
  | slot (n : Nat)
  deriving DecidableEq, Repr

namespace Part

def slot? : Part → Option Nat
  | slot n => some n
  | text _ => none

def isText : Part → Bool
  | text _ => true
  | slot _ => false

end Part

/-- The slots of a template, in order. -/
def slots (parts : List Part) : List Nat :=
  parts.filterMap Part.slot?

/-! ## Reading -/

/-- A character that stands for itself, or a slot. -/
inductive Piece where
  | char (c : Char)
  | slot (n : Nat)
  deriving DecidableEq, Repr

/-- What is wrong with a template. -/
inductive Fault where
  | unclosedSlot
  | emptySlot
  | slotTooLarge (digits : String)
  | unmatchedBrace
  deriving DecidableEq, Repr

namespace Fault

def reason : Fault → String
  | unclosedSlot => "slot must be a number closed by '\x7d'"
  | emptySlot => "empty slot '\x7b\x7d'"
  | slotTooLarge digits => "slot \x7b" ++ digits ++ "\x7d is out of range"
  | unmatchedBrace => "unmatched '\x7d'"

end Fault

/-- Slot numbers have at most 64 bits. -/
def slotLimit : Nat := 0x10000000000000000

/-- The slot between two braces, from its digits. -/
def slotOf (digits : List Char) : Except Fault Piece :=
  if digits = [] then .error .emptySlot
  else if Nat.ofDigitChars 10 digits 0 < slotLimit then
    .ok (.slot (Nat.ofDigitChars 10 digits 0))
  else .error (.slotTooLarge (String.ofList digits))

/-- The pieces of a text. Inside a slot, the digits read so far come along. -/
def pieces : Option (List Char) → List Char → Except Fault (List Piece)
  | none, [] => .ok []
  | none, '{' :: '{' :: cs => (pieces none cs).map (.char '{' :: ·)
  | none, '}' :: '}' :: cs => (pieces none cs).map (.char '}' :: ·)
  | none, '{' :: cs => pieces (some []) cs
  | none, '}' :: _ => .error .unmatchedBrace
  | none, c :: cs => (pieces none cs).map (.char c :: ·)
  | some _, [] => .error .unclosedSlot
  | some digits, '}' :: cs =>
    match slotOf digits with
    | .error fault => .error fault
    | .ok p => (pieces none cs).map (p :: ·)
  | some digits, c :: cs =>
    if c.isDigit then pieces (some (digits ++ [c])) cs else .error .unclosedSlot

/-- Puts a part in front, joining two texts. -/
def Part.onto : Part → List Part → List Part
  | .text s, .text t :: ps => .text (s ++ t) :: ps
  | p, ps => p :: ps

/-- Gathers neighbouring characters. -/
def ofPieces : List Piece → List Part
  | [] => []
  | .char c :: ps => (Part.text (String.singleton c)).onto (ofPieces ps)
  | .slot n :: ps => .slot n :: ofPieces ps

/-- Reads a template. -/
def parse (template : String) : Except Fault (List Part) :=
  (pieces none template.toList).map ofPieces

/-! ## Writing -/

/-- A character that stands for itself. -/
def writeChar (c : Char) : List Char :=
  if c = '{' || c = '}' then [c, c] else [c]

def writePart : Part → List Char
  | .text s => s.toList.flatMap writeChar
  | .slot n => '{' :: Nat.toDigits 10 n ++ ['}']

/-- Writes a template. -/
def write (parts : List Part) : String :=
  String.ofList (parts.flatMap writePart)

/-! ## Gathered parts -/

/-- No text is empty and no two texts stand side by side. -/
def Gathered : List Part → Prop
  | [] => True
  | .slot _ :: ps => Gathered ps
  | .text s :: ps => s ≠ "" ∧ (ps.head?.map Part.isText ≠ some true) ∧ Gathered ps

theorem gathered_onto {s : String} {ps : List Part} (hs : s ≠ "") (h : Gathered ps) :
    Gathered ((Part.text s).onto ps) := by
  cases ps with
  | nil => simp [Part.onto, Gathered, hs]
  | cons p ps =>
    cases p with
    | slot n => simpa [Part.onto, Gathered, hs, Part.isText] using h
    | text t =>
      obtain ⟨_, hp, hg⟩ := h
      refine ⟨?_, hp, hg⟩
      simp [hs]

theorem gathered_ofPieces (ps : List Piece) : Gathered (ofPieces ps) := by
  induction ps with
  | nil => trivial
  | cons p ps ih =>
    cases p with
    | slot n => exact ih
    | char c => exact gathered_onto (by simp) ih

end SelectQuery.Template
