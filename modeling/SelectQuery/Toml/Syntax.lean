import SelectQuery.Toml.Number
import SelectQuery.Toml.Date

/-!
# Syntax of a configuration

A configuration text is a list of lines: headers, and entries of a key path and a value. Values nest
at most `maxDepth` deep. A value between braces is put together with the entries it holds, so this
module also says how an entry is added to a table: `Origin` decides what may be extended.
-/

namespace SelectQuery.Toml

/-! ## Adding entries -/

/-- Replaces the value of a key. -/
def replace (key : String) (v : Value) (es : Entries) : Entries :=
  es.map fun (k, w) => if k = key then (k, v) else (k, w)

/-- What is done to a table. -/
abbrev Change := Origin → Entries → Option Entries

/-- Changes the table at the end of a path, making the tables on the way that are missing. Tables
between braces are closed; dotted keys pass only through tables that no header has defined. -/
def descend (dotted : Bool) (change : Change) : List String → Change
  | [], origin, es => change origin es
  | key :: path, _, es =>
    match es.lookup key with
    | none => do
      let origin := if dotted then .dotted else .implied
      let sub ← descend dotted change path origin []
      return es ++ [(key, .table origin sub)]
    | some (.table origin sub) =>
      if origin = .inline || (dotted && origin = .header) then none
      else do
        let sub ← descend dotted change path origin sub
        return replace key (.table origin sub) es
    | some (.array items true) =>
      match items.getLast? with
      | some (.table origin sub) => do
        let sub ← descend dotted change path origin sub
        return replace key (.array (items.dropLast ++ [.table origin sub]) true) es
      | _ => none
    | some _ => none

/-- Adds an entry under its path. Only a table made by dotted keys takes further dotted keys, and a
key is given once. -/
def addEntry (path : List String) (key : String) (v : Value) : Change :=
  descend (!path.isEmpty) (fun origin es =>
    if (origin = .dotted) == path.isEmpty then none
    else if (es.lookup key).isSome then none
    else some (es ++ [(key, v)])) path

/-! ## Keys -/

def isKeyChar (c : Char) : Bool := c.isAlphanum || c = '_' || c = '-'

/-- A bare key, or one between single quotes or double quotes on one line. -/
def key : List Char → Found (List Char)
  | '"' :: cs => basicLine (cs.length + 1) cs
  | '\'' :: cs => literalLine cs
  | cs =>
    match cs.takeWhile isKeyChar with
    | [] => none
    | k => some (k, cs.dropWhile isKeyChar)

def skipBlanks (cs : List Char) : List Char := cs.dropWhile isBlank

/-- Keys with dots between them: those before the last, and the last. Blanks around them do not
count. -/
def keyPath : Nat → List Char → Found (List String × String)
  | 0, _ => none
  | fuel + 1, cs =>
    match key (skipBlanks cs) with
    | none => none
    | some (k, rest) =>
      match skipBlanks rest with
      | '.' :: rest =>
        (keyPath fuel rest).map fun ((path, last), rest) => ((String.ofList k :: path, last), rest)
      | rest => some (([], String.ofList k), rest)

/-! ## Space between values -/

/-- Skips blanks, line breaks and comments; inside a comment only a line break ends it. -/
def skipLines (inComment : Bool) : List Char → Option (List Char)
  | [] => some []
  | '\n' :: cs => skipLines false cs
  | '\r' :: '\n' :: cs => skipLines false cs
  | c :: cs =>
    if inComment then (if isPlain c then skipLines true cs else none)
    else if isBlank c then skipLines false cs
    else if c = '#' then skipLines true cs
    else some (c :: cs)

/-- Skips the rest of a comment. -/
def skipComment : List Char → Option (List Char)
  | [] => some []
  | '\n' :: cs => some cs
  | '\r' :: '\n' :: cs => some cs
  | c :: cs => if isPlain c then skipComment cs else none

/-- What follows the end of a line: blanks, perhaps a comment, and a line break or the end. -/
def endOfLine (cs : List Char) : Option (List Char) :=
  match skipBlanks cs with
  | [] => some []
  | '#' :: cs => skipComment cs
  | cs => afterBreak? cs

/-! ## Values -/

/-- Whether a character ends a scalar. -/
def endsScalar (c : Char) : Bool :=
  isSpace c || c = ',' || c = ']' || c = '\x7d' || c = '#'

/-- What a bare word means. -/
def scalar? (cs : List Char) : Option Value :=
  if cs = "true".toList then some (.boolean true)
  else if cs = "false".toList then some (.boolean false)
  else if Date.isDate cs then some .date
  else (integer? cs).or (decimal? cs)

/-- A bare word and what follows it. A date takes along a time after one blank. -/
def word (cs : List Char) : List Char × List Char :=
  let w := cs.takeWhile (fun c => !endsScalar c)
  let rest := cs.drop w.length
  match rest with
  | ' ' :: c :: rest' =>
    if c.isDigit && Date.date? w == some [] then
      let t := (c :: rest').takeWhile (fun c => !endsScalar c)
      (w ++ ' ' :: t, (c :: rest').drop t.length)
    else (w, rest)
  | _ => (w, rest)

/-- Items with commas between them, perhaps one after the last, up to a closing character. -/
def items {α : Type} (item : List Char → Found α) (close : Char) : Nat → List Char → Found (List α)
  | 0, _ => none
  | fuel + 1, cs =>
    (skipLines false cs).bind fun cs =>
      if cs.head? = some close then some ([], cs.drop 1)
      else (item cs).bind fun (x, rest) =>
        (skipLines false rest).bind fun rest =>
          match rest with
          | ',' :: rest => (items item close fuel rest).map fun (xs, rest) => (x :: xs, rest)
          | c :: rest => if c = close then some ([x], rest) else none
          | [] => none

/-- A key path, an equality sign and a value. -/
def entry (value : List Char → Found Value) (cs : List Char) :
    Found ((List String × String) × Value) :=
  (keyPath (cs.length + 1) cs).bind fun (path, rest) =>
    match rest with
    | '=' :: rest => (value (skipBlanks rest)).map fun (v, rest) => ((path, v), rest)
    | _ => none

/-- The table of the entries between braces. -/
def inlineTable (es : List ((List String × String) × Value)) : Option Value :=
  (es.foldlM (fun acc ((path, key), v) => addEntry path key v .inline acc) []).map
    (Value.table .inline)

/-- A value with at most `depth` arrays and tables inside one another. -/
def value : Nat → List Char → Found Value
  | depth, cs =>
    match cs with
    | '"' :: _ | '\'' :: _ => (quoted cs).map fun (s, rest) => (.string (String.ofList s), rest)
    | '[' :: rest =>
      match depth with
      | 0 => none
      | depth + 1 =>
        (items (value depth) ']' (rest.length + 1) rest).map fun (vs, rest) =>
          (.array vs false, rest)
    | '\x7b' :: rest =>
      match depth with
      | 0 => none
      | depth + 1 =>
        (items (entry (value depth)) '\x7d' (rest.length + 1) rest).bind fun (es, rest) =>
          (inlineTable es).map (·, rest)
    | _ =>
      let (w, rest) := word cs
      (scalar? w).map (·, rest)

/-- How deep values may nest. -/
def maxDepth : Nat := 80

/-! ## Lines -/

inductive Line where
  /-- A header of a table, or of one more table in an array. -/
  | header (ofArray : Bool) (path : List String) (key : String)
  | entry (path : List String) (key : String) (v : Value)
  deriving Repr

/-- One line, without its end. -/
def line (cs : List Char) : Found Line :=
  match cs with
  | '[' :: '[' :: rest =>
    match keyPath (rest.length + 1) rest with
    | some ((path, key), ']' :: ']' :: rest) => some (.header true path key, rest)
    | _ => none
  | '[' :: rest =>
    match keyPath (rest.length + 1) rest with
    | some ((path, key), ']' :: rest) => some (.header false path key, rest)
    | _ => none
  | cs => (entry (value maxDepth) cs).map fun (((path, key), v), rest) => (.entry path key v, rest)

/-- All lines of a text. -/
def lines : Nat → List Char → Option (List Line)
  | 0, _ => none
  | fuel + 1, cs =>
    (skipLines false cs).bind fun cs =>
      if cs.isEmpty then some []
      else (line cs).bind fun (l, rest) =>
        (endOfLine rest).bind fun rest => (lines fuel rest).map (l :: ·)

end SelectQuery.Toml
