import SelectQuery.Layout
import SelectQuery.Toml.Document

/-!
# Settings

Settings are read from a configuration text. What is not given keeps its default, and keys that
mean nothing here are passed over. The layout may be a table or, in the order of its fields, an
array. `checked_eq_ok_iff` says which settings pass the check of their separator.
-/

namespace SelectQuery

structure Settings where
  render : Layout := {}
  deriving DecidableEq, Repr

inductive SettingsError where
  | fileNotFound (path : String)
  | unreadable
  | malformed
  | invalid (reason : String)
  deriving DecidableEq, Repr

def SettingsError.message : SettingsError → String
  | fileNotFound path => "Config file not found: " ++ path
  | unreadable => "Failed to read config file"
  | malformed => "Failed to parse config file"
  | invalid reason => "Invalid configuration: " ++ reason

namespace Settings

open Toml (Entries)

/-! ## Values that are passed over -/

mutual

/-- Whether all numbers of a value can be represented, which is asked of every value read: an
integer has at most 128 bits, with or without a sign. -/
def isReadable : Toml.Value → Bool
  | .integer n =>
    -0x80000000000000000000000000000000 ≤ n && n < 0x100000000000000000000000000000000
  | .decimal c e => Toml.isFiniteDecimal c e
  | .array items _ => areReadable items
  | .table _ es => entriesReadable es
  | _ => true

def areReadable : List Toml.Value → Bool
  | [] => true
  | v :: vs => isReadable v && areReadable vs

def entriesReadable : List (String × Toml.Value) → Bool
  | [] => true
  | (_, v) :: es => isReadable v && entriesReadable es

end

/-! ## Decoding -/

def decodeText? : Toml.Value → Option String
  | .string s => some s
  | _ => none

/-- A size of 64 bits. -/
def decodeSize? : Toml.Value → Option Nat
  | .integer n => if 0 ≤ n && n < 0x10000000000000000 then some n.toNat else none
  | _ => none

/-- A style by its name, or as the only key of a table, with nothing under it. -/
def decodeStyle? : Toml.Value → Option ParamStyle
  | .string s => ParamStyle.ofName? s
  | .table _ [(s, .table _ [])] => ParamStyle.ofName? s
  | .table _ [(s, .array [] _)] => ParamStyle.ofName? s
  | _ => none

/-- A value that may be missing. -/
def orDefault {α : Type} (default : α) (decode : Toml.Value → Option α) :
    Option Toml.Value → Option α
  | none => some default
  | some v => decode v

/-- A layout from its three values. -/
def decodeFields? (separator width style : Option Toml.Value) : Option Layout := do
  let unset : Layout := {}
  return {
    lineSeparator := ← orDefault unset.lineSeparator decodeText? separator
    indentWidth := ← orDefault unset.indentWidth decodeSize? width
    paramStyle := ← orDefault unset.paramStyle decodeStyle? style }

/-- The keys of a layout. -/
def layoutKeys : List String := ["line_separator", "indent_width", "param_style"]

/-- A layout. A date counts as a table without any of its keys. -/
def decodeLayout? : Toml.Value → Option Layout
  | .table _ es =>
    if entriesReadable (es.filter fun (k, _) => k ∉ layoutKeys) then
      decodeFields? (es.lookup "line_separator") (es.lookup "indent_width")
        (es.lookup "param_style")
    else none
  | .array items _ => decodeFields? items[0]? items[1]? items[2]?
  | .date => some {}
  | _ => none

/-- The settings of a document. -/
def decode? (es : Entries) : Option Settings := do
  if entriesReadable (es.filter fun (k, _) => k ≠ "render") then
    return { render := ← orDefault {} decodeLayout? (es.lookup "render") }
  else none

/-- The settings of a text, not yet checked. -/
def parse? (text : String) : Option Settings :=
  Toml.parse? text >>= decode?

/-! ## Checking -/

/-- Refuses a separator that does not break lines. -/
def checked (s : Settings) : Except SettingsError Settings :=
  match s.render.separatorFault? with
  | some reason => .error (.invalid reason)
  | none => .ok s

/-- Settings from a text, under a given way of reading it. -/
def ofText (parse : String → Option Settings) (text : String) : Except SettingsError Settings :=
  match parse text with
  | none => .error .malformed
  | some s => s.checked

theorem checked_eq_ok_iff {s t : Settings} :
    s.checked = .ok t ↔ s.render.separatorFault? = none ∧ t = s := by
  unfold checked
  cases s.render.separatorFault? <;> simp [eq_comm]

end Settings

end SelectQuery
