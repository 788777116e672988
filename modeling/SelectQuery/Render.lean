import SelectQuery.Statement.Scope
import SelectQuery.Token

/-!
# Rendering

A statement becomes tokens and the parameters bound on the way. Rendering a part starts from the
number of values bound before it, so a whole is its parts one after the other: `Predicate.fragment`
for a predicate, `Statement.fragment` for a statement. The text is made of the tokens at the end.
-/

namespace SelectQuery

/-- A bound value and the index of its placeholder. -/
structure Parameter where
  index : Nat
  value : Value
  deriving Repr, BEq

/-- Tokens, with the parameters that their placeholders bind, in order. -/
structure Fragment where
  tokens : List Token := []
  parameters : List Parameter := []
  deriving Repr

namespace Fragment

/-- The values that are bound. -/
def values (f : Fragment) : List Value := f.parameters.map Parameter.value

/-- Tokens that bind nothing, put in front. -/
def after (f : Fragment) (ts : List Token) : Fragment :=
  { f with tokens := ts ++ f.tokens }

def append (f g : Fragment) : Fragment :=
  ⟨f.tokens ++ g.tokens, f.parameters ++ g.parameters⟩

instance : Append Fragment := ⟨append⟩

@[simp]
theorem tokens_after (f : Fragment) (ts : List Token) : (f.after ts).tokens = ts ++ f.tokens := rfl

@[simp]
theorem parameters_after (f : Fragment) (ts : List Token) :
    (f.after ts).parameters = f.parameters := rfl

@[simp]
theorem values_after (f : Fragment) (ts : List Token) : (f.after ts).values = f.values := rfl

@[simp]
theorem tokens_append (f g : Fragment) : (f ++ g).tokens = f.tokens ++ g.tokens := rfl

@[simp]
theorem parameters_append (f g : Fragment) :
    (f ++ g).parameters = f.parameters ++ g.parameters := rfl

@[simp]
theorem values_append (f g : Fragment) : (f ++ g).values = f.values ++ g.values :=
  List.map_append

end Fragment

/-! ## Fields -/

/-- `alias.column`, or the same inside an aggregate. -/
def Field.tokens (f : Field) : List Token :=
  let column := [.ident f.qualifier.value, .dot, .ident f.column]
  match f.aggregate with
  | some a => [.function a.keyword, .lparen] ++ column ++ [.rparen]
  | none => column

/-- Token runs with commas between them. -/
def separated (runs : List (List Token)) : List Token :=
  [Token.comma, .space].intercalate runs

/-! ## Predicates -/

def Logic.keyword : Logic → Keyword
  | and => .and
  | or => .or

namespace Term

/-- A literal that has no form inside a statement. -/
def unwritable (t : Term) (v : Value) : SelectError :=
  .invalidFilter t.template ("value " ++ v.display ++ " has no SQL literal form")

/-- Renders parts of a term. The indices of the slots bound so far come along, so that a slot used
again refers to the value it is bound to, unless placeholders are positional. A slot without an
argument, which no checked term has, stands for nothing. -/
def partsFragment (style : ParamStyle) (t : Term) :
    List (Nat × Nat) → Nat → List Template.Part → Except SelectError Fragment
  | _, _, [] => .ok {}
  | bound, next, .text s :: ps => do
    let rest ← t.partsFragment style bound next ps
    return rest.after [.raw s]
  | bound, next, .slot n :: ps =>
    match t.arguments[n]? with
    | none => t.partsFragment style bound next ps
    | some (.field f) => do
      let rest ← t.partsFragment style bound next ps
      return rest.after f.tokens
    | some (.literal v) =>
      if style.isInline then
        match v.literal? with
        | none => .error (t.unwritable v)
        | some s => do
          let rest ← t.partsFragment style bound next ps
          return rest.after [.literal s]
      else match (if style.isPositional then none else bound.lookup n) with
        | some i => do
          let rest ← t.partsFragment style bound next ps
          return rest.after [.placeholder i]
        | none => do
          let rest ← t.partsFragment style ((n, next) :: bound) (next + 1) ps
          return ⟨[.placeholder next], [⟨next, v⟩]⟩ ++ rest

def fragment (style : ParamStyle) (next : Nat) (t : Term) : Except SelectError Fragment :=
  t.partsFragment style [] next t.parts

end Term

namespace Predicate

/-- The tokens of an operand; one that is combined itself stands in parentheses. -/
def operand (p : Predicate) (ts : List Token) : List Token :=
  if p.isCombined then [.lparen] ++ ts ++ [.rparen] else ts

/-- Renders a predicate after `next` values. -/
def fragment (style : ParamStyle) : Nat → Predicate → Except SelectError Fragment
  | next, term t => t.fragment style next
  | next, combine logic p q => do
    let l ← p.fragment style next
    let r ← q.fragment style (next + l.parameters.length)
    return {
      tokens := p.operand l.tokens ++ [.space, .keyword logic.keyword, .space] ++
        q.operand r.tokens
      parameters := l.parameters ++ r.parameters }

end Predicate

/-! ## Clauses -/

/-- The start of a clause whose body stands on a line of its own. -/
def clauseHead (k : Keyword) : List Token :=
  [.newline, .keyword k, .newline, .indent 1]

/-- A table under an alias. -/
def Alias.tokens (a : Alias) : List Token :=
  [.ident a.entity.table, .space, .ident a.value]

def Top.tokens (t : Top) : List Token :=
  [.keyword .top, .space, .count t.count, .space] ++
    if t.percent then [.keyword .percent, .space] else []

def OrderItem.tokens (i : OrderItem) : List Token :=
  i.field.tokens ++
    match i.direction with
    | some .asc => [.space, .keyword .asc]
    | some .desc => [.space, .keyword .desc]
    | none => []

def JoinKind.keyword : JoinKind → Keyword
  | inner => .inner
  | left => .left
  | right => .right
  | full => .full
  | cross => .cross

/-- Renders a join after `next` values. -/
def Join.fragment (style : ParamStyle) (next : Nat) (j : Join) : Except SelectError Fragment :=
  let head := [.newline, .keyword j.kind.keyword, .space, .keyword .join, .newline, .indent 1] ++
    j.joined.tokens
  match j.condition with
  | none => .ok ⟨head, []⟩
  | some p => do
    let body ← p.fragment style next
    return body.after (head ++ [.space, .keyword .«on», .space])

namespace Statement

/-- Renders joins one after the other. -/
def joinsFragment (style : ParamStyle) : Nat → List Join → Except SelectError Fragment
  | _, [] => .ok {}
  | next, j :: js => do
    let f ← j.fragment style next
    let rest ← joinsFragment style (next + f.parameters.length) js
    return f ++ rest

/-- Renders a predicate as a clause, if there is one. -/
def predicateFragment (style : ParamStyle) (k : Keyword) (next : Nat) :
    Option Predicate → Except SelectError Fragment
  | none => .ok {}
  | some p => do
    let body ← p.fragment style next
    return body.after (clauseHead k)

/-- A list as a clause, unless it is empty. -/
def listTokens (k : Keyword) (runs : List (List Token)) : List Token :=
  if runs.isEmpty then [] else clauseHead k ++ separated runs

/-- Everything up to the root alias. -/
def headTokens (s : Statement) : List Token :=
  [.keyword .select, .newline, .indent 1] ++
    (if s.distinct then [.keyword .distinct, .space] else []) ++
    (s.top.map Top.tokens).getD [] ++
    (if s.fields.isEmpty then [.star] else separated (s.fields.map Field.tokens)) ++
    clauseHead .«from» ++ s.root.tokens

/-- Renders a statement, its predicates in the order of the text. -/
def fragment (style : ParamStyle) (s : Statement) : Except SelectError Fragment := do
  let joins ← joinsFragment style 0 s.joins
  let filter ← predicateFragment style .«where» joins.parameters.length s.filter
  let having ← predicateFragment style .having (joins.parameters.length + filter.parameters.length)
    s.having
  return {
    tokens := s.headTokens ++ joins.tokens ++ filter.tokens ++
      listTokens .groupBy (s.groupBy.map Field.tokens) ++ having.tokens ++
      listTokens .orderBy (s.orderBy.map OrderItem.tokens)
    parameters := joins.parameters ++ filter.parameters ++ having.parameters }

end Statement

/-! ## Command text -/

/-- The text of a statement with its parameters, in the order of their indices. -/
structure Rendered where
  commandText : String
  parameters : List Parameter
  deriving Repr, BEq

def Fragment.rendered (f : Fragment) (l : Layout) : Rendered :=
  ⟨Token.textOf l f.tokens, f.parameters⟩

/-- A predicate by itself. -/
def Predicate.render (p : Predicate) (l : Layout) : Except SelectError Rendered :=
  (p.fragment l.paramStyle 0).map (·.rendered l)

/-- A statement. Faults of scope are reported before any other. -/
def Statement.render (s : Statement) (l : Layout) : Except SelectError Rendered := do
  s.validate
  let f ← s.fragment l.paramStyle
  return f.rendered l

end SelectQuery
