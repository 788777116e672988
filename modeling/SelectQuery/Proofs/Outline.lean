import SelectQuery.Render

/-!
# Outlines

An outline is a statement with something else in the place of each predicate: its tokens, its text,
or a number and the predicate.

* `Outline.bodies`: what stands in these places, in the order of the text;
* `Outline.numbered`, `Outline.bodies_numbered`, `getElem?_offsets`: each body with the size of
  those before it;
* `Outline.tokens`, `Outline.tokens_eq`: an outline of token runs as a stream, which has the lines
  `Outline.tokenLines`.
-/

namespace SelectQuery

structure JoinOutline (α : Type) where
  kind : JoinKind
  joined : Alias
  condition : Option α

/-- A statement with values of `α` in the places of its predicates. -/
structure Outline (α : Type) where
  distinct : Bool
  top : Option Top
  fields : List Field
  root : Alias
  joins : List (JoinOutline α)
  filter : Option α
  groupBy : List Field
  having : Option α
  orderBy : List OrderItem

variable {α β : Type}

/-! ## The places of the predicates -/

def JoinOutline.map (f : α → β) (j : JoinOutline α) : JoinOutline β :=
  ⟨j.kind, j.joined, j.condition.map f⟩

namespace Outline

def map (f : α → β) (o : Outline α) : Outline β :=
  { o with
    joins := o.joins.map (·.map f)
    filter := o.filter.map f
    having := o.having.map f }

/-- What stands in the places of the predicates, in the order of the text. -/
def bodies (o : Outline α) : List α :=
  o.joins.filterMap JoinOutline.condition ++ o.filter.toList ++ o.having.toList

theorem bodies_map (f : α → β) (o : Outline α) : (o.map f).bodies = o.bodies.map f := by
  have hj : (o.joins.map (·.map f)).filterMap JoinOutline.condition =
      (o.joins.filterMap JoinOutline.condition).map f := by
    rw [List.filterMap_map, List.map_filterMap]
    rfl
  simp only [bodies, map, hj, List.map_append, Option.toList_map]

end Outline

/-! ## Numbering -/

/-- The size of some bodies together. -/
def total (size : α → Nat) : List α → Nat
  | [] => 0
  | a :: as => size a + total size as

theorem total_append (size : α → Nat) (as bs : List α) :
    total size (as ++ bs) = total size as + total size bs := by
  induction as with
  | nil => simp [total]
  | cons a as ih => simp [total, ih, Nat.add_assoc]

theorem length_flatMap_eq_total (f : α → List β) (as : List α) :
    (as.flatMap f).length = total (fun a => (f a).length) as := by
  induction as with
  | nil => rfl
  | cons a as ih => simp [total, ih]

/-- Each element with the size of those before it, from `n` on. -/
def offsets (size : α → Nat) : Nat → List α → List (Nat × α)
  | _, [] => []
  | n, a :: as => (n, a) :: offsets size (n + size a) as

theorem offsets_append (size : α → Nat) (n : Nat) (as bs : List α) :
    offsets size n (as ++ bs) = offsets size n as ++ offsets size (n + total size as) bs := by
  induction as generalizing n with
  | nil => rfl
  | cons a as ih => simp [offsets, ih, total, Nat.add_assoc]

theorem getElem?_offsets (size : α → Nat) (n : Nat) (as : List α) (k : Nat) :
    (offsets size n as)[k]? = as[k]?.map fun a => (n + total size (as.take k), a) := by
  induction as generalizing n k with
  | nil => rfl
  | cons a as ih =>
    cases k with
    | zero => rfl
    | succ k => simp [offsets, ih, total, Nat.add_assoc]

theorem offsets_toList (size : α → Nat) (n : Nat) (a : Option α) :
    offsets size n a.toList = (a.map (n, ·)).toList := by
  cases a <;> rfl

/-- The conditions of joins, each with the size of those before it. -/
def JoinOutline.numbered (size : α → Nat) :
    Nat → List (JoinOutline α) → List (JoinOutline (Nat × α))
  | _, [] => []
  | n, j :: js => j.map (n, ·) :: numbered size (n + total size j.condition.toList) js

theorem JoinOutline.conditions_numbered (size : α → Nat) (n : Nat) (js : List (JoinOutline α)) :
    (numbered size n js).filterMap condition = offsets size n (js.filterMap condition) := by
  induction js generalizing n with
  | nil => rfl
  | cons j js ih =>
    rw [numbered, List.filterMap_cons, List.filterMap_cons, map, ih]
    cases j.condition <;> rfl

namespace Outline

/-- Each body with the size of those before it. -/
def numbered (size : α → Nat) (o : Outline α) : Outline (Nat × α) :=
  let joined := total size (o.joins.filterMap JoinOutline.condition)
  { o with
    joins := JoinOutline.numbered size 0 o.joins
    filter := o.filter.map (joined, ·)
    having := o.having.map (joined + total size o.filter.toList, ·) }

theorem bodies_numbered (size : α → Nat) (o : Outline α) :
    (o.numbered size).bodies = offsets size 0 o.bodies := by
  simp only [bodies, numbered, JoinOutline.conditions_numbered, offsets_append, offsets_toList,
    total_append, Nat.zero_add]

end Outline

/-! ## Token streams -/

/-- Lines one below the other. -/
def below (lines : List (List Token)) : List Token := lines.flatMap (.newline :: ·)

theorem below_cons (line : List Token) (lines : List (List Token)) :
    below (line :: lines) = .newline :: (line ++ below lines) := rfl

@[simp]
theorem below_append (ls ms : List (List Token)) : below (ls ++ ms) = below ls ++ below ms :=
  List.flatMap_append

theorem intercalate_newline (line : List Token) (lines : List (List Token)) :
    [Token.newline].intercalate (line :: lines) = line ++ below lines := by
  induction lines generalizing line with
  | nil => simp [below]
  | cons m ms ih => simp [List.intercalate_cons_cons, ih, below]

/-- A keyword with a body on the next line. -/
def clauseLines (k : Keyword) (body : List Token) : List (List Token) :=
  [[.keyword k], .indent 1 :: body]

theorem below_clauseLines (k : Keyword) (body : List Token) :
    below (clauseLines k body) = clauseHead k ++ body := by
  simp [below, clauseLines, clauseHead]

/-- The body of a clause that is left out if its list is empty. -/
def listBody (runs : List (List Token)) : Option (List Token) :=
  if runs.isEmpty then none else some (separated runs)

/-- A clause that may be left out. -/
def optionLines (k : Keyword) (body : Option (List Token)) : List (List Token) :=
  body.toList.flatMap (clauseLines k)

theorem below_optionLines_listBody (k : Keyword) (runs : List (List Token)) :
    below (optionLines k (listBody runs)) = Statement.listTokens k runs := by
  unfold optionLines listBody Statement.listTokens
  split
  · rfl
  · simp [below_clauseLines]

namespace JoinOutline

def title (k : JoinKind) : List Token := [.keyword k.keyword, .space, .keyword .join]

def onTokens : Option (List Token) → List Token
  | none => []
  | some ts => [.space, .keyword .«on», .space] ++ ts

def tokenLines (j : JoinOutline (List Token)) : List (List Token) :=
  [title j.kind, .indent 1 :: (j.joined.tokens ++ onTokens j.condition)]

end JoinOutline

namespace Outline

/-- The line below SELECT, without its indentation. -/
def selectTokens (o : Outline α) : List Token :=
  (if o.distinct then [.keyword .distinct, .space] else []) ++ (o.top.map Top.tokens).getD [] ++
    if o.fields.isEmpty then [.star] else separated (o.fields.map Field.tokens)

/-- The lines of an outline of token runs. -/
def tokenLines (o : Outline (List Token)) : List (List Token) :=
  clauseLines .select o.selectTokens ++ clauseLines .«from» o.root.tokens ++
    o.joins.flatMap JoinOutline.tokenLines ++ optionLines .«where» o.filter ++
    optionLines .groupBy (listBody (o.groupBy.map Field.tokens)) ++ optionLines .having o.having ++
    optionLines .orderBy (listBody (o.orderBy.map OrderItem.tokens))

/-- The stream of an outline of token runs. -/
def tokens (o : Outline (List Token)) : List Token := [Token.newline].intercalate o.tokenLines

end Outline

namespace Outline

/-- The root and what comes before it. -/
def headTokens (o : Outline α) : List Token :=
  [.keyword .select, .newline, .indent 1] ++ o.selectTokens ++ clauseHead .«from» ++ o.root.tokens

theorem tokens_eq (o : Outline (List Token)) :
    o.tokens = o.headTokens ++ below (o.joins.flatMap JoinOutline.tokenLines) ++
      below (optionLines .«where» o.filter) ++
      Statement.listTokens .groupBy (o.groupBy.map Field.tokens) ++
      below (optionLines .having o.having) ++
      Statement.listTokens .orderBy (o.orderBy.map OrderItem.tokens) := by
  have hs : clauseLines .select o.selectTokens =
      [[.keyword .select], .indent 1 :: o.selectTokens] := rfl
  simp only [tokens, tokenLines, hs, List.cons_append, List.nil_append, intercalate_newline,
    below_cons, below_append, below_clauseLines, below_optionLines_listBody, headTokens,
    List.append_assoc]

end Outline

/-! ## The outline of a statement -/

def Join.outline (j : Join) : JoinOutline Predicate := ⟨j.kind, j.joined, j.condition⟩

namespace Statement

def outline (s : Statement) : Outline Predicate where
  distinct := s.distinct
  top := s.top
  fields := s.fields
  root := s.root
  joins := s.joins.map Join.outline
  filter := s.filter
  groupBy := s.groupBy
  having := s.having
  orderBy := s.orderBy

/-- The join conditions in their order, WHERE and HAVING. -/
def predicates (s : Statement) : List Predicate :=
  s.joins.filterMap Join.condition ++ s.filter.toList ++ s.having.toList

theorem conditions_outline (js : List Join) :
    (js.map Join.outline).filterMap JoinOutline.condition = js.filterMap Join.condition := by
  rw [List.filterMap_map]
  rfl

theorem bodies_outline (s : Statement) : s.outline.bodies = s.predicates := by
  simp only [Outline.bodies, outline, conditions_outline, predicates]

/-- Up to the root, an outline shows what the statement shows. -/
theorem headTokens_map_outline (size : Predicate → Nat) (g : Nat × Predicate → β)
    (s : Statement) : ((s.outline.numbered size).map g).headTokens = s.headTokens := by
  simp [Outline.headTokens, Outline.selectTokens, headTokens, outline, Outline.numbered,
    Outline.map]

end Statement

end SelectQuery
