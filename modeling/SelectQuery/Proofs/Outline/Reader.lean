import SelectQuery.Proofs.Outline

/-!
# Reading outlines back

The tokens of an outline can be read back line by line. Lines come in pairs, a title and the run
below it, so a clause is found by its title wherever it stands.

* `Contents`: what the tokens of an outline show;
* `Block.read`, `Outline.lookup_blocks`: the pairs of lines, and the clauses among them;
* `readList`, `readSelect`, `ShownJoin.read`: what stands in a line;
* `Contents.read`, `Outline.read_tokens`: an outline of runs without line breaks is read back.
-/

namespace SelectQuery

/-! ## What tokens show -/

structure ShownField where
  aggregate : Option Aggregate
  qualifier : String
  column : String
  deriving DecidableEq, Repr

structure ShownItem where
  field : ShownField
  direction : Option SortDirection
  deriving DecidableEq, Repr

structure ShownJoin (α : Type) where
  kind : JoinKind
  table : String
  qualifier : String
  condition : Option α
  deriving DecidableEq, Repr

/-- What the tokens of a statement show, with values of `α` in the places of its predicates. -/
structure Contents (α : Type) where
  distinct : Bool
  top : Option Top
  fields : List ShownField
  table : String
  qualifier : String
  joins : List (ShownJoin α)
  filter : Option α
  groupBy : List ShownField
  having : Option α
  orderBy : List ShownItem
  deriving DecidableEq, Repr

def Field.shown (f : Field) : ShownField := ⟨f.aggregate, f.qualifier.value, f.column⟩

def OrderItem.shown (i : OrderItem) : ShownItem := ⟨i.field.shown, i.direction⟩

def JoinOutline.shown {α : Type} (j : JoinOutline α) : ShownJoin α :=
  ⟨j.kind, j.joined.entity.table, j.joined.value, j.condition⟩

def Outline.contents {α : Type} (o : Outline α) : Contents α where
  distinct := o.distinct
  top := o.top
  fields := o.fields.map Field.shown
  table := o.root.entity.table
  qualifier := o.root.value
  joins := o.joins.map JoinOutline.shown
  filter := o.filter
  groupBy := o.groupBy.map Field.shown
  having := o.having
  orderBy := o.orderBy.map OrderItem.shown

/-! ## Blocks of lines -/

/-- A title and the run below it. -/
abbrev Block := List Token × List Token

namespace Block

def tokenLines (b : Block) : List (List Token) := [b.1, .indent 1 :: b.2]

/-- Reads lines in pairs. -/
def read : List (List Token) → List Block
  | title :: (_ :: body) :: lines => (title, body) :: read lines
  | _ => []

theorem read_tokenLines (bs : List Block) : read (bs.flatMap tokenLines) = bs := by
  induction bs with
  | nil => rfl
  | cons b bs ih => simpa [tokenLines, read] using ih

/-- A clause that may be left out. -/
def optional (k : Keyword) (body : Option (List Token)) : List Block :=
  body.toList.map ([.keyword k], ·)

theorem tokenLines_optional (k : Keyword) (body : Option (List Token)) :
    (optional k body).flatMap tokenLines = optionLines k body := by
  cases body <;> rfl

theorem lookup_optional (k : Keyword) (body : Option (List Token)) :
    (optional k body).lookup [.keyword k] = body := by
  cases body <;> simp [optional]

theorem lookup_optional_of_ne {k k' : Keyword} (h : k' ≠ k) (body : Option (List Token)) :
    (optional k body).lookup [.keyword k'] = none := by
  cases body <;> simp [optional, h]

def join (j : JoinOutline (List Token)) : Block :=
  (JoinOutline.title j.kind, j.joined.tokens ++ JoinOutline.onTokens j.condition)

theorem lookup_joins (k : Keyword) (js : List (JoinOutline (List Token))) :
    (js.map join).lookup [.keyword k] = none := by
  simp [join, JoinOutline.title]

end Block

namespace Outline

def blocks (o : Outline (List Token)) : List Block :=
  Block.optional .select o.selectTokens ++ Block.optional .«from» o.root.tokens ++
    o.joins.map Block.join ++ Block.optional .«where» o.filter ++
    Block.optional .groupBy (listBody (o.groupBy.map Field.tokens)) ++
    Block.optional .having o.having ++
    Block.optional .orderBy (listBody (o.orderBy.map OrderItem.tokens))

theorem tokenLines_blocks (o : Outline (List Token)) :
    o.blocks.flatMap Block.tokenLines = o.tokenLines := by
  have hj : (o.joins.map Block.join).flatMap Block.tokenLines =
      o.joins.flatMap JoinOutline.tokenLines := by
    rw [List.flatMap_map]
    rfl
  simp only [blocks, List.flatMap_append, hj, Block.tokenLines_optional]
  rfl

end Outline

/-! ## Lists -/

/-- Reads items with commas between them. -/
def readList {α : Type} (read : List Token → Option α) (body : List Token) : List α :=
  ((Token.space :: body).splitOn .comma).filterMap fun chunk => read chunk.tail

theorem space_cons_separated {runs : List (List Token)} (h : runs ≠ []) :
    .space :: separated runs = [Token.comma].intercalate (runs.map (.space :: ·)) := by
  induction runs with
  | nil => exact absurd rfl h
  | cons r runs ih =>
    cases runs with
    | nil => simp [separated]
    | cons s runs =>
      have hs := ih (by simp)
      simp only [separated, List.map_cons, List.intercalate_cons_cons] at hs ⊢
      simp [← hs]

theorem readList_separated {α β : Type} {read : List Token → Option α} {tokens : β → List Token}
    {shown : β → α} (hread : ∀ b, read (tokens b) = some (shown b))
    (hcomma : ∀ b, .comma ∉ tokens b) {bs : List β} (hbs : bs ≠ []) :
    readList read (separated (bs.map tokens)) = bs.map shown := by
  have hne : bs.map tokens ≠ [] := by simpa using hbs
  rw [readList, space_cons_separated hne, List.splitOn_intercalate]
  · simp [List.filterMap_map, Function.comp_def, hread]
  · simpa using fun b _ => hcomma b
  · simpa using hbs

theorem readList_listBody {α β : Type} {read : List Token → Option α} {tokens : β → List Token}
    {shown : β → α} (hread : ∀ b, read (tokens b) = some (shown b))
    (hcomma : ∀ b, .comma ∉ tokens b) (bs : List β) :
    ((listBody (bs.map tokens)).map (readList read)).getD [] = bs.map shown := by
  cases bs with
  | nil => rfl
  | cons b bs => exact readList_separated hread hcomma (by simp)

/-! ## Fields -/

def Aggregate.ofKeyword? (s : String) : Option Aggregate :=
  [count, sum, avg, min, max].find? (·.keyword = s)

theorem Aggregate.ofKeyword?_keyword (a : Aggregate) : ofKeyword? a.keyword = some a := by
  cases a <;> decide

namespace ShownField

/-- Reads a field, with what stands behind it. -/
def readPrefix : List Token → Option (ShownField × List Token)
  | .function a :: .lparen :: .ident q :: .dot :: .ident c :: .rparen :: ts =>
    (Aggregate.ofKeyword? a).map fun a => (⟨some a, q, c⟩, ts)
  | .ident q :: .dot :: .ident c :: ts => some (⟨none, q, c⟩, ts)
  | _ => none

def read (ts : List Token) : Option ShownField := (readPrefix ts).map Prod.fst

theorem readPrefix_tokens (f : Field) (ts : List Token) :
    readPrefix (f.tokens ++ ts) = some (f.shown, ts) := by
  unfold Field.tokens Field.shown
  cases f.aggregate with
  | none => rfl
  | some a => simp [readPrefix, Aggregate.ofKeyword?_keyword]

theorem read_tokens (f : Field) : read f.tokens = some f.shown := by
  have h := readPrefix_tokens f []
  rw [List.append_nil] at h
  rw [read, h]
  rfl

end ShownField

namespace ShownItem

def read (ts : List Token) : Option ShownItem :=
  match ShownField.readPrefix ts with
  | some (f, []) => some ⟨f, none⟩
  | some (f, [.space, .keyword .asc]) => some ⟨f, some .asc⟩
  | some (f, [.space, .keyword .desc]) => some ⟨f, some .desc⟩
  | _ => none

theorem read_tokens (i : OrderItem) : read i.tokens = some i.shown := by
  unfold OrderItem.tokens OrderItem.shown
  rcases hd : i.direction with _ | _ | _ <;> simp only [read, ShownField.readPrefix_tokens]

end ShownItem

/-- The tokens that stand between items and between lines. -/
def Token.IsSeparator (t : Token) : Prop := t = .comma ∨ t = .newline

theorem Field.separator_notMem {t : Token} (ht : t.IsSeparator) (f : Field) : t ∉ f.tokens := by
  unfold tokens
  rcases ht with rfl | rfl <;> cases f.aggregate <;> simp

theorem OrderItem.separator_notMem {t : Token} (ht : t.IsSeparator) (i : OrderItem) :
    t ∉ i.tokens := by
  have hf := i.field.separator_notMem ht
  unfold tokens
  rcases ht with rfl | rfl <;> rcases i.direction with _ | _ | _ <;> simp [hf]

/-! ## The line below SELECT -/

def readDistinct : List Token → Bool × List Token
  | .keyword .distinct :: .space :: ts => (true, ts)
  | ts => (false, ts)

def readTop : List Token → Option Top × List Token
  | .keyword .top :: .space :: .count n :: .space :: .keyword .percent :: .space :: ts =>
    (some ⟨n, true⟩, ts)
  | .keyword .top :: .space :: .count n :: .space :: ts => (some ⟨n, false⟩, ts)
  | ts => (none, ts)

theorem readDistinct_append (b : Bool) {ts : List Token}
    (h : ts.head? ≠ some (.keyword .distinct)) :
    readDistinct ((if b then [.keyword .distinct, .space] else []) ++ ts) = (b, ts) := by
  cases b with
  | true => rfl
  | false =>
    simp only [Bool.false_eq_true, if_false, List.nil_append]
    unfold readDistinct
    split
    · simp at h
    · rfl

theorem readTop_append (t : Option Top) {ts : List Token} (h : ∀ k, ts.head? ≠ some (.keyword k)) :
    readTop ((t.map Top.tokens).getD [] ++ ts) = (t, ts) := by
  match t with
  | none =>
    -- what follows does not start with a word, so neither form of TOP is read
    simp only [Option.map_none, Option.getD_none, List.nil_append]
    unfold readTop
    split
    · simp at h
    · simp at h
    · rfl
  | some ⟨n, true⟩ => rfl
  | some ⟨n, false⟩ =>
    simp only [Option.map_some, Option.getD_some, Top.tokens]
    unfold readTop
    split <;> simp_all

/-- The fields below SELECT. -/
def listing (fs : List Field) : List Token :=
  if fs.isEmpty then [.star] else separated (fs.map Field.tokens)

/-- They start with none of the words that may stand before them. -/
theorem head?_listing (fs : List Field) (k : Keyword) : (listing fs).head? ≠ some (.keyword k) := by
  unfold listing
  cases fs with
  | nil => simp
  | cons f fs =>
    have hf : ∃ t ts, f.tokens = t :: ts ∧ t ≠ .keyword k := by
      unfold Field.tokens
      cases f.aggregate <;> exact ⟨_, _, rfl, nofun⟩
    obtain ⟨t, ts, ht, hk⟩ := hf
    cases fs <;> simpa [separated, ht] using hk

def readListing (body : List Token) : List ShownField := readList ShownField.read body

theorem readListing_listing (fs : List Field) :
    readListing (listing fs) = fs.map Field.shown := by
  cases fs with
  | nil => decide
  | cons f fs =>
    exact readList_separated ShownField.read_tokens (Field.separator_notMem (.inl rfl)) (by simp)

/-- Reads the modifiers and the list. -/
def readSelect (body : List Token) : Bool × Option Top × List ShownField :=
  let (distinct, ts) := readDistinct body
  let (top, listing) := readTop ts
  (distinct, top, readListing listing)

theorem readSelect_selectTokens {α : Type} (o : Outline α) :
    readSelect o.selectTokens = (o.distinct, o.top, o.fields.map Field.shown) := by
  have hd : readDistinct o.selectTokens =
      (o.distinct, (o.top.map Top.tokens).getD [] ++ listing o.fields) := by
    rw [Outline.selectTokens, List.append_assoc]
    apply readDistinct_append
    cases o.top with
    | none => exact head?_listing o.fields .distinct
    | some t => simp [Top.tokens]
  simp only [readSelect, hd, readTop_append o.top (head?_listing o.fields), readListing_listing]

/-! ## Tables and joins -/

/-- Reads a table and its alias, with what stands behind them. -/
def readTable : List Token → Option (String × String × List Token)
  | .ident t :: .space :: .ident v :: ts => some (t, v, ts)
  | _ => none

theorem readTable_append (a : Alias) (ts : List Token) :
    readTable (a.tokens ++ ts) = some (a.entity.table, a.value, ts) := rfl

def JoinKind.ofKeyword? (k : Keyword) : Option JoinKind :=
  [inner, left, right, full, cross].find? (·.keyword = k)

theorem JoinKind.ofKeyword?_keyword (k : JoinKind) : ofKeyword? k.keyword = some k := by
  cases k <;> decide

namespace ShownJoin

def readCondition : List Token → Option (List Token)
  | .space :: .keyword .«on» :: .space :: ts => some ts
  | _ => none

/-- Reads a join. Other titles are of a single word. -/
def read : Block → Option (ShownJoin (List Token))
  | ([.keyword k, .space, .keyword .join], body) => do
    let kind ← JoinKind.ofKeyword? k
    let (table, qualifier, ts) ← readTable body
    return ⟨kind, table, qualifier, readCondition ts⟩
  | _ => none

theorem read_join (j : JoinOutline (List Token)) : read (Block.join j) = some j.shown := by
  obtain ⟨k, a, c⟩ := j
  have hc : readCondition (JoinOutline.onTokens c) = c := by cases c <;> rfl
  simp [Block.join, JoinOutline.title, read, JoinKind.ofKeyword?_keyword, readTable_append, hc,
    JoinOutline.shown]

theorem filterMap_optional (k : Keyword) (body : Option (List Token)) :
    (Block.optional k body).filterMap read = [] := by
  cases body <;> rfl

end ShownJoin

/-! ## Statements -/

namespace Contents

/-- Reads the tokens of a statement. -/
def read (ts : List Token) : Option (Contents (List Token)) := do
  let blocks := Block.read (ts.splitOn .newline)
  let (distinct, top, fields) := readSelect (← blocks.lookup [.keyword .select])
  let (table, qualifier, _) ← readTable (← blocks.lookup [.keyword .«from»])
  let list {α : Type} (read : List Token → Option α) (k : Keyword) :=
    ((blocks.lookup [.keyword k]).map (readList read)).getD []
  return {
    distinct, top, fields, table, qualifier
    joins := blocks.filterMap ShownJoin.read
    filter := blocks.lookup [.keyword .«where»]
    groupBy := list ShownField.read .groupBy
    having := blocks.lookup [.keyword .having]
    orderBy := list ShownItem.read .orderBy }

end Contents

namespace Outline

variable (o : Outline (List Token))

/-- Each clause is found under its title. -/
theorem lookup_blocks :
    o.blocks.lookup [.keyword .select] = some o.selectTokens ∧
    o.blocks.lookup [.keyword .«from»] = some o.root.tokens ∧
    o.blocks.lookup [.keyword .«where»] = o.filter ∧
    o.blocks.lookup [.keyword .groupBy] = listBody (o.groupBy.map Field.tokens) ∧
    o.blocks.lookup [.keyword .having] = o.having ∧
    o.blocks.lookup [.keyword .orderBy] = listBody (o.orderBy.map OrderItem.tokens) := by
  refine ⟨?_, ?_, ?_, ?_, ?_, ?_⟩ <;>
    simp [blocks, List.lookup_append, Block.lookup_joins, Block.lookup_optional,
      Block.lookup_optional_of_ne]

theorem filterMap_blocks : o.blocks.filterMap ShownJoin.read = o.joins.map JoinOutline.shown := by
  have hj : (o.joins.map Block.join).filterMap ShownJoin.read = o.joins.map JoinOutline.shown := by
    have hread : ShownJoin.read ∘ Block.join = some ∘ JoinOutline.shown :=
      funext ShownJoin.read_join
    rw [List.filterMap_map, hread, List.filterMap_eq_map]
  simp only [blocks, List.filterMap_append, hj, ShownJoin.filterMap_optional, List.append_nil]
  rfl

end Outline

/-! ## Line breaks -/

theorem newline_notMem_separated {runs : List (List Token)} (h : ∀ r ∈ runs, .newline ∉ r) :
    .newline ∉ separated runs := by
  unfold separated
  induction runs with
  | nil => simp
  | cons r runs ih =>
    cases runs with
    | nil => simpa using h
    | cons s runs =>
      simp only [List.forall_mem_cons] at h ih
      simpa [List.intercalate_cons_cons, h.1] using ih h.2

theorem newline_notMem_listBody {runs : List (List Token)} (h : ∀ r ∈ runs, .newline ∉ r) :
    ∀ ts ∈ listBody runs, .newline ∉ ts := by
  unfold listBody
  split
  · simp
  · simpa using newline_notMem_separated h

namespace Block

/-- A block of two lines. -/
def Unbroken (b : Block) : Prop := .newline ∉ b.1 ∧ .newline ∉ b.2

theorem unbroken_optional {k : Keyword} {body : Option (List Token)}
    (h : ∀ ts ∈ body, .newline ∉ ts) : ∀ b ∈ optional k body, b.Unbroken := by
  cases body with
  | none => simp [optional]
  | some ts => simpa [optional, Unbroken] using h

theorem unbroken_join {j : JoinOutline (List Token)} (h : ∀ ts ∈ j.condition, .newline ∉ ts) :
    (join j).Unbroken := by
  obtain ⟨k, a, c⟩ := j
  cases c with
  | none => simp [Unbroken, join, JoinOutline.title, JoinOutline.onTokens, Alias.tokens]
  | some ts => simpa [Unbroken, join, JoinOutline.title, JoinOutline.onTokens, Alias.tokens] using h

end Block

namespace Outline

theorem newline_notMem_selectTokens {α : Type} (o : Outline α) : .newline ∉ o.selectTokens := by
  have hf : Token.newline ∉ separated (o.fields.map Field.tokens) :=
    newline_notMem_separated (by simpa using fun f _ => f.separator_notMem (.inr rfl))
  have ht : Token.newline ∉ (o.top.map Top.tokens).getD [] := by
    cases o.top with
    | none => simp
    | some t => cases hp : t.percent <;> simp [Top.tokens, hp]
  unfold selectTokens
  split <;> split <;> simp [hf, ht]

variable {o : Outline (List Token)}

theorem unbroken_blocks (h : ∀ ts ∈ o.bodies, .newline ∉ ts) : ∀ b ∈ o.blocks, b.Unbroken := by
  have hgroup : ∀ ts ∈ listBody (o.groupBy.map Field.tokens), .newline ∉ ts :=
    newline_notMem_listBody (by simpa using fun f _ => f.separator_notMem (.inr rfl))
  have horder : ∀ ts ∈ listBody (o.orderBy.map OrderItem.tokens), .newline ∉ ts :=
    newline_notMem_listBody (by simpa using fun i _ => i.separator_notMem (.inr rfl))
  intro b hb
  simp only [blocks, List.mem_append, List.mem_map] at hb
  rcases hb with (((((hb | hb) | ⟨j, hj, rfl⟩) | hb) | hb) | hb) | hb
  · exact Block.unbroken_optional (by simpa using o.newline_notMem_selectTokens) b hb
  · exact Block.unbroken_optional (by simp [Alias.tokens]) b hb
  · exact Block.unbroken_join fun ts hts => h ts (by simpa [bodies] using .inl ⟨j, hj, hts⟩)
  · exact Block.unbroken_optional (fun ts hts => h ts (by simp_all [bodies])) b hb
  · exact Block.unbroken_optional hgroup b hb
  · exact Block.unbroken_optional (fun ts hts => h ts (by simp_all [bodies])) b hb
  · exact Block.unbroken_optional horder b hb

/-- The blocks come back from the stream. -/
theorem read_splitOn (h : ∀ ts ∈ o.bodies, .newline ∉ ts) :
    Block.read (o.tokens.splitOn .newline) = o.blocks := by
  have hlines : ∀ line ∈ o.tokenLines, .newline ∉ line := by
    intro line hl
    rw [← tokenLines_blocks] at hl
    obtain ⟨b, hb, hl⟩ := List.mem_flatMap.mp hl
    obtain ⟨ht, hbody⟩ := unbroken_blocks h b hb
    simp only [Block.tokenLines, List.mem_cons, List.not_mem_nil, or_false] at hl
    rcases hl with rfl | rfl
    · exact ht
    · simpa using hbody
  have hne : o.tokenLines ≠ [] := by simp [tokenLines, clauseLines]
  rw [tokens, List.splitOn_intercalate _ hlines hne, ← tokenLines_blocks, Block.read_tokenLines]

/-- **An outline of unbroken runs can be read back.** -/
theorem read_tokens (h : ∀ ts ∈ o.bodies, .newline ∉ ts) :
    Contents.read o.tokens = some o.contents := by
  obtain ⟨hselect, hfrom, hwhere, hgroup, hhaving, horder⟩ := o.lookup_blocks
  have hroot : readTable o.root.tokens = some (o.root.entity.table, o.root.value, []) := rfl
  have hfields := readList_listBody ShownField.read_tokens
    (Field.separator_notMem (.inl rfl)) o.groupBy
  have hitems := readList_listBody ShownItem.read_tokens
    (OrderItem.separator_notMem (.inl rfl)) o.orderBy
  simp [Contents.read, read_splitOn h, hselect, hfrom, hwhere, hgroup, hhaving, horder, hroot,
    hfields, hitems, readSelect_selectTokens, filterMap_blocks, contents]

end Outline

end SelectQuery
