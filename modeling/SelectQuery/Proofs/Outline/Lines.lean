import SelectQuery.Proofs.Numbering
import SelectQuery.Proofs.Outline.Composition
import SelectQuery.Proofs.Registry
import SelectQuery.Proofs.Wording.Conjunction

/-!
# Lines of the text

The text of a statement, said without tokens. A layout takes no part in what the lines are: it only
separates and indents them.

* `Draft.textOf_fill`: the text of a filled draft, cell by cell;
* `Term.text`, `Predicate.text`: the text of a predicate after a number of values;
* `Outline.lines`: an outline of texts, line by line;
* `command_text_eq_lines`: the lines of a statement are its text.
-/

namespace SelectQuery

/-! ## Drafts -/

/-- A literal, written out or as the parameter with an index. -/
def ParamStyle.literalText (style : ParamStyle) (i : Nat) (v : Value) : String :=
  if style.isInline then v.literal?.getD "" else style.placeholder i

/-- The text of a cell when `h` gives the texts of the literals. -/
def Cell.text (l : Layout) (h : Literal → String) : Cell → String
  | token t => t.text l
  | literal o => h o

namespace Draft

variable {l : Layout} {ds : Draft}

def text (l : Layout) (h : Literal → String) (ds : Draft) : String :=
  String.join (ds.map (Cell.text l h))

theorem text_append (h : Literal → String) (ds es : Draft) :
    text l h (ds ++ es) = text l h ds ++ text l h es := by
  simp [text]

theorem text_ofTokens (h : Literal → String) (ts : List Token) :
    text l h (ofTokens ts) = Token.textOf l ts := by
  simp [text, ofTokens, Token.textOf, Function.comp_def, Cell.text]

theorem text_congr {g h : Literal → String} (hgh : ∀ o ∈ literals ds, g o = h o) :
    text l g ds = text l h ds := by
  unfold text
  congr 1
  apply List.map_congr_left
  intro c hc
  cases c with
  | token t => rfl
  | literal o => exact hgh o (List.mem_filterMap.mpr ⟨_, hc, rfl⟩)

theorem textOf_spell (g : Literal → Token) :
    Token.textOf l (spell g ds) = text l (fun o => (g o).text l) ds := by
  unfold Token.textOf spell text
  rw [List.map_map]
  congr 2
  funext c
  cases c <;> rfl

/-- Where placeholders are positional, their indices cannot be seen. -/
theorem textOf_counted (hl : l.paramStyle.isPositional) (next : Nat) :
    Token.textOf l (counted next ds) = text l (fun _ => l.paramStyle.placeholder 0) ds := by
  have hp : ∀ i, l.paramStyle.placeholder i = l.paramStyle.placeholder 0 := by
    intro i
    generalize l.paramStyle = style at hl
    cases style <;> first | rfl | cases hl
  induction ds generalizing next with
  | nil => rfl
  | cons c ds ih =>
    cases c with
    | token t => simpa [counted, text, Cell.text, Token.textOf_cons] using ih next
    | literal o =>
      simpa [counted, text, Cell.text, Token.textOf_cons, Token.text, hp next] using ih (next + 1)

/-- **The text of a filled draft.** Each literal shows the place of its site in the order of the
sites, if it shows a number at all. -/
theorem textOf_fill {next : Nat} {f : Fragment} (h : fill l.paramStyle next ds = .ok f) :
    Token.textOf l f.tokens = text l (fun o =>
      l.paramStyle.literalText (next + (order [] (literals ds)).idxOf o.site) o.value) ds := by
  unfold fill at h
  split at h
  · next hi =>
    unfold inline at h
    split at h
    · cases h
    · obtain rfl := Except.ok.inj h
      simp only [textOf_spell, ParamStyle.literalText, hi, if_true]
      rfl
  · next hi =>
    split at h
    · next hp =>
      obtain rfl := Except.ok.inj h
      rw [positional, textOf_counted hp]
      apply text_congr
      intro o _
      generalize l.paramStyle = style at hp
      cases style <;> first | rfl | cases hp
    · obtain rfl := Except.ok.inj h
      simp only [shared, textOf_spell, ParamStyle.literalText, hi]
      rfl

end Draft

/-! ## Terms -/

namespace Term

open Draft (order)

/-- Whether a slot stands for a literal. -/
def isLiteral (t : Term) (n : Nat) : Bool :=
  match t.arguments[n]? with
  | some (.literal _) => true
  | _ => false

/-- The slots that stand for literals, each as often as the template uses it. -/
def literalSlots (t : Term) : List Nat := (Template.slots t.parts).filter t.isLiteral

/-- The number of values that a term binds: none if they are written out, one for each use if
placeholders are positional, or else one for each slot. -/
def count (style : ParamStyle) (t : Term) : Nat :=
  if style.isInline then 0
  else if style.isPositional then t.literalSlots.length else t.literalSlots.eraseDups.length

/-- The text of one part, in a term after `next` values. -/
def partText (style : ParamStyle) (next : Nat) (t : Term) : Template.Part → String
  | .text s => s
  | .slot n =>
    match t.arguments[n]? with
    | none => ""
    | some (.field f) => f.text
    | some (.literal v) => style.literalText (next + t.literalSlots.eraseDups.idxOf n) v

def text (style : ParamStyle) (next : Nat) (t : Term) : String :=
  String.join (t.parts.map (t.partText style next))

theorem sites_literals (t : Term) (k : Nat) :
    (t.literals k).map Literal.site = t.literalSlots.map (Site.mk k) := by
  unfold literals literalSlots
  induction Template.slots t.parts with
  | nil => rfl
  | cons n ns ih =>
    cases h : t.arguments[n]? with
    | none => simpa [literal?, isLiteral, h] using ih
    | some a => cases a <;> simpa [literal?, isLiteral, h] using ih

theorem order_literals (t : Term) (k : Nat) :
    order [] (t.literals k) = t.literalSlots.eraseDups.map (Site.mk k) := by
  rw [Draft.order_eq_eraseDups, sites_literals, eraseDups_map_of_injOn]
  intro m _ n _ h
  exact (Site.mk.inj h).2

/-- A slot has its place among the slots, as its site has among the sites. -/
theorem idxOf_order_literals (t : Term) (k n : Nat) :
    (order [] (t.literals k)).idxOf ⟨k, n⟩ = t.literalSlots.eraseDups.idxOf n := by
  have hs : ((· == (⟨k, n⟩ : Site)) ∘ Site.mk k) = (· == n) := by
    funext m
    by_cases h : m = n <;> simp [h]
  rw [order_literals, List.idxOf, List.findIdx_map, hs, List.idxOf]

theorem text_draft (t : Term) (l : Layout) (next : Nat) :
    Draft.text l (fun o => l.paramStyle.literalText
      (next + t.literalSlots.eraseDups.idxOf o.site.slot) o.value) (t.draft 0) =
      t.text l.paramStyle next := by
  unfold draft text
  induction t.parts with
  | nil => rfl
  | cons p ps ih =>
    rw [List.flatMap_cons, Draft.text_append, ih, List.map_cons, String.join_cons]
    congr 1
    cases p with
    | text s => simp [partDraft, partText, Draft.text, Cell.text, Token.text]
    | slot n =>
      simp only [partDraft, partText]
      cases t.arguments[n]? with
      | none => rfl
      | some a =>
        cases a with
        | field f => rw [Draft.text_ofTokens, Field.textOf_tokens]
        | literal v => simp [Draft.text, Cell.text]

variable {t : Term} {next : Nat} {f : Fragment}

theorem textOf_fragment {l : Layout} (h : t.fragment l.paramStyle next = .ok f) :
    Token.textOf l f.tokens = t.text l.paramStyle next := by
  rw [t.fragment_eq_fill 0] at h
  rw [Draft.textOf_fill h, ← text_draft]
  apply Draft.text_congr
  intro o ho
  rw [literals_draft] at ho ⊢
  have hs : o.site = ⟨0, o.site.slot⟩ := by
    rw [← ((t.mem_literals_iff 0 o).mp ho).1]
  rw [hs, idxOf_order_literals]

theorem length_parameters {style : ParamStyle} (h : t.fragment style next = .ok f) :
    f.parameters.length = t.count style := by
  have hl := congrArg List.length (t.sites_literals 0)
  have ho := congrArg List.length (t.order_literals 0)
  simp only [List.length_map, Draft.order, List.nil_append] at hl ho
  rw [t.fragment_eq_fill 0, Draft.fill] at h
  unfold count
  split at h
  · unfold Draft.inline at h
    split at h
    · cases h
    · obtain rfl := Except.ok.inj h
      simp [*]
  · split at h
    · obtain rfl := Except.ok.inj h
      simp [*, Draft.positional, literals_draft]
    · obtain rfl := Except.ok.inj h
      simp [*, Draft.shared, literals_draft]

end Term

/-! ## Predicates -/

namespace Predicate

/-- The number of values that a predicate binds. -/
def count (style : ParamStyle) : Predicate → Nat
  | term t => t.count style
  | combine _ p q => p.count style + q.count style

/-- The text of an operand; one that is combined itself stands in parentheses. -/
def operandText (p : Predicate) (s : String) : String :=
  if p.isCombined then "(" ++ s ++ ")" else s

/-- The text of a predicate after `next` values. -/
def text (style : ParamStyle) : Nat → Predicate → String
  | next, term t => t.text style next
  | next, combine logic p q =>
    p.operandText (p.text style next) ++ " " ++ logic.text ++ " " ++
      q.operandText (q.text style (next + p.count style))

variable {p : Predicate} {next : Nat} {f : Fragment}

theorem textOf_operand (p : Predicate) (l : Layout) (ts : List Token) :
    Token.textOf l (p.operand ts) = p.operandText (Token.textOf l ts) := by
  unfold operand operandText
  split <;> simp [Token.textOf_append, Token.textOf_cons, Token.text, String.append_assoc]

theorem length_parameters {style : ParamStyle} (h : p.fragment style next = .ok f) :
    f.parameters.length = p.count style := by
  induction p generalizing next f with
  | term t => exact Term.length_parameters h
  | combine logic p q ihp ihq =>
    obtain ⟨g, k, hg, hk, hv, -⟩ := fragment_combine h
    rw [hv, List.length_append, ihp hg, ihq hk, count]

/-- **The text of a rendered predicate.** -/
theorem textOf_fragment {l : Layout} (h : p.fragment l.paramStyle next = .ok f) :
    Token.textOf l f.tokens = p.text l.paramStyle next := by
  induction p generalizing next f with
  | term t => exact Term.textOf_fragment h
  | combine logic p q ihp ihq =>
    obtain ⟨g, k, hg, hk, -, ht, -⟩ := items?_combine h
    rw [length_parameters hg] at hk
    rw [ht, textOf_operand, textOf_operand, ihp hg, ihq hk, text]

theorem count_inline (p : Predicate) : p.count .inline = 0 := by
  induction p with
  | term t => rfl
  | combine logic p q ihp ihq => rw [count, ihp, ihq]

/-- A predicate that cannot be written out binds nothing, and any other renders. -/
theorem bound_eq_count (style : ParamStyle) (p : Predicate) : p.bound style = p.count style := by
  unfold bound alone
  cases h : p.fragment style 0 with
  | ok f => exact length_parameters h
  | error e =>
    by_cases hs : style = .inline
    · rw [hs, count_inline]
      rfl
    · obtain ⟨f, hf⟩ := Draft.fill_eq_ok hs 0 (p.draft 0)
      rw [← fragment_eq_fill, h] at hf
      cases hf

theorem textOf_placed {l : Layout} (h : p.fragment l.paramStyle 0 = .ok (p.alone l.paramStyle))
    (next : Nat) : Token.textOf l (placed l.paramStyle (next, p)) = p.text l.paramStyle next :=
  textOf_fragment (f := (p.alone l.paramStyle).raised next) (fragment_eq_ok_iff.mpr ⟨h, rfl⟩)

end Predicate

/-! ## Lines -/

structure Line where
  indented : Bool
  content : String
  deriving DecidableEq, Repr

namespace Line

def text (l : Layout) (x : Line) : String :=
  if x.indented then l.indentUnit ++ x.content else x.content

/-- A title with a body on the next line. -/
def titled (title body : String) : List Line := [⟨false, title⟩, ⟨true, body⟩]

/-- A clause that may be left out. -/
def optional (title : String) (body : Option String) : List Line :=
  body.toList.flatMap (titled title)

end Line

def commaList (items : List String) : String := ", ".intercalate items

/-- A list, unless it is empty. -/
def commaList? (items : List String) : Option String :=
  if items.isEmpty then none else some (commaList items)

def Top.text (t : Top) : String :=
  "TOP " ++ toString t.count.toNat ++ " " ++ if t.percent then "PERCENT " else ""

def OrderItem.text (i : OrderItem) : String :=
  i.field.text ++
    match i.direction with
    | some .asc => " ASC"
    | some .desc => " DESC"
    | none => ""

def Alias.tableText (a : Alias) : String := a.entity.table ++ " " ++ a.value

def JoinOutline.lines (j : JoinOutline String) : List Line :=
  Line.titled j.kind.text (j.joined.tableText ++ (j.condition.map (" ON " ++ ·)).getD "")

namespace Outline

/-- The line below SELECT. -/
def selectText {α : Type} (o : Outline α) : String :=
  (if o.distinct then "DISTINCT " else "") ++ (o.top.map Top.text).getD "" ++
    if o.fields.isEmpty then "*" else commaList (o.fields.map Field.text)

/-- The lines of an outline of texts. -/
def lines (o : Outline String) : List Line :=
  Line.titled "SELECT" o.selectText ++ Line.titled "FROM" o.root.tableText ++
    o.joins.flatMap JoinOutline.lines ++ Line.optional "WHERE" o.filter ++
    Line.optional "GROUP BY" (commaList? (o.groupBy.map Field.text)) ++
    Line.optional "HAVING" o.having ++
    Line.optional "ORDER BY" (commaList? (o.orderBy.map OrderItem.text))

end Outline

/-! ## The text of token runs -/

section

variable (l : Layout)

theorem Token.textOf_intercalate (sep : List Token) (runs : List (List Token)) :
    textOf l (sep.intercalate runs) = (textOf l sep).intercalate (runs.map (textOf l)) := by
  induction runs with
  | nil => rfl
  | cons r runs ih =>
    cases runs with
    | nil => simp
    | cons s runs =>
      rw [List.intercalate_cons_cons, textOf_append, textOf_append, ih]
      exact String.intercalate_cons_cons.symm

theorem textOf_separated (runs : List (List Token)) :
    Token.textOf l (separated runs) = commaList (runs.map (Token.textOf l)) :=
  Token.textOf_intercalate l [.comma, .space] runs

theorem textOf_listBody (runs : List (List Token)) :
    (listBody runs).map (Token.textOf l) = commaList? (runs.map (Token.textOf l)) := by
  unfold listBody commaList?
  cases runs with
  | nil => rfl
  | cons r runs => simp [textOf_separated]

theorem Alias.textOf_tokens (a : Alias) : Token.textOf l a.tokens = a.tableText := by
  simp [tokens, tableText, Token.textOf_cons, Token.text, String.append_assoc]

theorem Top.textOf_tokens (t : Top) : Token.textOf l t.tokens = t.text := by
  have htop : ∀ s : String, "TOP" ++ (" " ++ s) = "TOP " ++ s := by
    intro s
    rw [← String.append_assoc]
    rfl
  unfold tokens text
  split <;> simp [htop, Token.textOf_cons, Token.text, Keyword.text, String.append_assoc]

theorem OrderItem.textOf_tokens (i : OrderItem) : Token.textOf l i.tokens = i.text := by
  unfold tokens text
  rw [Token.textOf_append, Field.textOf_tokens]
  rcases i.direction with _ | _ | _ <;> simp [Token.textOf_cons, Token.text, Keyword.text]

theorem textOf_fields (fs : List Field) :
    (fs.map Field.tokens).map (Token.textOf l) = fs.map Field.text := by
  simp [Function.comp_def, Field.textOf_tokens]

theorem textOf_orderItems (is : List OrderItem) :
    (is.map OrderItem.tokens).map (Token.textOf l) = is.map OrderItem.text := by
  simp [Function.comp_def, OrderItem.textOf_tokens]

theorem textOf_clauseLines (k : Keyword) (body : List Token) :
    (clauseLines k body).map (Token.textOf l) =
      (Line.titled k.text (Token.textOf l body)).map (Line.text l) := by
  simp [clauseLines, Line.titled, Line.text, Token.textOf_cons, Token.text]

theorem textOf_optionLines (k : Keyword) (body : Option (List Token)) :
    (optionLines k body).map (Token.textOf l) =
      (Line.optional k.text (body.map (Token.textOf l))).map (Line.text l) := by
  cases body with
  | none => rfl
  | some ts => simpa [optionLines, Line.optional] using textOf_clauseLines l k ts

namespace JoinOutline

theorem textOf_title (k : JoinKind) : Token.textOf l (title k) = k.text := by
  cases k <;> simp [title, Token.textOf_cons, Token.text, Keyword.text, JoinKind.keyword,
    JoinKind.text]

theorem textOf_tokenLines (j : JoinOutline (List Token)) :
    j.tokenLines.map (Token.textOf l) =
      (j.map (Token.textOf l)).lines.map (Line.text l) := by
  have hon : ∀ s : String, " " ++ ("ON" ++ (" " ++ s)) = " ON " ++ s := by
    intro s
    rw [← String.append_assoc, ← String.append_assoc]
    rfl
  obtain ⟨k, a, c⟩ := j
  cases c <;> simp [tokenLines, lines, Line.titled, map, onTokens, Line.text, hon, textOf_title,
    Token.textOf_cons, Token.textOf_append, Alias.textOf_tokens, Token.text, Keyword.text]

end JoinOutline

namespace Outline

theorem textOf_selectTokens {α : Type} (o : Outline α) :
    Token.textOf l o.selectTokens = o.selectText := by
  unfold selectTokens selectText
  have hd : Token.textOf l (if o.distinct then [.keyword .distinct, .space] else []) =
      if o.distinct then "DISTINCT " else "" := by
    split <;> rfl
  have ht : Token.textOf l ((o.top.map Top.tokens).getD []) = (o.top.map Top.text).getD "" := by
    cases o.top with
    | none => rfl
    | some t => exact t.textOf_tokens l
  rw [Token.textOf_append, Token.textOf_append, hd, ht]
  congr 1
  split
  · rfl
  · rw [textOf_separated, textOf_fields]

/-- **The lines of an outline**, as tokens and as texts. -/
theorem textOf_tokenLines (o : Outline (List Token)) :
    o.tokenLines.map (Token.textOf l) =
      (o.map (Token.textOf l)).lines.map (Line.text l) := by
  have hj : (o.joins.flatMap JoinOutline.tokenLines).map (Token.textOf l) =
      ((o.map (Token.textOf l)).joins.flatMap JoinOutline.lines).map (Line.text l) := by
    rw [map, List.map_flatMap, List.flatMap_map, List.map_flatMap]
    simp only [JoinOutline.textOf_tokenLines]
  simp only [tokenLines, lines, List.map_append, textOf_clauseLines, textOf_optionLines, hj,
    textOf_selectTokens, Alias.textOf_tokens, textOf_listBody, textOf_fields, textOf_orderItems]
  rfl

theorem textOf_tokens (o : Outline (List Token)) :
    Token.textOf l o.tokens =
      l.lineSeparator.intercalate ((o.map (Token.textOf l)).lines.map (Line.text l)) := by
  rw [tokens, Token.textOf_intercalate, textOf_tokenLines]
  rfl

end Outline

end

/-! ## Statements -/

namespace Outline

variable {α β : Type}

theorem map_map {γ : Type} (f : α → β) (g : β → γ) (o : Outline α) :
    (o.map f).map g = o.map fun a => g (f a) := by
  simp [map, JoinOutline.map, Function.comp_def]

theorem map_congr {f g : α → β} {o : Outline α} (h : ∀ a ∈ o.bodies, f a = g a) :
    o.map f = o.map g := by
  have hj : ∀ j ∈ o.joins, j.map f = j.map g := by
    intro j hj
    have hc : ∀ a ∈ j.condition, f a = g a := fun a ha =>
      h a (by simpa [bodies] using .inl ⟨j, hj, ha⟩)
    rw [JoinOutline.map, JoinOutline.map, Option.map_congr hc]
  have hf : ∀ a ∈ o.filter, f a = g a := fun a ha => h a (by simp_all [bodies])
  have hh : ∀ a ∈ o.having, f a = g a := fun a ha => h a (by simp_all [bodies])
  rw [map, map, List.map_congr_left hj, Option.map_congr hf, Option.map_congr hh]

end Outline

theorem mem_of_mem_offsets {α : Type} {size : α → Nat} {n : Nat} {as : List α} {x : Nat × α}
    (h : x ∈ offsets size n as) : x.2 ∈ as := by
  obtain ⟨k, hk⟩ := List.mem_iff_getElem?.mp h
  rw [getElem?_offsets, Option.map_eq_some_iff] at hk
  obtain ⟨a, ha, rfl⟩ := hk
  exact List.mem_of_getElem? ha

namespace Statement

/-- The lines of a statement. -/
def lines (style : ParamStyle) (s : Statement) : List Line :=
  ((s.outline.numbered (Predicate.count style)).map fun x => x.2.text style x.1).lines

/-- The text of a statement under a layout. -/
def text (l : Layout) (s : Statement) : String :=
  l.lineSeparator.intercalate ((s.lines l.paramStyle).map (Line.text l))

theorem map_textOf_placed {l : Layout} {s : Statement} {f : Fragment}
    (h : s.fragment l.paramStyle = .ok f) :
    (s.placed l.paramStyle).map (Token.textOf l) =
      (s.outline.numbered (Predicate.count l.paramStyle)).map fun x =>
        x.2.text l.paramStyle x.1 := by
  have hb : Predicate.bound l.paramStyle = Predicate.count l.paramStyle :=
    funext (Predicate.bound_eq_count l.paramStyle)
  rw [placed, Outline.map_map, hb]
  apply Outline.map_congr
  intro x hx
  rw [Outline.bodies_numbered, bodies_outline] at hx
  exact Predicate.textOf_placed ((composed_of_fragment h).alone_eq _ (mem_of_mem_offsets hx)) x.1

theorem textOf_fragment {l : Layout} {s : Statement} {f : Fragment}
    (h : s.fragment l.paramStyle = .ok f) : Token.textOf l f.tokens = s.text l := by
  rw [(composed_of_fragment h).tokens_eq, Outline.textOf_tokens, map_textOf_placed h]
  rfl

/-- **The layout decides on the text only**, and the style on everything else. -/
theorem render_eq_map (s : Statement) (l : Layout) :
    s.render l = (s.stream l.paramStyle).map fun f => ⟨s.text l, f.parameters⟩ := by
  unfold render stream
  cases s.validate with
  | error e => rfl
  | ok u =>
    cases h : s.fragment l.paramStyle with
    | error e => rfl
    | ok f => simp [bind, Except.bind, pure, Except.pure, Except.map, Fragment.rendered,
        textOf_fragment h]

theorem render_eq_ok_iff_text {s : Statement} {l : Layout} {r : Rendered} :
    s.render l = .ok r ↔
      ∃ f, s.stream l.paramStyle = .ok f ∧ r = ⟨s.text l, f.parameters⟩ := by
  rw [render_eq_map]
  cases s.stream l.paramStyle <;> simp [Except.map, eq_comm]

theorem render_eq_error_iff {s : Statement} {l : Layout} {e : SelectError} :
    s.render l = .error e ↔ s.stream l.paramStyle = .error e := by
  rw [render_eq_map]
  cases s.stream l.paramStyle <;> simp [Except.map]

end Statement

/-- **The text of a statement is its lines**, with the line separator of the layout between them and
its blanks in front of the indented ones. Just the cross joins have no condition. Fields stand in
the text as they do in messages, also inside predicates. Layouts of one style fail alike, bind the
same parameters and differ only in what they put around the lines. -/
theorem command_text_eq_lines (l : Layout) (s : Statement) :
    (∀ r, s.render l = .ok r →
      r.commandText = l.lineSeparator.intercalate ((s.lines l.paramStyle).map (Line.text l))) ∧
    (s.Built → ∀ j ∈ s.joins, (j.condition = none ↔ j.kind = .cross)) ∧
    (∀ f : Field, Token.textOf l f.tokens = f.text) ∧
    (∀ (p : Predicate) (next : Nat) (f : Fragment), p.fragment l.paramStyle next = .ok f →
      Token.textOf l f.tokens = p.text l.paramStyle next) ∧
    (s.Built → ∀ c f, s.FirstFailure (.field c f) → s.render l =
      .error (f.qualifier.missing (c.text ++ " references " ++ Token.textOf l f.tokens))) ∧
    ∀ l' : Layout, l'.paramStyle = l.paramStyle →
      (∀ e, s.render l = .error e ↔ s.render l' = .error e) ∧
      ∀ r, s.render l = .ok r → ∃ r', s.render l' = .ok r' ∧ r'.parameters = r.parameters ∧
        r'.commandText =
          l'.lineSeparator.intercalate ((s.lines l.paramStyle).map (Line.text l')) := by
  refine ⟨fun r h => ?_, fun hs j hj => hs.mirrored.conditioned j hj, Field.textOf_tokens l,
    fun p next f h => Predicate.textOf_fragment h, fun hs c f h => ?_, fun l' hl => ⟨fun e => ?_,
      fun r h => ?_⟩⟩
  · obtain ⟨f, -, rfl⟩ := Statement.render_eq_ok_iff_text.mp h
    rfl
  · have hv := hs.reachable.validate_of_firstFailure h
    rw [Statement.render_of_validate_error hv l, Field.textOf_tokens]
    rfl
  · rw [Statement.render_eq_error_iff, Statement.render_eq_error_iff, hl]
  · obtain ⟨f, hf, rfl⟩ := Statement.render_eq_ok_iff_text.mp h
    rw [← hl] at hf ⊢
    exact ⟨_, Statement.render_eq_ok_iff_text.mpr ⟨f, hf, rfl⟩, rfl, rfl⟩

/-- People next to all passports, with most of what a statement can have. -/
def Statement.crossed : Statement :=
  (ofRoot .people).run [.edit (.distinct true), .edit (.top ⟨10, true⟩),
    .edit (.fields [.id .people, (Field.id .passports).aggregated .count]),
    .join (.crossing .passports), .edit (.filter (.doubled (.text "a") .null)),
    .edit (.orderBy [⟨.id .people, some .desc⟩, ⟨.id .passports, none⟩])]

theorem Statement.built_crossed : crossed.Built := by
  apply (Built.ofRoot _).run
  simp only [List.forall_mem_cons]
  exact ⟨.edit _, .edit _, .edit _, .join (.crossing _), .edit _, .edit _, nofun⟩

/-- People, with a column of passports that were not joined. -/
def Statement.unjoined : Statement := (ofRoot .people).edit (.fields [.id .passports])

/-- One statement under two layouts, and a message that shows a field. -/
theorem command_text_eq_lines_crossed :
    let l : Layout := { lineSeparator := "\r\n", paramStyle := .dollar }
    (∃ r, Statement.crossed.render l = .ok r ∧
      r.commandText = "SELECT\r\n    DISTINCT TOP 10 PERCENT pe.id, COUNT(pa.id)" ++
        "\r\nFROM\r\n    Person pe\r\nCROSS JOIN\r\n    Passport pa" ++
        "\r\nWHERE\r\n    $1 <> $1 AND $2 <> $2\r\nORDER BY\r\n    pe.id DESC, pa.id" ∧
      ∃ r', Statement.crossed.render ⟨" ", 0, .dollar⟩ = .ok r' ∧ r'.parameters = r.parameters ∧
        r'.commandText = "SELECT DISTINCT TOP 10 PERCENT pe.id, COUNT(pa.id) FROM Person pe" ++
          " CROSS JOIN Passport pa WHERE $1 <> $1 AND $2 <> $2 ORDER BY pe.id DESC, pa.id") ∧
    (Join.crossing .passports).condition = none ∧
    (∃ f, (Predicate.idBelow .people .null).fragment l.paramStyle 4 = .ok f ∧
      Token.textOf l f.tokens = "pe.id < $5") ∧
    Statement.unjoined.render {} =
      .error (.invalidState "pa" "Passport" "select list references pa.id") := by
  intro l
  obtain ⟨r, hr⟩ : ∃ r, Statement.crossed.render l = .ok r := ⟨_, rfl⟩
  obtain ⟨htext, hcross, -, hpredicate, -, hlayout⟩ := command_text_eq_lines l Statement.crossed
  obtain ⟨r', hr', hp, ht⟩ := (hlayout ⟨" ", 0, .dollar⟩ rfl).2 r hr
  refine ⟨⟨r, hr, ?_, r', hr', hp, ?_⟩, ?_, ?_, ?_⟩
  · rw [htext r hr]
    decide +kernel
  · rw [ht]
    decide +kernel
  · exact (hcross Statement.built_crossed _ (List.mem_singleton_self _)).mpr rfl
  · obtain ⟨f, hf⟩ : ∃ f, (Predicate.idBelow .people .null).fragment l.paramStyle 4 = .ok f :=
      ⟨_, rfl⟩
    refine ⟨f, hf, ?_⟩
    rw [hpredicate _ _ _ hf]
    decide +kernel
  · have hb : Statement.unjoined.Built := (Statement.Built.ofRoot .people).step (.edit _) rfl
    have hf : Statement.unjoined.FirstFailure (.field .selectList (.id .passports)) := by
      refine ⟨[.root], [], rfl, ?_, ?_⟩
      · intro b hb
        rw [List.mem_singleton.mp hb]
        show Alias.people.isBlank = false
        decide
      · rintro (h | ⟨_, h, -⟩)
        · have hv : "pa" = "pe" := congrArg Alias.value h
          exact absurd hv (by decide)
        · cases h
    have ht : Statement.Clause.selectList.text ++ " references " ++
        Token.textOf {} (Field.id .passports).tokens = "select list references pa.id" := by
      decide +kernel
    rw [(command_text_eq_lines {} Statement.unjoined).2.2.2.2.1 hb _ _ hf, ht]
    rfl

end SelectQuery
