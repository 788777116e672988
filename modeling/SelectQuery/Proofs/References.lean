import Mathlib.Data.List.Infix
import SelectQuery.Proofs.Fragments

/-!
# What a token stream refers to

Three lists are read off a token stream, without a look at what was rendered: the fields that are
referred to, the identifiers before a dot, and the aliases that FROM and JOIN lines declare.

* `Reader`: what the three have in common. They look for fields and for declarations, and pass
  over everything else;
* `Reader.reads_predicate`, `Reader.reads_statement`: what a reader finds in a rendered predicate
  or statement.

A piece of a stream is read together with what stands behind it. That must not begin with a dot,
or the last identifier of the piece would be taken for the qualifier of a column.
-/

namespace SelectQuery

/-- A field as it stands in a token stream. -/
structure Reference where
  function : Option String
  qualifier : String
  column : String
  deriving DecidableEq, Repr

def Field.reference (f : Field) : Reference :=
  ⟨f.aggregate.map Aggregate.keyword, f.qualifier.value, f.column⟩

namespace Token

/-- The fields that a token stream refers to. -/
def references : List Token → List Reference
  | function g :: lparen :: ident a :: dot :: ident c :: rparen :: ts =>
    ⟨some g, a, c⟩ :: references ts
  | ident a :: dot :: ident c :: ts => ⟨none, a, c⟩ :: references ts
  | _ :: ts => references ts
  | [] => []

/-- The identifiers that stand before a dot. -/
def qualifiers : List Token → List String
  | ident a :: dot :: ts => a :: qualifiers ts
  | _ :: ts => qualifiers ts
  | [] => []

/-- The aliases of the FROM and JOIN lines. -/
def declarations : List Token → List String
  | keyword .«from» :: newline :: indent _ :: ident _ :: space :: ident a :: ts =>
    a :: declarations ts
  | keyword .join :: newline :: indent _ :: ident _ :: space :: ident a :: ts =>
    a :: declarations ts
  | _ :: ts => declarations ts
  | [] => []

theorem qualifiers_subset_cons (t : Token) (ts : List Token) :
    qualifiers ts ⊆ qualifiers (t :: ts) := by
  cases t with
  | ident a =>
    cases ts with
    | nil => exact List.nil_subset _
    | cons u us => cases u <;> first | exact List.subset_cons_self .. | exact List.Subset.refl _
  | _ => exact List.Subset.refl _

theorem mem_qualifiers_of_infix {a : String} {ts : List Token} (h : [ident a, dot] <:+: ts) :
    a ∈ qualifiers ts := by
  obtain ⟨us, vs, rfl⟩ := h
  induction us with
  | nil => exact List.mem_cons_self ..
  | cons u us ih => exact qualifiers_subset_cons u _ ih

/-- A token that begins neither a field nor a declaration. -/
def isPlain : Token → Bool
  | dot | ident _ | function _ | keyword .«from» | keyword .join => false
  | _ => true

/-- What does not begin with a dot. -/
def Undotted (ts : List Token) : Prop := ts.head? ≠ some dot

theorem undotted_append {ts us : List Token} (ht : Undotted ts) (hu : Undotted us) :
    Undotted (ts ++ us) := by
  cases ts with
  | nil => exact hu
  | cons t ts => exact ht

theorem undotted_of_isPlain {ts : List Token} (h : ∀ t ∈ ts, t.isPlain) : Undotted ts := by
  cases ts with
  | nil => exact nofun
  | cons t ts =>
    intro e
    obtain rfl : t = dot := Option.some.inj e
    cases h dot (List.mem_cons_self ..)

/-- The start of a declaration. -/
def lineHead (k : Keyword) : List Token := [keyword k, newline, indent 1]

end Token

open Token (Undotted lineHead undotted_append undotted_of_isPlain)

/-- A reader of token streams that goes from field to field and from declaration to declaration. -/
structure Reader (α : Type) where
  read : List Token → List α
  ofField : Field → List α
  ofAlias : Alias → List α
  read_nil : read [] = []
  read_plain : ∀ (t : Token) (ts : List Token), t.isPlain → read (t :: ts) = read ts
  read_field : ∀ (f : Field) (ts : List Token), Undotted ts →
    read (f.tokens ++ ts) = ofField f ++ read ts
  read_line : ∀ (k : Keyword) (a : Alias) (ts : List Token), k = .«from» ∨ k = .join →
    Undotted ts → read (lineHead k ++ (a.tokens ++ ts)) = ofAlias a ++ read ts

/-! ## The three readers -/

namespace Reader

theorem references_ident (s : String) {ts : List Token} (h : Undotted ts) :
    Token.references (.ident s :: ts) = Token.references ts := by
  cases ts with
  | nil => rfl
  | cons t ts => cases t <;> first | rfl | exact absurd rfl h

theorem qualifiers_ident (s : String) {ts : List Token} (h : Undotted ts) :
    Token.qualifiers (.ident s :: ts) = Token.qualifiers ts := by
  cases ts with
  | nil => rfl
  | cons t ts => cases t <;> first | rfl | exact absurd rfl h

def references : Reader Reference where
  read := Token.references
  ofField f := [f.reference]
  ofAlias _ := []
  read_nil := rfl
  read_plain t ts h := by
    cases t with
    | ident | function => cases h
    | _ => rfl
  read_field f ts _ := by
    unfold Field.tokens Field.reference
    cases f.aggregate <;> rfl
  read_line k a ts hk h := by
    rcases hk with rfl | rfl <;> exact references_ident a.value h

def qualifiers : Reader String where
  read := Token.qualifiers
  ofField f := [f.qualifier.value]
  ofAlias _ := []
  read_nil := rfl
  read_plain t ts h := by
    cases t with
    | ident | function => cases h
    | _ => rfl
  read_field f ts h := by
    unfold Field.tokens
    cases f.aggregate with
    | none => exact congrArg (f.qualifier.value :: ·) (qualifiers_ident f.column h)
    | some g => rfl
  read_line k a ts hk h := by
    rcases hk with rfl | rfl <;> exact qualifiers_ident a.value h

def declarations : Reader String where
  read := Token.declarations
  ofField _ := []
  ofAlias a := [a.value]
  read_nil := rfl
  read_plain t ts h := by
    cases t with
    | keyword k => cases k <;> first | rfl | cases h
    | _ => rfl
  read_field f ts _ := by
    unfold Field.tokens
    cases f.aggregate <;> rfl
  read_line k a ts hk _ := by
    rcases hk with rfl | rfl <;> rfl

/-! ## Reading piece by piece -/

variable {α : Type} (R : Reader α)

/-- Whatever stands behind it, the reader finds `xs` in the piece `ts`. -/
structure Reads (ts : List Token) (xs : List α) : Prop where
  undotted : Undotted ts
  read_append : ∀ us, Undotted us → R.read (ts ++ us) = xs ++ R.read us

theorem Reads.read_eq {R : Reader α} {ts : List Token} {xs : List α} (h : R.Reads ts xs) :
    R.read ts = xs := by
  have he := h.read_append [] nofun
  rwa [List.append_nil, R.read_nil, List.append_nil] at he

theorem Reads.append {R : Reader α} {ts us : List Token} {xs ys : List α} (ht : R.Reads ts xs)
    (hu : R.Reads us ys) : R.Reads (ts ++ us) (xs ++ ys) := by
  refine ⟨undotted_append ht.undotted hu.undotted, fun vs hv => ?_⟩
  rw [List.append_assoc, ht.read_append _ (undotted_append hu.undotted hv), hu.read_append vs hv,
    List.append_assoc]

theorem reads_plain {ts : List Token} (h : ∀ t ∈ ts, t.isPlain) : R.Reads ts [] := by
  refine ⟨undotted_of_isPlain h, fun us _ => ?_⟩
  rw [List.nil_append]
  induction ts with
  | nil => rfl
  | cons t ts ih =>
    rw [List.cons_append, R.read_plain t _ (h t (List.mem_cons_self ..))]
    exact ih fun u hu => h u (List.mem_cons_of_mem _ hu)

theorem reads_field (f : Field) : R.Reads f.tokens (R.ofField f) := by
  refine ⟨?_, R.read_field f⟩
  unfold Field.tokens
  cases f.aggregate <;> exact nofun

theorem reads_line {k : Keyword} (hk : k = .«from» ∨ k = .join) (a : Alias) :
    R.Reads (lineHead k ++ a.tokens) (R.ofAlias a) := by
  refine ⟨nofun, fun us hu => ?_⟩
  rw [List.append_assoc, R.read_line k a us hk hu]

theorem reads_separated {β : Type} (tokens : β → List Token) (found : β → List α)
    (h : ∀ x, R.Reads (tokens x) (found x)) (xs : List β) :
    R.Reads (separated (xs.map tokens)) (xs.flatMap found) := by
  have hcomma : R.Reads [.comma, .space] [] := R.reads_plain (by decide)
  induction xs with
  | nil => exact R.reads_plain nofun
  | cons x xs ih =>
    cases xs with
    | nil => simpa [separated] using h x
    | cons y xs =>
      have he := (h x).append (hcomma.append ih)
      simpa [separated, List.intercalate_cons_cons] using he

/-- What the reader finds in fields that stand one after the other. -/
def found (fs : List Field) : List α := fs.flatMap R.ofField

theorem found_append (fs gs : List Field) : R.found (fs ++ gs) = R.found fs ++ R.found gs :=
  List.flatMap_append

theorem found_singleton (f : Field) : R.found [f] = R.ofField f :=
  List.flatMap_singleton ..

theorem found_references (fs : List Field) : references.found fs = fs.map Field.reference :=
  List.map_eq_flatMap.symm

end Reader

/-! ## Predicates -/

/-- The fields of some parts of a term. -/
def Term.fieldsIn (t : Term) (ps : List Template.Part) : List Field :=
  (Template.slots ps).filterMap fun n => t.arguments[n]?.bind Argument.field?

theorem Term.fieldsIn_cons (t : Term) (p : Template.Part) (ps : List Template.Part) :
    t.fieldsIn (p :: ps) = t.fieldsIn [p] ++ t.fieldsIn ps := by
  rw [← List.singleton_append, fieldsIn, Template.slots, List.filterMap_append,
    List.filterMap_append]
  rfl

theorem Term.fieldsIn_slot (t : Term) (n : Nat) :
    t.fieldsIn [.slot n] = (t.arguments[n]?.bind Argument.field?).toList := by
  show [n].filterMap _ = _
  rw [List.filterMap_cons]
  cases t.arguments[n]?.bind Argument.field? <;> rfl

namespace Reader

variable {α : Type} (R : Reader α)

theorem reads_spells {t : Term} {p : Template.Part} {ts : List Token} (h : t.Spells p ts) :
    R.Reads ts (R.found (t.fieldsIn [p])) := by
  cases h with
  | text s => exact R.reads_plain (by simp [Token.isPlain])
  | absent h =>
    rw [Term.fieldsIn_slot, h]
    exact R.reads_plain nofun
  | field h =>
    rw [Term.fieldsIn_slot, h]
    exact R.found_singleton _ ▸ R.reads_field _
  | inlined h _ | bound h _ =>
    rw [Term.fieldsIn_slot, h]
    exact R.reads_plain (by simp [Token.isPlain])

theorem reads_spelled {t : Term} {ps : List Template.Part} {ts : List Token}
    (h : t.Spelled ps ts) : R.Reads ts (R.found (t.fieldsIn ps)) := by
  induction h with
  | nil => exact R.reads_plain nofun
  | cons hp _ ih =>
    rw [Term.fieldsIn_cons, R.found_append]
    exact (R.reads_spells hp).append ih

theorem reads_operand {p : Predicate} {ts : List Token} {xs : List α} (h : R.Reads ts xs) :
    R.Reads (p.operand ts) xs := by
  have hl : R.Reads [.lparen] [] := R.reads_plain (by decide)
  have hr : R.Reads [.rparen] [] := R.reads_plain (by decide)
  unfold Predicate.operand
  split
  · simpa using (hl.append h).append hr
  · exact h

/-- **The fields of a predicate** stand in its tokens in the order in which the tree has them. -/
theorem reads_predicate {style : ParamStyle} {next : Nat} {p : Predicate} {f : Fragment}
    (h : p.fragment style next = .ok f) : R.Reads f.tokens (R.found p.fields) := by
  induction p generalizing next f with
  | term t => exact R.reads_spelled (Term.spelled_of_fragment h)
  | combine logic p q ihp ihq =>
    have hc : R.Reads [.space, .keyword logic.keyword, .space] [] := by
      apply R.reads_plain
      cases logic <;> decide
    obtain ⟨g, k, hg, hk, -, he⟩ := Predicate.fragment_combine h
    have hp := R.reads_operand (p := p) (ihp hg)
    have hq := R.reads_operand (p := q) (ihq hk)
    rw [he, Predicate.fields, R.found_append]
    exact hp.append (hc.append hq)

/-! ## Statements -/

theorem reads_fields (fs : List Field) :
    R.Reads (separated (fs.map Field.tokens)) (R.found fs) :=
  R.reads_separated Field.tokens R.ofField R.reads_field fs

theorem reads_orderItem (i : OrderItem) : R.Reads i.tokens (R.ofField i.field) := by
  obtain ⟨f, d⟩ := i
  have hd : ∀ ts : List Token, (∀ t ∈ ts, t.isPlain) → R.Reads (f.tokens ++ ts) (R.ofField f) := by
    intro ts hts
    simpa using (R.reads_field f).append (R.reads_plain hts)
  rcases d with _ | _ | _
  · exact hd [] nofun
  · exact hd [.space, .keyword .asc] (by decide)
  · exact hd [.space, .keyword .desc] (by decide)

theorem reads_clauseHead {k : Keyword} (hk : (Token.keyword k).isPlain) :
    R.Reads (clauseHead k) [] := by
  apply R.reads_plain
  simpa [clauseHead, Token.isPlain] using hk

theorem reads_listTokens {β : Type} {k : Keyword} (hk : (Token.keyword k).isPlain)
    (tokens : β → List Token) (found : β → List α) (h : ∀ x, R.Reads (tokens x) (found x))
    (xs : List β) :
    R.Reads (Statement.listTokens k (xs.map tokens)) (xs.flatMap found) := by
  cases xs with
  | nil => exact R.reads_plain nofun
  | cons x xs => exact (R.reads_clauseHead hk).append (R.reads_separated tokens found h (x :: xs))

theorem reads_predicateFragment {style : ParamStyle} {k : Keyword} {next : Nat}
    {p : Option Predicate} {f : Fragment} (hk : (Token.keyword k).isPlain)
    (h : Statement.predicateFragment style k next p = .ok f) :
    R.Reads f.tokens (R.found (Statement.fieldsOf p)) := by
  rcases Statement.tokens_of_predicateFragment h with ⟨rfl, he⟩ | ⟨q, g, rfl, hg, he⟩
  · rw [he]
    exact R.reads_plain nofun
  · rw [he]
    exact (R.reads_clauseHead hk).append (R.reads_predicate hg)

theorem reads_joinHead (j : Join) : R.Reads j.headTokens (R.ofAlias j.joined) := by
  have hk : R.Reads [.newline, .keyword j.kind.keyword, .space] [] := by
    apply R.reads_plain
    cases j.kind <;> decide
  exact hk.append (R.reads_line (Or.inr rfl) j.joined)

/-- What a reader finds in a join. -/
def foundJoin (j : Join) : List α :=
  R.ofAlias j.joined ++ R.found (Statement.fieldsOf j.condition)

theorem reads_join {style : ParamStyle} {next : Nat} {j : Join} {f : Fragment}
    (h : j.fragment style next = .ok f) : R.Reads f.tokens (R.foundJoin j) := by
  rcases Join.tokens_of_fragment h with ⟨hc, he⟩ | ⟨p, g, hc, hg, he⟩
  · rw [he, foundJoin, hc]
    simpa [Statement.fieldsOf, found] using R.reads_joinHead j
  · have hon : R.Reads [.space, .keyword .«on», .space] [] := R.reads_plain (by decide)
    rw [he, foundJoin, hc]
    exact (R.reads_joinHead j).append (hon.append (R.reads_predicate hg))

theorem reads_joins {style : ParamStyle} {next : Nat} {js : List Join} {f : Fragment}
    (h : Statement.joinsFragment style next js = .ok f) :
    R.Reads f.tokens (js.flatMap R.foundJoin) := by
  induction js generalizing next f with
  | nil =>
    obtain rfl := Except.ok.inj h
    exact R.reads_plain nofun
  | cons j js ih =>
    obtain ⟨g, k, hg, hk, he⟩ := Statement.joinsFragment_cons h
    rw [he]
    exact (R.reads_join hg).append (ih hk)

theorem reads_top (t : Option Top) : R.Reads ((t.map Top.tokens).getD []) [] := by
  apply R.reads_plain
  cases t with
  | none => exact nofun
  | some t => cases hp : t.percent <;> simp [Top.tokens, hp, Token.isPlain]

theorem reads_head (s : Statement) :
    R.Reads s.headTokens (R.found s.fields ++ R.ofAlias s.root) := by
  have hs : R.Reads [.keyword .select, .newline, .indent 1] [] := R.reads_plain (by decide)
  have hd : R.Reads (if s.distinct then [.keyword .distinct, .space] else []) [] := by
    apply R.reads_plain
    cases s.distinct <;> decide
  have hf : R.Reads (if s.fields.isEmpty then [.star]
      else separated (s.fields.map Field.tokens)) (R.found s.fields) := by
    cases s.fields with
    | nil => exact R.reads_plain (by decide)
    | cons f fs => exact R.reads_fields (f :: fs)
  have hn : R.Reads [.newline] [] := R.reads_plain (by decide)
  have hr := hn.append (R.reads_line (Or.inl rfl) s.root)
  have h := (((hs.append hd).append (R.reads_top s.top)).append hf).append hr
  simpa [Statement.headTokens, clauseHead, lineHead] using h

/-- **What a reader finds in a statement**, clause by clause in the order of the text. -/
theorem reads_statement {style : ParamStyle} {s : Statement} {f : Fragment}
    (h : s.fragment style = .ok f) :
    R.read f.tokens = R.found s.fields ++ R.ofAlias s.root ++ (s.joins.flatMap R.foundJoin ++
      (R.found (Statement.fieldsOf s.filter) ++ (R.found s.groupBy ++
        (R.found (Statement.fieldsOf s.having) ++ R.found (s.orderBy.map OrderItem.field))))) := by
  obtain ⟨js, fi, ha, hj, hf, hh, he⟩ := Statement.tokens_of_fragment h
  have hgroup : R.Reads (Statement.listTokens .groupBy (s.groupBy.map Field.tokens))
      (R.found s.groupBy) :=
    R.reads_listTokens rfl Field.tokens R.ofField R.reads_field s.groupBy
  have horder : R.Reads (Statement.listTokens .orderBy (s.orderBy.map OrderItem.tokens))
      (R.found (s.orderBy.map OrderItem.field)) := by
    rw [found, List.flatMap_map]
    exact R.reads_listTokens rfl OrderItem.tokens _ R.reads_orderItem s.orderBy
  rw [he]
  exact ((R.reads_head s).append ((R.reads_joins hj).append
    ((R.reads_predicateFragment rfl hf).append (hgroup.append
      ((R.reads_predicateFragment rfl hh).append horder))))).read_eq

end Reader

end SelectQuery
