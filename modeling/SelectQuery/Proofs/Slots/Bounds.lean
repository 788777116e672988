import SelectQuery.Proofs.Scope.Entities
import SelectQuery.Proofs.Slots.Indexing

/-!
# No index out of range

Reading the fields of a predicate takes the argument of each slot by index, and so does rendering
it, which also looks up and enters what the slot is bound to.

* `Predicate.indexedFields_eq_stopped_iff`: reading is stopped just if some slot has no argument;
* `Predicate.indexedRender_eq_stopped_iff`: the same for rendering, where values are bound. A
  literal that cannot be written out may end the work before an inlined slot is looked at;
* `slots_stay_in_range`: no predicate that can be got has such a slot, and no statement that is
  assembled from them, so that reading, validation and rendering are never stopped.
-/

namespace SelectQuery

/-! ## What stops the work -/

namespace Indexing

variable {α β : Type} {xs : List α} {n : Nat}

theorem stopped_bind (f : α → Indexing β) : (stopped >>= f) = stopped := rfl

theorem liftM_ne_stopped (x : Except SelectError α) : (liftM x : Indexing α) ≠ stopped := nofun

theorem element_of_le (h : xs.length ≤ n) : element xs n = stopped := by
  rw [element, List.getElem?_eq_none h]

/-- Taking an element does not fail, so what stops the rest stops the whole. -/
theorem element_bind_stopped {f : α → Indexing β} (hf : ∀ a, f a = stopped) :
    (element xs n >>= f) = stopped := by
  unfold element
  cases xs[n]? with
  | none => rfl
  | some a => exact hf a

theorem replace_bind_stopped {a : α} {f : List α → Indexing β} (hf : ∀ ys, f ys = stopped) :
    (replace xs n a >>= f) = stopped := by
  unfold replace
  split
  · exact hf _
  · rfl

theorem mapM_element_of_le {ns : List Nat} (hn : n ∈ ns) (h : xs.length ≤ n) :
    ns.mapM (element xs) = stopped := by
  induction ns with
  | nil => cases hn
  | cons m ns ih =>
    rw [List.mapM_cons]
    rcases List.mem_cons.mp hn with rfl | hn
    · rw [element_of_le h, stopped_bind]
    · rw [ih hn]
      exact element_bind_stopped fun _ => rfl

end Indexing

open Indexing (stopped stopped_bind)

namespace Term

variable {t : Term} {style : ParamStyle}

theorem exists_slot_of_not_inRange (h : ¬ t.InRange) :
    ∃ n ∈ Template.slots t.parts, t.arguments.length ≤ n := by
  simpa [InRange] using h

theorem indexedFields_of_not_inRange (h : ¬ t.InRange) : t.indexedFields = stopped := by
  obtain ⟨n, hn, hl⟩ := exists_slot_of_not_inRange h
  rw [indexedFields, Indexing.mapM_element_of_le hn hl, stopped_bind]

/-- Whatever comes before the slot is rendered or stops the work itself. -/
theorem indexedParts_of_le (hi : style.isInline = false) {n : Nat} {parts : List Template.Part}
    (hn : n ∈ Template.slots parts) (hl : t.arguments.length ≤ n) (table : List (Option Nat))
    (next : Nat) : t.indexedParts style table next parts = stopped := by
  induction parts generalizing table next with
  | nil => cases hn
  | cons part parts ih =>
    cases part with
    | text s => rw [indexedParts, ih hn, stopped_bind]
    | slot m =>
      rw [indexedParts]
      rcases List.mem_cons.mp hn with rfl | hn
      · rw [Indexing.element_of_le hl, stopped_bind]
      · apply Indexing.element_bind_stopped
        intro a
        cases a with
        | field f =>
          simp only
          rw [ih hn, stopped_bind]
        | literal v =>
          simp only [hi, Bool.false_eq_true, ↓reduceIte]
          apply Indexing.element_bind_stopped
          intro bound
          split
          · rw [ih hn, stopped_bind]
          · apply Indexing.replace_bind_stopped
            intro table
            rw [ih hn, stopped_bind]

theorem indexedFragment_of_not_inRange (hi : style.isInline = false) (h : ¬ t.InRange)
    (next : Nat) : t.indexedFragment style next = stopped := by
  obtain ⟨n, hn, hl⟩ := exists_slot_of_not_inRange h
  exact indexedParts_of_le hi hn hl _ next

end Term

namespace Predicate

variable {p : Predicate}

theorem indexedFields_of_not_inRange (h : ¬ p.InRange) : p.indexedFields = stopped := by
  induction p with
  | term t => exact Term.indexedFields_of_not_inRange (mt inRange_term.mpr h)
  | combine logic p q ihp ihq =>
    by_cases hp : p.InRange
    · have hq : ¬ q.InRange := fun hq => h (inRange_combine.mpr ⟨hp, hq⟩)
      rw [indexedFields, indexedFields_eq hp, pure_bind, ihq hq, stopped_bind]
    · rw [indexedFields, ihp hp, stopped_bind]

/-- **Reading the fields is stopped** just if some slot has no argument. -/
theorem indexedFields_eq_stopped_iff : p.indexedFields = stopped ↔ ¬ p.InRange := by
  refine ⟨fun h hp => ?_, indexedFields_of_not_inRange⟩
  rw [indexedFields_eq hp] at h
  exact Indexing.liftM_ne_stopped (.ok p.fields) h

theorem indexedFragment_of_not_inRange {style : ParamStyle} (hs : style ≠ .inline)
    (h : ¬ p.InRange) (next : Nat) : p.indexedFragment style next = stopped := by
  induction p generalizing next with
  | term t =>
    have hi := ParamStyle.isInline_eq_false hs
    exact Term.indexedFragment_of_not_inRange hi (mt inRange_term.mpr h) next
  | combine logic p q ihp ihq =>
    by_cases hp : p.InRange
    · have hq : ¬ q.InRange := fun hq => h (inRange_combine.mpr ⟨hp, hq⟩)
      -- the left operand is rendered, since values are only bound
      obtain ⟨f, hf⟩ := Draft.fill_eq_ok hs next (p.draft 0)
      rw [← fragment_eq_fill] at hf
      have hl : (liftM (Except.ok f : Except SelectError Fragment) : Indexing Fragment) = pure f :=
        rfl
      rw [indexedFragment, indexedFragment_eq hp, hf, hl, pure_bind, ihq hq, stopped_bind]
    · rw [indexedFragment, ihp hp, stopped_bind]

/-- **Rendering with bound values is stopped** just if some slot has no argument. -/
theorem indexedRender_eq_stopped_iff {l : Layout} (hl : l.paramStyle ≠ .inline) :
    p.indexedRender l = stopped ↔ ¬ p.InRange := by
  constructor
  · intro h hp
    rw [indexedRender_eq hp] at h
    exact Indexing.liftM_ne_stopped (p.render l) h
  · intro h
    rw [indexedRender, indexedFragment_of_not_inRange hl h, stopped_bind]

end Predicate

/-- **Slots stay in range.** However a predicate is got, each slot of its terms has an argument. AND
and OR keep this, and so does every operation and every call that is given such predicates. So in no
statement that is assembled does an index stop the work: what reading, validation and rendering come
to is what they come to without indices. An index out of range would stop reading, and rendering
with bound values. It is indices that are spoken of, not memory: the blanks of an indentation may
be more than there is room for. -/
theorem slots_stay_in_range :
    (∀ p : Predicate, p.Formed → p.InRange) ∧
    (∀ p q : Predicate, p.InRange → q.InRange → (p.and q).InRange ∧ (p.or q).InRange) ∧
    (∀ (s t : Statement) (op : Statement.Op), s.apply op = .ok t →
      (t.InRange ↔ s.InRange ∧ ∀ p ∈ op.predicates, p.InRange)) ∧
    (∀ (s t : Statement) (c : Statement.Call) (p q : Provider),
      (s.call c).runWith p = (.ok t, q) → s.InRange → (∀ r ∈ c.predicates, r.InRange) →
        t.InRange) ∧
    (∀ s : Statement, s.Assembled →
      (∀ ops, (∀ op ∈ ops, ∀ p ∈ op.predicates, p.Formed) → (s.run ops).Assembled) ∧
      ∀ (p : Provider) (cs : List Statement.Call), (∀ c ∈ cs, ∀ q ∈ c.predicates, q.Formed) →
        (s.runCalls p cs).1.Assembled) ∧
    (∀ p : Predicate, p.Formed → p.indexedFields.outcome = some (.ok p.fields) ∧
      (∀ a, (p.indexedReferences a).outcome = some (.ok (p.references a))) ∧
      ∀ l, (p.indexedRender l).outcome = some (p.render l)) ∧
    (∀ s : Statement, s.Assembled → s.InRange ∧ s.indexedValidate.outcome = some s.validate ∧
      ∀ l, (s.indexedRender l).outcome = some (s.render l)) ∧
    ∀ p : Predicate, (p.indexedFields.outcome = none ↔ ¬ p.InRange) ∧
      ∀ l, l.paramStyle ≠ .inline → ((p.indexedRender l).outcome = none ↔ ¬ p.InRange) := by
  refine ⟨fun p hp => hp.inRange, fun p q hp hq => ?_, fun s t op => ?_,
    fun s t c p q h hs hc => ?_, fun s hs => ?_, fun p hp => ?_, fun s hs => ?_, fun p => ?_⟩
  · exact ⟨Predicate.inRange_combine.mpr ⟨hp, hq⟩, Predicate.inRange_combine.mpr ⟨hp, hq⟩⟩
  · exact Statement.inRange_of_apply_iff
  · exact hs.call hc h
  · exact ⟨fun ops hops => hs.run hops, fun p cs hc => hs.runCalls p hc⟩
  · have hr := hp.inRange
    refine ⟨?_, fun a => ?_, fun l => ?_⟩
    · rw [Predicate.indexedFields_eq hr]
      rfl
    · rw [Predicate.indexedReferences_eq hr]
      rfl
    · rw [Predicate.indexedRender_eq hr]
      rfl
  · have hr := hs.inRange
    refine ⟨hr, ?_, fun l => ?_⟩
    · rw [Statement.indexedValidate_eq hr]
      rfl
    · rw [Statement.indexedRender_eq hr]
      rfl
  · exact ⟨Predicate.indexedFields_eq_stopped_iff, fun l hl =>
      Predicate.indexedRender_eq_stopped_iff hl⟩

/-- People with their passports, filtered by two terms that use a slot twice. -/
def Statement.doubledOwners : Statement :=
  ((ofRoot .people).runCalls { resolver := fun _ m => .ok m.member }
    (ownerCalls ++ [.edit (.filter (.doubled (.int 1) .null))])).1

/-- A slot beyond the only argument. -/
def Term.beyond : Term := .ofParts [.slot 1] [.literal .null]

/-- A join from an equality, and terms read from templates. A term that no constructor gives takes
its statement out of range, and stops the work. -/
theorem slots_stay_in_range_doubled :
    (Predicate.doubled (.int 1) .null).InRange ∧
    Statement.doubledOwners.InRange ∧
    Statement.doubledOwners.indexedValidate.outcome = some (.ok ()) ∧
    (∃ r, (Statement.doubledOwners.indexedRender {}).outcome = some (.ok r) ∧
      r.commandText = "SELECT\n    pe.id\nFROM\n    Person pe\n" ++
        "LEFT JOIN\n    Passport pa ON pa.owner = pe.id\n" ++
        "WHERE\n    \x7b0\x7d <> \x7b0\x7d AND \x7b1\x7d <> \x7b1\x7d" ∧
      r.parameters = [⟨0, .int 1⟩, ⟨1, .null⟩]) ∧
    ¬ ((Statement.ofRoot .people).edit (.filter (.term .beyond))).InRange ∧
    (Predicate.term .beyond).indexedFields.outcome = none ∧
    ((Predicate.term .beyond).indexedRender {}).outcome = none := by
  obtain ⟨hformed, -, hop, -, hruns, -, hstatement, hstops⟩ := slots_stay_in_range
  have ht : ∀ v, Term.ofTemplate "\x7b0\x7d <> \x7b0\x7d" [.literal v] = .ok (.doubled v) :=
    fun _ => rfl
  have hd : (Predicate.doubled (.int 1) .null).Formed := .and (.template (ht _)) (.template (ht _))
  have hc : ∀ c ∈ Statement.ownerCalls ++ [.edit (.filter (.doubled (.int 1) .null))],
      ∀ q ∈ c.predicates, q.Formed := by
    simpa [Statement.ownerCalls, Statement.Call.predicates, Statement.Edit.predicates] using hd
  have hs : Statement.doubledOwners.Assembled := (hruns _ (.ofRoot .people)).2 _ _ hc
  obtain ⟨hrange, hvalidate, hrender⟩ := hstatement _ hs
  have hbeyond : ¬ (Predicate.term .beyond).InRange := by decide
  have hedit : (Statement.ofRoot .people).apply (.edit (.filter (.term .beyond))) = .ok _ := rfl
  refine ⟨hformed _ hd, hrange, hvalidate, ⟨_, hrender {}, ?_, rfl⟩, fun h => ?_,
    (hstops _).1.mpr hbeyond, ((hstops _).2 {} (by decide)).mpr hbeyond⟩
  · decide +kernel
  · exact hbeyond (((hop _ _ _ hedit).mp h).2 _ (List.mem_singleton_self _))

end SelectQuery
