import Mathlib.Data.Finset.Card
import SelectQuery.Metadata

/-!
# Memoization

A provider is looked at along a sequence of lookups: of each one we see the member, the reply of the
resolver if it was asked, and the answer.

* `Provider.steps_resolve`: a lookup recalls a column, or asks and fails, or asks and learns one;
* `Memoized`, `Provider.memoized_lookups`: what the lookups of one key come to, whatever is looked
  up in between;
* `Provider.columns_after`, `Provider.length_columns_after`: the memo holds what was learned;
* `Provider.filter_lookups_eq`: keys do not disturb each other;
* `Provider.Answers`: if a reply depends on the key alone, the memo does not show;
* `memoization_exact`: all this from a new provider on.
-/

namespace SelectQuery

/-! ## Lookups -/

/-- A lookup: the member, the reply of the resolver if it is asked, and the answer. -/
structure Lookup where
  member : MemberRef
  reply : Option (Except SelectError String)
  answer : Except SelectError String

namespace Lookup

def key (l : Lookup) : Entity × String := l.member.key

/-- The resolver is asked and has no column. Its error is passed on, and an empty name is one. -/
inductive Fails : Lookup → Prop
  | error (m : MemberRef) (e : SelectError) : Fails ⟨m, some (.error e), .error e⟩
  | empty (m : MemberRef) : Fails ⟨m, some (.ok ""),
      .error (.fieldResolution m.entity.name m.member "resolver returned an empty column name")⟩

/-- The resolver is asked and names a column. -/
inductive Learns (c : String) : Lookup → Prop
  | mk (m : MemberRef) (hc : c ≠ "") : Learns c ⟨m, some (.ok c), .ok c⟩

/-- The resolver is not asked. -/
inductive Recalls (c : String) : Lookup → Prop
  | mk (m : MemberRef) : Recalls c ⟨m, none, .ok c⟩

/-- The member that the resolver is asked for. -/
def asked? (l : Lookup) : Option MemberRef := l.reply.map fun _ => l.member

/-- The column that the resolver names. -/
def learned? (l : Lookup) : Option ((Entity × String) × String) :=
  match l.reply, l.answer with
  | some _, .ok c => some (l.key, c)
  | _, _ => none

end Lookup

/-- The lookups of one key: the resolver is asked until it names a column, and never again. -/
inductive Memoized : List Lookup → Prop
  | nil : Memoized []
  | fails {l : Lookup} {ls : List Lookup} (h : l.Fails) (hls : Memoized ls) : Memoized (l :: ls)
  | learns {l : Lookup} {ls : List Lookup} {c : String} (h : l.Learns c)
      (hls : ∀ k ∈ ls, k.Recalls c) : Memoized (l :: ls)

/-- What a provider makes of a reply: an empty name is a failure. -/
def Resolver.settle (m : MemberRef) : Except SelectError String → Except SelectError String
  | .ok c =>
    if c = "" then .error (failure m "resolver returned an empty column name") else .ok c
  | .error e => .error e

theorem Resolver.settle_eq_ok_iff {m : MemberRef} {x : Except SelectError String} {c : String} :
    settle m x = .ok c ↔ x = .ok c ∧ c ≠ "" := by
  cases x with
  | error e => simp [settle]
  | ok d =>
    by_cases hd : d = ""
    · simp [settle, hd, eq_comm]
    · simp only [settle, hd, if_false, Except.ok.injEq, iff_self_and]
      rintro rfl
      exact hd

namespace Provider

/-- Whether the resolver was asked shows in its questions. -/
def lookup (p : Provider) (m : MemberRef) : Lookup where
  member := m
  reply := if (p.resolve m).2.asked = p.asked then none else some (p.resolver p.asked m)
  answer := (p.resolve m).1

/-- Lookups one after the other. -/
def lookups (p : Provider) : List MemberRef → List Lookup
  | [] => []
  | m :: ms => p.lookup m :: (p.resolve m).2.lookups ms

/-- The provider after some lookups. -/
def after (p : Provider) : List MemberRef → Provider
  | [] => p
  | m :: ms => (p.resolve m).2.after ms

/-! ## One lookup -/

/-- What a lookup can be, and the provider it leaves. -/
inductive Steps (p : Provider) (m : MemberRef) (l : Lookup) : Provider → Prop
  | recalls {c : String} (h : p.columns.lookup m.key = some c) (hl : l.Recalls c) : Steps p m l p
  | fails (h : p.columns.lookup m.key = none) (hl : l.Fails)
      (hr : l.reply = some (p.resolver p.asked m)) :
      Steps p m l { p with asked := p.asked ++ [m] }
  | learns {c : String} (h : p.columns.lookup m.key = none) (hl : l.Learns c)
      (hr : l.reply = some (p.resolver p.asked m)) :
      Steps p m l { p with asked := p.asked ++ [m], columns := p.columns ++ [(m.key, c)] }

/-- The column is known, or the resolver is asked. -/
theorem lookup_eq (p : Provider) (m : MemberRef) :
    p.lookup m =
      match p.columns.lookup m.key with
      | some c => ⟨m, none, .ok c⟩
      | none => ⟨m, some (p.resolver p.asked m), Resolver.settle m (p.resolver p.asked m)⟩ := by
  cases hc : p.columns.lookup m.key with
  | some c => simp [lookup, resolve, hc]
  | none =>
    cases hr : p.resolver p.asked m with
    | error e => simp [lookup, resolve, hc, hr, Resolver.settle]
    | ok c => by_cases hempty : c = "" <;> simp [lookup, resolve, hc, hr, hempty, Resolver.settle]

theorem steps_resolve (p : Provider) (m : MemberRef) : p.Steps m (p.lookup m) (p.resolve m).2 := by
  cases hc : p.columns.lookup m.key with
  | some c =>
    have h : (p.resolve m).2 = p := by simp [resolve, hc]
    rw [lookup_eq, hc, h]
    exact .recalls hc (.mk m)
  | none =>
    cases hr : p.resolver p.asked m with
    | error e =>
      have h : (p.resolve m).2 = { p with asked := p.asked ++ [m] } := by simp [resolve, hc, hr]
      rw [lookup_eq, hc, hr, h]
      exact .fails hc (.error m e) (hr ▸ rfl)
    | ok c =>
      by_cases hempty : c = ""
      · subst hempty
        have h : (p.resolve m).2 = { p with asked := p.asked ++ [m] } := by simp [resolve, hc, hr]
        rw [lookup_eq, hc, hr, h]
        exact .fails hc (.empty m) (hr ▸ rfl)
      · have h : (p.resolve m).2 =
            { p with asked := p.asked ++ [m], columns := p.columns ++ [(m.key, c)] } := by
          simp [resolve, hc, hr, hempty]
        have hs : Resolver.settle m (.ok c) = .ok c := if_neg hempty
        rw [lookup_eq, hc, hr, h, hs]
        exact .learns hc (.mk m hempty) (hr ▸ rfl)

section Steps

variable {p q : Provider} {m : MemberRef} {l : Lookup} {k : Entity × String}

theorem Steps.resolver_eq (h : p.Steps m l q) : q.resolver = p.resolver := by
  cases h <;> rfl

theorem Steps.asked_eq (h : p.Steps m l q) (hm : l.member = m) :
    q.asked = p.asked ++ l.asked?.toList := by
  cases h with
  | recalls _ hl =>
    cases hl
    exact (List.append_nil _).symm
  | fails _ _ hr | learns _ _ hr =>
    rw [Lookup.asked?, hr, hm]
    rfl

theorem Steps.columns_eq (h : p.Steps m l q) (hm : l.member = m) :
    q.columns = p.columns ++ l.learned?.toList := by
  cases h with
  | recalls _ hl =>
    cases hl
    exact (List.append_nil _).symm
  | fails _ hl =>
    cases hl <;> exact (List.append_nil _).symm
  | learns _ hl =>
    cases hl
    rw [← hm]
    rfl

theorem Steps.reply_eq (h : p.Steps m l q) {x : Except SelectError String}
    (hx : l.reply = some x) : x = p.resolver p.asked m := by
  cases h with
  | recalls _ hl =>
    cases hl
    cases hx
  | fails _ _ hr | learns _ _ hr =>
    rw [hx] at hr
    exact Option.some.inj hr

/-- A known column is recalled. -/
theorem Steps.recalls_of_lookup_eq_some (h : p.Steps m l q) {c : String}
    (hc : p.columns.lookup m.key = some c) : l.Recalls c := by
  cases h with
  | recalls h hl =>
    rw [hc] at h
    exact Option.some.inj h ▸ hl
  | fails h | learns h =>
    rw [hc] at h
    cases h

/-- A key without a column is asked for, and has one if the resolver names one. -/
theorem Steps.of_lookup_eq_none (h : p.Steps m l q) (hn : p.columns.lookup m.key = none) :
    l.Fails ∧ q.columns.lookup m.key = none ∨
      ∃ c, l.Learns c ∧ q.columns.lookup m.key = some c := by
  cases h with
  | recalls h =>
    rw [hn] at h
    cases h
  | fails _ hl => exact Or.inl ⟨hl, hn⟩
  | @learns c _ hl => exact Or.inr ⟨c, hl, by simp [List.lookup_append, hn]⟩

/-- A column that is known stays the same. -/
theorem Steps.lookup_eq_some (h : p.Steps m l q) {c : String}
    (hc : p.columns.lookup k = some c) : q.columns.lookup k = some c := by
  cases h with
  | recalls | fails => exact hc
  | learns => simp [List.lookup_append, hc]

/-- A lookup of another key learns nothing about a key. -/
theorem Steps.lookup_eq_of_ne (h : p.Steps m l q) (hk : m.key ≠ k) :
    q.columns.lookup k = p.columns.lookup k := by
  cases h with
  | recalls | fails => rfl
  | learns => simp [List.lookup_append, List.lookup_cons, beq_eq_false_iff_ne.mpr hk.symm]

theorem Steps.nodup (h : p.Steps m l q) (hp : (p.columns.map Prod.fst).Nodup) :
    (q.columns.map Prod.fst).Nodup := by
  cases h with
  | recalls | fails => exact hp
  | learns hn =>
    rw [List.map_append, List.map_singleton, List.nodup_append]
    refine ⟨hp, List.nodup_singleton _, ?_⟩
    rintro k hk j hj rfl
    obtain ⟨entry, he, rfl⟩ := List.mem_map.mp hk
    exact bne_iff_ne.mp (List.lookup_eq_none_iff.mp hn entry he) (List.mem_singleton.mp hj).symm

end Steps

/-! ## Lookups in a row -/

theorem asked_after (p : Provider) (ms : List MemberRef) :
    (p.after ms).asked = p.asked ++ (p.lookups ms).filterMap Lookup.asked? := by
  induction ms generalizing p with
  | nil => exact (List.append_nil _).symm
  | cons m ms ih =>
    rw [after, ih, (p.steps_resolve m).asked_eq rfl, lookups, List.filterMap_cons]
    cases (p.lookup m).asked? <;> simp

/-- **The memo holds what was learned**, and nothing else. -/
theorem columns_after (p : Provider) (ms : List MemberRef) :
    (p.after ms).columns = p.columns ++ (p.lookups ms).filterMap Lookup.learned? := by
  induction ms generalizing p with
  | nil => exact (List.append_nil _).symm
  | cons m ms ih =>
    rw [after, ih, (p.steps_resolve m).columns_eq rfl, lookups, List.filterMap_cons]
    cases (p.lookup m).learned? <;> simp

/-- The resolver is asked with the questions before in view. -/
theorem reply_eq_of_lookups_eq {p : Provider} {ms : List MemberRef} {before after : List Lookup}
    {l : Lookup} (h : p.lookups ms = before ++ l :: after) {x : Except SelectError String}
    (hx : l.reply = some x) :
    x = p.resolver (p.asked ++ before.filterMap Lookup.asked?) l.member := by
  induction ms generalizing p before with
  | nil => simp [lookups] at h
  | cons m ms ih =>
    cases before with
    | nil =>
      obtain ⟨rfl, -⟩ := List.cons.inj h
      rw [List.filterMap_nil, List.append_nil]
      exact (p.steps_resolve m).reply_eq hx
    | cons b before =>
      obtain ⟨rfl, ht⟩ : p.lookup m = b ∧ (p.resolve m).2.lookups ms = before ++ l :: after :=
        List.cons.inj h
      have hs := p.steps_resolve m
      rw [ih ht, hs.resolver_eq, hs.asked_eq rfl, List.filterMap_cons]
      cases (p.lookup m).asked? <;> simp

theorem nodup_columns_after {p : Provider} (hp : (p.columns.map Prod.fst).Nodup)
    (ms : List MemberRef) : ((p.after ms).columns.map Prod.fst).Nodup := by
  induction ms generalizing p with
  | nil => exact hp
  | cons m ms ih => exact ih ((p.steps_resolve m).nodup hp)

theorem filter_lookups_of_eq (p : Provider) {m : MemberRef} {k : Entity × String} (h : m.key = k)
    (ms : List MemberRef) : (p.lookups (m :: ms)).filter (·.key = k) =
      p.lookup m :: ((p.resolve m).2.lookups ms).filter (·.key = k) :=
  List.filter_cons_of_pos (decide_eq_true h)

theorem filter_lookups_of_ne (p : Provider) {m : MemberRef} {k : Entity × String} (h : m.key ≠ k)
    (ms : List MemberRef) : (p.lookups (m :: ms)).filter (·.key = k) =
      ((p.resolve m).2.lookups ms).filter (·.key = k) :=
  List.filter_cons_of_neg fun e => h (of_decide_eq_true e)

/-- A column that is known is recalled. -/
theorem recalls_of_mem_lookups {p : Provider} {k : Entity × String} {c : String}
    (hc : p.columns.lookup k = some c) {ms : List MemberRef} {l : Lookup}
    (hl : l ∈ p.lookups ms) (hk : l.key = k) : l.Recalls c := by
  induction ms generalizing p with
  | nil => cases hl
  | cons m ms ih =>
    have hs := p.steps_resolve m
    rcases List.mem_cons.mp hl with rfl | hl
    · subst hk
      exact hs.recalls_of_lookup_eq_some hc
    · exact ih (hs.lookup_eq_some hc) hl

/-- **The lookups of a key that is not known yet**, whatever is looked up in between. -/
theorem memoized_lookups {p : Provider} {k : Entity × String} (hk : p.columns.lookup k = none)
    (ms : List MemberRef) : Memoized ((p.lookups ms).filter (·.key = k)) := by
  induction ms generalizing p with
  | nil => exact .nil
  | cons m ms ih =>
    have hs := p.steps_resolve m
    by_cases hm : m.key = k
    · rw [filter_lookups_of_eq p hm]
      subst hm
      rcases hs.of_lookup_eq_none hk with ⟨hl, hn⟩ | ⟨c, hl, hc⟩
      · exact .fails hl (ih hn)
      · refine .learns hl fun j hj => ?_
        obtain ⟨hj, he⟩ := List.mem_filter.mp hj
        exact recalls_of_mem_lookups hc hj (of_decide_eq_true he)
    · rw [filter_lookups_of_ne p hm]
      exact ih ((hs.lookup_eq_of_ne hm).trans hk)

end Provider

/-! ## The size of the memo -/

theorem Lookup.of_learned?_eq_some {l : Lookup} {k : Entity × String} {c : String}
    (h : l.learned? = some (k, c)) : l.key = k ∧ l.answer.isOk = true := by
  unfold learned? at h
  split at h
  · next c' _ ha =>
    rw [ha]
    exact ⟨(Prod.mk.inj (Option.some.inj h)).1, rfl⟩
  · cases h

theorem Lookup.Learns.learned?_eq {l : Lookup} {c : String} (h : l.Learns c) :
    l.learned? = some (l.key, c) := by
  cases h
  rfl

theorem Memoized.exists_learns {ls : List Lookup} (h : Memoized ls) {l : Lookup} (hl : l ∈ ls)
    (hok : l.answer.isOk = true) : ∃ k ∈ ls, ∃ c, k.Learns c := by
  induction h with
  | nil => cases hl
  | fails hf _ ih =>
    rcases List.mem_cons.mp hl with rfl | hl
    · cases hf <;> cases hok
    · obtain ⟨k, hk, hc⟩ := ih hl
      exact ⟨k, List.mem_cons_of_mem _ hk, hc⟩
  | learns hc _ => exact ⟨_, List.mem_cons_self .., _, hc⟩

namespace Provider

/-- The keys that are learned are those that are answered. -/
theorem mem_learned_iff {p : Provider} (hp : p.columns = []) (ms : List MemberRef)
    (k : Entity × String) :
    k ∈ ((p.lookups ms).filterMap Lookup.learned?).map Prod.fst ↔
      k ∈ ((p.lookups ms).filter (·.answer.isOk)).map Lookup.key := by
  constructor
  · intro h
    obtain ⟨⟨_, c⟩, he, rfl⟩ := List.mem_map.mp h
    obtain ⟨l, hl, hc⟩ := List.mem_filterMap.mp he
    obtain ⟨hkey, hok⟩ := Lookup.of_learned?_eq_some hc
    exact List.mem_map.mpr ⟨l, List.mem_filter.mpr ⟨hl, hok⟩, hkey⟩
  · intro h
    obtain ⟨l, hl, rfl⟩ := List.mem_map.mp h
    obtain ⟨hl, hok⟩ := List.mem_filter.mp hl
    have hnone : p.columns.lookup l.key = none := by
      rw [hp]
      rfl
    obtain ⟨j, hj, c, hc⟩ := (memoized_lookups hnone ms).exists_learns
      (List.mem_filter.mpr ⟨hl, decide_eq_true rfl⟩) hok
    obtain ⟨hj, he⟩ := List.mem_filter.mp hj
    rw [← of_decide_eq_true he]
    exact List.mem_map.mpr ⟨_, List.mem_filterMap.mpr ⟨j, hj, hc.learned?_eq⟩, rfl⟩

/-- **The memo has one column for each key that was answered.** -/
theorem length_columns_after {p : Provider} (hp : p.columns = []) (ms : List MemberRef) :
    (p.after ms).columns.length =
      (((p.lookups ms).filter (·.answer.isOk)).map Lookup.key).toFinset.card := by
  have hn : ((p.after ms).columns.map Prod.fst).Nodup :=
    nodup_columns_after (by rw [hp]; exact List.nodup_nil) ms
  have hmem : ((p.after ms).columns.map Prod.fst).toFinset =
      (((p.lookups ms).filter (·.answer.isOk)).map Lookup.key).toFinset := by
    ext k
    rw [List.mem_toFinset, List.mem_toFinset, columns_after, hp, List.nil_append,
      mem_learned_iff hp]
  rw [← hmem, List.toFinset_card_of_nodup hn, List.length_map]

/-! ## Keys do not disturb each other -/

/-- Providers with the same column for a key, and the same reply to it, look it up alike. -/
theorem lookup_congr {p q : Provider} {m : MemberRef}
    (hc : p.columns.lookup m.key = q.columns.lookup m.key)
    (hr : p.resolver p.asked m = q.resolver q.asked m) : p.lookup m = q.lookup m := by
  rw [lookup_eq, lookup_eq, hc, hr]

/-- Providers that agree on a key, if the resolver looks at the questions for the key only. -/
theorem filter_lookups_eq {r : Resolver} {k : Entity × String}
    (hr : ∀ asked m, m.key = k → r asked m = r (asked.filter (·.key = k)) m) {p q : Provider}
    (hp : p.resolver = r) (hq : q.resolver = r)
    (hc : p.columns.lookup k = q.columns.lookup k)
    (ha : p.asked.filter (·.key = k) = q.asked.filter (·.key = k)) (ms : List MemberRef) :
    (p.lookups ms).filter (·.key = k) = q.lookups (ms.filter (·.key = k)) := by
  induction ms generalizing p q with
  | nil => rfl
  | cons m ms ih =>
    have hps := p.steps_resolve m
    have hqs := q.steps_resolve m
    by_cases hm : m.key = k
    · have hreply : p.resolver p.asked m = q.resolver q.asked m := by
        rw [hp, hq, hr _ m hm, hr q.asked m hm, ha]
      have hl : p.lookup m = q.lookup m := lookup_congr (by rw [hm, hc]) hreply
      have hms : (m :: ms).filter (·.key = k) = m :: ms.filter (·.key = k) :=
        List.filter_cons_of_pos (decide_eq_true hm)
      rw [filter_lookups_of_eq p hm, hms, lookups, hl]
      congr 1
      apply ih (hps.resolver_eq.trans hp) (hqs.resolver_eq.trans hq)
      · rw [hps.columns_eq rfl, hqs.columns_eq rfl, List.lookup_append, List.lookup_append, hc, hl]
      · rw [hps.asked_eq rfl, hqs.asked_eq rfl, List.filter_append, List.filter_append, ha, hl]
    · have hms : (m :: ms).filter (·.key = k) = ms.filter (·.key = k) :=
        List.filter_cons_of_neg fun e => hm (of_decide_eq_true e)
      have hkey : (p.lookup m).member.key ≠ k := hm
      have hnew : (p.lookup m).asked?.toList.filter (·.key = k) = [] := by
        cases h : (p.lookup m).reply <;> simp [Lookup.asked?, h, hkey]
      rw [filter_lookups_of_ne p hm, hms]
      apply ih (hps.resolver_eq.trans hp) hq ((hps.lookup_eq_of_ne hm).trans hc)
      rw [hps.asked_eq rfl, List.filter_append, hnew, List.append_nil, ha]

/-! ## Replies that depend on the key alone -/

/-- The resolver replies to each key in one way, and the memo holds such replies. -/
structure Answers (f : Entity × String → Except SelectError String) (p : Provider) : Prop where
  resolver_eq : ∀ asked m, p.resolver asked m = f m.key
  column_eq : ∀ k c, p.columns.lookup k = some c → f k = .ok c ∧ c ≠ ""

section Answers

variable {f : Entity × String → Except SelectError String} {p q : Provider} {m : MemberRef}
  {l : Lookup}

theorem Steps.answers (h : p.Steps m l q) (hp : p.Answers f) : q.Answers f := by
  constructor
  case resolver_eq =>
    rw [h.resolver_eq]
    exact hp.resolver_eq
  case column_eq =>
    intro k c hc
    cases h with
    | recalls | fails => exact hp.column_eq k c hc
    | @learns d hn hl hr =>
      obtain ⟨_, hd⟩ := hl
      have hf : Except.ok d = f m.key := (Option.some.inj hr).trans (hp.resolver_eq _ _)
      rw [List.lookup_append] at hc
      rcases Option.or_eq_some_iff.mp hc with hc | ⟨-, hc⟩
      · exact hp.column_eq k c hc
      · by_cases hk : k = m.key
        · subst hk
          obtain rfl : d = c := by simpa using hc
          exact ⟨hf.symm, hd⟩
        · simp [List.lookup_cons, beq_eq_false_iff_ne.mpr hk] at hc

/-- The answer is the reply, whether the resolver is asked or the column is known. -/
theorem Answers.answer_eq (hp : p.Answers f) (m : MemberRef) :
    (p.lookup m).answer = Resolver.settle m (f m.key) := by
  rw [lookup_eq, hp.resolver_eq]
  cases hc : p.columns.lookup m.key with
  | some c => exact (Resolver.settle_eq_ok_iff.mpr (hp.column_eq _ _ hc)).symm
  | none => rfl

theorem Answers.after (hp : p.Answers f) (ms : List MemberRef) : (p.after ms).Answers f := by
  induction ms generalizing p with
  | nil => exact hp
  | cons m ms ih => exact ih ((p.steps_resolve m).answers hp)

/-- **The memo does not show**: each lookup is answered as if the resolver were asked. -/
theorem Answers.answers_eq (hp : p.Answers f) (ms : List MemberRef) :
    (p.lookups ms).map Lookup.answer = ms.map fun m => Resolver.settle m (f m.key) := by
  induction ms generalizing p with
  | nil => rfl
  | cons m ms ih =>
    rw [lookups, List.map_cons, List.map_cons, hp.answer_eq, ih ((p.steps_resolve m).answers hp)]

end Answers

/-! ## A new provider -/

/-- What becomes of lookups, if they start without a memo. -/
structure Memoizes (r : Resolver) (ms : List MemberRef) (ls : List Lookup) (q : Provider) :
    Prop where
  /-- There is a lookup for each member. -/
  members_eq : ls.map Lookup.member = ms
  /-- The lookups of a key, whatever is looked up in between. -/
  memoized : ∀ k, Memoized (ls.filter (·.key = k))
  /-- A reply is that of the resolver, in view of the questions before. -/
  reply_eq : ∀ before l after x, ls = before ++ l :: after → l.reply = some x →
    x = r (before.filterMap Lookup.asked?) l.member
  asked_eq : q.asked = ls.filterMap Lookup.asked?
  /-- A lookup that fails leaves nothing in the memo, and so does one that recalls a column. -/
  columns_eq : q.columns = ls.filterMap Lookup.learned?
  /-- The memo has one column for each key that is answered. -/
  length_eq : q.columns.length = ((ls.filter (·.answer.isOk)).map Lookup.key).toFinset.card

theorem map_member_lookups (p : Provider) (ms : List MemberRef) :
    (p.lookups ms).map Lookup.member = ms := by
  induction ms generalizing p with
  | nil => rfl
  | cons m ms ih => exact congrArg (m :: ·) (ih _)

theorem memoizes (r : Resolver) (ms : List MemberRef) :
    Memoizes r ms (lookups { resolver := r } ms) (after { resolver := r } ms) where
  members_eq := map_member_lookups _ ms
  memoized _ := memoized_lookups rfl ms
  reply_eq _ _ _ _ h hx := reply_eq_of_lookups_eq h hx
  asked_eq := asked_after _ ms
  columns_eq := columns_after _ ms
  length_eq := length_columns_after rfl ms

end Provider

open Provider in
/-- **Memoization is exact.** A new provider passes each key on until it gets a column, and knows it
from then on. If the resolver replies to a key in view of the questions for it only, the lookups of
other keys do not matter, and if it replies in view of nothing, the answers are its replies. -/
theorem memoization_exact (r : Resolver) (ms : List MemberRef) :
    Memoizes r ms (lookups { resolver := r } ms) (after { resolver := r } ms) ∧
    (∀ k, (∀ asked m, m.key = k → r asked m = r (asked.filter (·.key = k)) m) →
      (lookups { resolver := r } ms).filter (·.key = k) =
        lookups { resolver := r } (ms.filter (·.key = k))) ∧
    ∀ f : Entity × String → Except SelectError String, (∀ asked m, r asked m = f m.key) →
      (lookups { resolver := r } ms).map Lookup.answer =
        ms.map fun m => Resolver.settle m (f m.key) := by
  refine ⟨memoizes r ms, fun k hr => filter_lookups_eq hr rfl rfl rfl rfl ms, fun f hf => ?_⟩
  have hp : Answers f { resolver := r } := ⟨hf, nofun⟩
  exact hp.answers_eq ms

/-- Fails at first, then has no name, and then has a column. -/
def Resolver.reluctant : Resolver := fun asked m =>
  match asked.countP (·.key = m.key) with
  | 0 => .error (failure m "not available")
  | 1 => .ok ""
  | _ => .ok "Id"

theorem Resolver.reluctant_filter (k : Entity × String) (asked : List MemberRef) {m : MemberRef}
    (hm : m.key = k) : reluctant asked m = reluctant (asked.filter (·.key = k)) m := by
  have hcount : (asked.filter (·.key = k)).countP (·.key = k) = asked.countP (·.key = k) := by
    rw [List.countP_filter]
    simp
  rw [reluctant, reluctant, hm, hcount]

/-- The `id` of an entity that has its name in common with others. -/
def MemberRef.twin (key : String) : MemberRef := ⟨⟨key, "Person", "Person", []⟩, "id", .int⟩

def MemberRef.twins : List MemberRef :=
  [.twin "a", .twin "b", .twin "a", .twin "a", .twin "b", .twin "a"]

open Provider MemberRef in
/-- Of two entities with one name, the first one is answered from its third lookup on. -/
theorem memoization_exact_twins :
    (after { resolver := .reluctant } twins).asked =
      [twin "a", twin "b", twin "a", twin "a", twin "b"] ∧
    (after { resolver := .reluctant } twins).columns.length = 1 ∧
    (lookups { resolver := .reluctant } twins).filter (·.key = (twin "b").key) =
      lookups { resolver := .reluctant } [twin "b", twin "b"] ∧
    (lookups { resolver := fun _ m => .ok m.entity.key } twins).map Lookup.answer =
      [.ok "a", .ok "b", .ok "a", .ok "a", .ok "b", .ok "a"] := by
  obtain ⟨hm, hkeys, -⟩ := memoization_exact .reluctant twins
  refine ⟨by rw [hm.asked_eq]; rfl, by rw [hm.columns_eq]; rfl, ?_, ?_⟩
  · exact hkeys (twin "b").key fun asked m => Resolver.reluctant_filter _ asked
  · exact (memoization_exact _ twins).2.2 (fun k => .ok k.1.key) fun _ _ => rfl

end SelectQuery
