import SelectQuery.Entity
import SelectQuery.Error

/-!
# Member metadata

A resolver finds the column behind a member. It may answer the same question differently each
time, so it is a function of the questions asked before. A provider asks a resolver at most until
it first gets a column, and remembers that column for good. Work that needs columns runs in
`Resolving`, where the provider goes on from each question to the next, failed ones included.
-/

namespace SelectQuery

/-- Answers a question, given all earlier ones, oldest first. -/
abbrev Resolver := List MemberRef → MemberRef → Except SelectError String

namespace Resolver

/-- A member without a column, for a given reason. -/
def failure (m : MemberRef) (reason : String) : SelectError :=
  .fieldResolution m.entity.name m.member reason

/-- Reads the declarations of the entity. -/
def declared : Resolver := fun _ m =>
  match m.entity.member? m.member with
  | some d => .ok d.column
  | none => .error (failure m "member is not declared on the entity")

/-- Takes the answers to a member, found by its text, from a list: a column, or the reason of a
failure. When the list is used up the declarations answer. -/
def scripted (script : String → List (Except String String)) : Resolver := fun asked m =>
  match (script m.text)[asked.countP (·.text = m.text)]? with
  | some (.ok column) => .ok column
  | some (.error reason) => .error (failure m reason)
  | none => declared asked m

end Resolver

/-- A resolver with the questions it was asked and the columns it gave. -/
structure Provider where
  resolver : Resolver
  asked : List MemberRef := []
  columns : List ((Entity × String) × String) := []

namespace Provider

/-- The provider that every entity's own declarations answer. -/
def declared : Provider := { resolver := Resolver.declared }

/-- The column of a member and the provider after the question. Only a column is remembered, not a
failure and not an empty answer. -/
def resolve (p : Provider) (m : MemberRef) : Except SelectError String × Provider :=
  match p.columns.lookup m.key with
  | some column => (.ok column, p)
  | none =>
    let p' := { p with asked := p.asked ++ [m] }
    match p.resolver p.asked m with
    | .error e => (.error e, p')
    | .ok column =>
      if column = "" then
        (.error (Resolver.failure m "resolver returned an empty column name"), p')
      else (.ok column, { p' with columns := p'.columns ++ [(m.key, column)] })

end Provider

/-- Work that asks a provider for columns and may fail. -/
abbrev Resolving := ExceptT SelectError (StateM Provider)

namespace Resolving

/-- The outcome and the provider afterwards. -/
def runWith {α : Type} (x : Resolving α) (p : Provider) : Except SelectError α × Provider :=
  x.run p

/-- The column of a member. -/
def column (m : MemberRef) : Resolving String :=
  ExceptT.mk fun p => p.resolve m

variable {α β : Type}

theorem runWith_pure (a : α) (p : Provider) : (pure a : Resolving α).runWith p = (.ok a, p) := rfl

theorem runWith_lift (x : Except SelectError α) (p : Provider) :
    (liftM x : Resolving α).runWith p = (x, p) := rfl

/-- Work in two steps: the second one starts with the provider that the first one leaves. -/
theorem runWith_bind (x : Resolving α) (f : α → Resolving β) (p : Provider) :
    (x >>= f).runWith p =
      match x.runWith p with
      | (.ok a, q) => (f a).runWith q
      | (.error e, q) => (.error e, q) := by
  have hx : (x >>= f).runWith p = ExceptT.bindCont f (x.runWith p).1 (x.runWith p).2 := rfl
  rw [hx]
  rcases x.runWith p with ⟨_ | a, q⟩ <;> rfl

theorem runWith_bind_eq_ok_iff {x : Resolving α} {f : α → Resolving β} {p p' : Provider} {b : β} :
    (x >>= f).runWith p = (.ok b, p') ↔
      ∃ a q, x.runWith p = (.ok a, q) ∧ (f a).runWith q = (.ok b, p') := by
  rw [runWith_bind]
  rcases x.runWith p with ⟨_ | a, q⟩
  · simp
  · constructor
    · intro h
      exact ⟨a, q, rfl, h⟩
    · rintro ⟨_, _, he, h⟩
      cases he
      exact h

end Resolving

end SelectQuery
