/-!
# Errors

What can go wrong while a statement is put together or rendered. The reasons are text, since a
resolver reports failures in its own words; the fixed reasons are named where they arise.
-/

namespace SelectQuery

inductive SelectError where
  /-- An alias value is taken. -/
  | duplicateAlias (value : String)
  /-- A field cannot be formed. -/
  | invalidField (entity reason : String)
  /-- A member has no column. -/
  | fieldResolution (entity member reason : String)
  /-- An expression cannot serve as a join condition. -/
  | join (message expr : String)
  /-- A statement uses an alias that it does not have. -/
  | invalidState (value entity context : String)
  /-- A filter term is malformed or cannot be written. -/
  | invalidFilter (template reason : String)
  deriving DecidableEq, Repr

namespace SelectError

/-- The text of an error. -/
def message : SelectError → String
  | duplicateAlias value => s!"Alias '{value}' is already registered"
  | invalidField entity reason => s!"Invalid field on entity '{entity}': {reason}"
  | fieldResolution entity member reason =>
    s!"Cannot resolve member '{entity}.{member}': {reason}"
  | join message expr => s!"{message}: {expr}"
  | invalidState value entity context =>
    s!"Alias '{value}' for entity '{entity}' is not registered in the statement ({context})"
  | invalidFilter template reason => s!"Invalid filter '{template}': {reason}"

end SelectError

end SelectQuery
