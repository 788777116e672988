import SelectQuery.Text.Blank
import SelectQuery.Text.Quoted
import SelectQuery.Text.CaseMap
import SelectQuery.Text.Escaped
import SelectQuery.Binary64
import SelectQuery.Field
import SelectQuery.Expr
import SelectQuery.Predicate.Build
import SelectQuery.Filter
import SelectQuery.Statement.Builder
import SelectQuery.Render
import SelectQuery.Toml.Number
import SelectQuery.Toml.Date
import SelectQuery.Toml.Document
import SelectQuery.Settings.Lookup
import SelectQuery.Proofs.Draft.Fill
import SelectQuery.Proofs.Draft.Render
import SelectQuery.Proofs.Draft.Placeholders
import SelectQuery.Proofs.Numbering
import SelectQuery.Proofs.Independence
import SelectQuery.Proofs.StyleAgreement
import SelectQuery.Proofs.Reading
import SelectQuery.Proofs.Reading.Precedence
import SelectQuery.Proofs.Reading.Render
import SelectQuery.Proofs.Reachable
import SelectQuery.Proofs.References
import SelectQuery.Proofs.Scope
import SelectQuery.Proofs.Joins
import SelectQuery.Proofs.Joins.Members
import SelectQuery.Proofs.Scope.Qualifiers
import SelectQuery.Proofs.Scope.Entities
import SelectQuery.Proofs.Registry
import SelectQuery.Proofs.Scope.Runs
import SelectQuery.Proofs.Joins.Anchors
import SelectQuery.Proofs.History
import SelectQuery.Proofs.Grammar
import SelectQuery.Proofs.Grammar.Writing
import SelectQuery.Proofs.Memo
import SelectQuery.Proofs.Wording
import SelectQuery.Proofs.Wording.Clauses
import SelectQuery.Proofs.Wording.Literals
import SelectQuery.Proofs.Wording.Terms
import SelectQuery.Proofs.Wording.Conjunction
import SelectQuery.Proofs.Outline
import SelectQuery.Proofs.Outline.Composition
import SelectQuery.Proofs.Outline.Lines
import SelectQuery.Proofs.Outline.Reader
import SelectQuery.Proofs.Outline.Decoding
import SelectQuery.Proofs.Joins.Equalities
import SelectQuery.Proofs.Containment
import SelectQuery.Proofs.Containment.Quoting
import SelectQuery.Proofs.Scope.Blanks
import SelectQuery.Proofs.Sources
import SelectQuery.Proofs.Decimals
import SelectQuery.Proofs.Slots.Bounds
