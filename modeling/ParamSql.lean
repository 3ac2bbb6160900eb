import ParamSql.Affinity
import ParamSql.Alteration
import ParamSql.Column
import ParamSql.Command.Allotment
import ParamSql.Command.Grid
import ParamSql.Command.Invocation
import ParamSql.Command.Program
import ParamSql.Command.Report
import ParamSql.Command.Surroundings
import ParamSql.Config
import ParamSql.Connection
import ParamSql.Database.Altering
import ParamSql.Database.Change
import ParamSql.Database.Definition
import ParamSql.Database.Phrase
import ParamSql.Database.Query
import ParamSql.Database.Reference
import ParamSql.Database.Refusal
import ParamSql.Database.Relation
import ParamSql.Database.Renaming
import ParamSql.Database.RowChange
import ParamSql.Database.Scope
import ParamSql.Database.Session
import ParamSql.Database.Source
import ParamSql.Database.Store
import ParamSql.Decimal.Layout
import ParamSql.Decimal.Numeral
import ParamSql.Decimal.Power
import ParamSql.Decimal.Reading
import ParamSql.Decimal.Shortest
import ParamSql.Directory
import ParamSql.Document.Alteration
import ParamSql.Document.Column
import ParamSql.Document.Config
import ParamSql.Document.Decoder
import ParamSql.Document.Hexadecimal
import ParamSql.Document.JsonReader
import ParamSql.Document.JsonWriter
import ParamSql.Document.Node
import ParamSql.Document.Predicate
import ParamSql.Document.Schema
import ParamSql.Document.Selection
import ParamSql.Document.Statement
import ParamSql.Document.Toml.Scalar
import ParamSql.Document.Toml.Table
import ParamSql.Document.Toml.Text
import ParamSql.Document.TomlReader
import ParamSql.Error
import ParamSql.Executor
import ParamSql.Expression
import ParamSql.Failure
import ParamSql.LogFilter
import ParamSql.Main
import ParamSql.Operator
import ParamSql.Predicate
import ParamSql.Proofs.Alteration.Strict
import ParamSql.Proofs.Alteration.Word
import ParamSql.Proofs.Argument
import ParamSql.Proofs.Boolean.Comparison
import ParamSql.Proofs.Boolean.Condition
import ParamSql.Proofs.Boolean.Expression
import ParamSql.Proofs.Boolean.Name
import ParamSql.Proofs.Boolean.Reader
import ParamSql.Proofs.Builders
import ParamSql.Proofs.Calls
import ParamSql.Proofs.Command.Grid
import ParamSql.Proofs.Command.Run
import ParamSql.Proofs.Command.Sharing
import ParamSql.Proofs.Connection.Creating
import ParamSql.Proofs.Connection.Execution
import ParamSql.Proofs.Connection.Filtering
import ParamSql.Proofs.Connection.RowText
import ParamSql.Proofs.Connection.Storing
import ParamSql.Proofs.Database.Creating
import ParamSql.Proofs.Database.Reading
import ParamSql.Proofs.Decimal.Finite
import ParamSql.Proofs.Decimal.Literal
import ParamSql.Proofs.Decimal.Numeral
import ParamSql.Proofs.Decimal.Rounding
import ParamSql.Proofs.Declaration.Reader
import ParamSql.Proofs.Declaration.Table
import ParamSql.Proofs.Defaults
import ParamSql.Proofs.Document.Fields
import ParamSql.Proofs.Document.Filters
import ParamSql.Proofs.Document.Kind
import ParamSql.Proofs.Document.LeftOut
import ParamSql.Proofs.Document.Numbers
import ParamSql.Proofs.Document.OneOrMany
import ParamSql.Proofs.Document.Places
import ParamSql.Proofs.Document.Reencoding
import ParamSql.Proofs.Document.Reordering
import ParamSql.Proofs.Document.Represents
import ParamSql.Proofs.Document.Respelling
import ParamSql.Proofs.Document.Roundtrip
import ParamSql.Proofs.Document.UnknownOperator
import ParamSql.Proofs.Document.Yields
import ParamSql.Proofs.Expression.Completeness
import ParamSql.Proofs.Expression.Ending
import ParamSql.Proofs.Expression.Grammar
import ParamSql.Proofs.Expression.Identifier
import ParamSql.Proofs.Expression.Locality
import ParamSql.Proofs.Expression.Longest
import ParamSql.Proofs.Expression.Refusal
import ParamSql.Proofs.Expression.Safety
import ParamSql.Proofs.Expression.Soundness
import ParamSql.Proofs.Expression.Spacing
import ParamSql.Proofs.Expression.Token
import ParamSql.Proofs.Expression.Writing
import ParamSql.Proofs.Failure
import ParamSql.Proofs.Legible.Clause
import ParamSql.Proofs.Legible.Condition
import ParamSql.Proofs.Legible.Query
import ParamSql.Proofs.Legible.Statement
import ParamSql.Proofs.Legible.Text
import ParamSql.Proofs.Objects
import ParamSql.Proofs.Parentheses.Balance
import ParamSql.Proofs.Parentheses.Clause
import ParamSql.Proofs.Parentheses.Condition
import ParamSql.Proofs.Parentheses.Statement
import ParamSql.Proofs.Placeholder.Binding
import ParamSql.Proofs.Placeholder.Clause
import ParamSql.Proofs.Placeholder.Condition
import ParamSql.Proofs.Placeholder.Schema
import ParamSql.Proofs.Placeholder.Statement
import ParamSql.Proofs.Reader
import ParamSql.Proofs.Removal
import ParamSql.Proofs.Row
import ParamSql.Proofs.Tree
import ParamSql.Proofs.Vocabulary
import ParamSql.Reader
import ParamSql.Row
import ParamSql.Schema
import ParamSql.Selection
import ParamSql.Sql.Clause
import ParamSql.Sql.Condition
import ParamSql.Sql.Statement
import ParamSql.Sql.Token
import ParamSql.Statement
import ParamSql.Truth
import ParamSql.Unicode.Alphanumeric
import ParamSql.Unicode.Encoding
import ParamSql.Unicode.WhiteSpace
import ParamSql.Value
