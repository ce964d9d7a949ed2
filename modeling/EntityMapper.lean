import EntityMapper.Action
import EntityMapper.Backend
import EntityMapper.Binary64.Basic
import EntityMapper.Binary64.Nearest
import EntityMapper.Binary64.Shortest
import EntityMapper.Condition.Basic
import EntityMapper.Condition.Criteria
import EntityMapper.Condition.FieldToken
import EntityMapper.Condition.OfJson
import EntityMapper.Condition.Operator
import EntityMapper.Condition.Predicate
import EntityMapper.Connection.Address
import EntityMapper.Connection.Basic
import EntityMapper.Connection.Environments
import EntityMapper.Dialect
import EntityMapper.Dict
import EntityMapper.Driver.Basic
import EntityMapper.Driver.Registry
import EntityMapper.Driver.Scripted
import EntityMapper.Driver.Unopened
import EntityMapper.Entity.Basic
import EntityMapper.Entity.Record
import EntityMapper.Entity.Slots
import EntityMapper.Error
import EntityMapper.Json.Basic
import EntityMapper.Json.Printer
import EntityMapper.Json.Reader
import EntityMapper.Manager.Basic
import EntityMapper.Manager.Pool
import EntityMapper.Manager.Reads
import EntityMapper.Manager.Relations
import EntityMapper.Manager.Writes
import EntityMapper.Naming
import EntityMapper.Proofs.Binary64.Integers
import EntityMapper.Proofs.Condition.Conjunction
import EntityMapper.Proofs.Condition.Emptiness
import EntityMapper.Proofs.Condition.Grammar
import EntityMapper.Proofs.Condition.Leaves
import EntityMapper.Proofs.Condition.Meaning
import EntityMapper.Proofs.Condition.Monoid
import EntityMapper.Proofs.Condition.Numbers
import EntityMapper.Proofs.Condition.Outline
import EntityMapper.Proofs.Condition.Spellings
import EntityMapper.Proofs.Connection.File
import EntityMapper.Proofs.Connection.Padding
import EntityMapper.Proofs.Connection.Parameters
import EntityMapper.Proofs.Connection.Server
import EntityMapper.Proofs.Dialect.Marks
import EntityMapper.Proofs.Dialect.Regions
import EntityMapper.Proofs.Driver.Identifiers
import EntityMapper.Proofs.Driver.Mirror
import EntityMapper.Proofs.Driver.Script
import EntityMapper.Proofs.Driver.Trace
import EntityMapper.Proofs.Entity.Hydration
import EntityMapper.Proofs.Manager.Calls
import EntityMapper.Proofs.Manager.Deletion
import EntityMapper.Proofs.Manager.GeneratedKeys
import EntityMapper.Proofs.Manager.Keys
import EntityMapper.Proofs.Manager.Mirror
import EntityMapper.Proofs.Manager.Mutations
import EntityMapper.Proofs.Manager.Refusals
import EntityMapper.Proofs.Manager.Resolution
import EntityMapper.Proofs.Manager.Script
import EntityMapper.Proofs.Reading.Formula
import EntityMapper.Proofs.Reading.Select
import EntityMapper.Proofs.Reading.Write
import EntityMapper.Proofs.Relation.Declared
import EntityMapper.Proofs.Relation.OpenKeys
import EntityMapper.Proofs.Relation.Removal
import EntityMapper.Proofs.Relation.Scope
import EntityMapper.Proofs.Results
import EntityMapper.Proofs.Row.Views
import EntityMapper.Proofs.Schema.Described
import EntityMapper.Proofs.Schema.Memo
import EntityMapper.Proofs.Schema.Namesakes
import EntityMapper.Proofs.Schema.Spellings
import EntityMapper.Proofs.Statement.Placeholders
import EntityMapper.Proofs.Statement.Restriction
import EntityMapper.Proofs.Statement.Selection
import EntityMapper.Proofs.Statement.Values
import EntityMapper.Proofs.Statement.Writes
import EntityMapper.Proofs.Text.Utf8
import EntityMapper.Proofs.Url.Authority
import EntityMapper.Proofs.Url.Path
import EntityMapper.Proofs.Url.Percent
import EntityMapper.Proofs.Url.Reader
import EntityMapper.Proofs.Value.Stored
import EntityMapper.Query
import EntityMapper.Relation.Basic
import EntityMapper.Relation.Declarations
import EntityMapper.Relation.Plan
import EntityMapper.Relation.Registry
import EntityMapper.Row
import EntityMapper.Sample.Blog
import EntityMapper.Schema.Basic
import EntityMapper.Schema.Cache
import EntityMapper.Sql
import EntityMapper.Statement
import EntityMapper.Text.Blank
import EntityMapper.Text.Case
import EntityMapper.Text.CaseTable
import EntityMapper.Text.Composition
import EntityMapper.Text.CompositionTable
import EntityMapper.Text.Quoted
import EntityMapper.Text.QuotedTable
import EntityMapper.Text.Utf8
import EntityMapper.Url.Basic
import EntityMapper.Url.Fault
import EntityMapper.Url.Host
import EntityMapper.Url.Name
import EntityMapper.Url.NameTable
import EntityMapper.Url.Percent
import EntityMapper.Url.Punycode
import EntityMapper.Url.Reader
import EntityMapper.Value.Basic
import EntityMapper.Value.Calendar
import EntityMapper.Value.Uuid
import EntityMapper.Yaml.Node
import EntityMapper.Yaml.Place
import EntityMapper.Yaml.Reader
import EntityMapper.Yaml.Scalar
import EntityMapper.Yaml.Token
