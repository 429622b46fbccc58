import ZonedAccessors.Accessor.Field
import ZonedAccessors.Accessor.Name
import ZonedAccessors.Accessor.Policy
import ZonedAccessors.Accessor.Template
import ZonedAccessors.Attribute.Expansion
import ZonedAccessors.Attribute.Options
import ZonedAccessors.Attribute.Refusal
import ZonedAccessors.CommandLine.Execute
import ZonedAccessors.CommandLine.Read
import ZonedAccessors.Decimal.Shortest
import ZonedAccessors.Files.Disk
import ZonedAccessors.Files.Path
import ZonedAccessors.Files.Tree
import ZonedAccessors.Generation.Report
import ZonedAccessors.Generation.Run
import ZonedAccessors.Grammar.Attribute
import ZonedAccessors.Grammar.Block
import ZonedAccessors.Grammar.Bound
import ZonedAccessors.Grammar.Declaration
import ZonedAccessors.Grammar.Expr
import ZonedAccessors.Grammar.Fault
import ZonedAccessors.Grammar.Function
import ZonedAccessors.Grammar.Impl
import ZonedAccessors.Grammar.Inner
import ZonedAccessors.Grammar.Item
import ZonedAccessors.Grammar.Level
import ZonedAccessors.Grammar.Member
import ZonedAccessors.Grammar.Operator
import ZonedAccessors.Grammar.Path
import ZonedAccessors.Grammar.Pattern
import ZonedAccessors.Grammar.Reader
import ZonedAccessors.Grammar.Stmt
import ZonedAccessors.Grammar.Struct
import ZonedAccessors.Grammar.Text
import ZonedAccessors.Grammar.Trait
import ZonedAccessors.Grammar.Type
import ZonedAccessors.Layout.Box
import ZonedAccessors.Layout.Break
import ZonedAccessors.Layout.Comment
import ZonedAccessors.Layout.Doc
import ZonedAccessors.Layout.Macro
import ZonedAccessors.Layout.Part
import ZonedAccessors.Layout.Print
import ZonedAccessors.Main
import ZonedAccessors.Proofs.Accessor.Members
import ZonedAccessors.Proofs.Accessor.OwnFields
import ZonedAccessors.Proofs.Accessor.Tree
import ZonedAccessors.Proofs.Attribute.Acceptance
import ZonedAccessors.Proofs.Attribute.FieldOptions
import ZonedAccessors.Proofs.Attribute.Written
import ZonedAccessors.Proofs.Files.Making
import ZonedAccessors.Proofs.Files.Splitting
import ZonedAccessors.Proofs.Files.Walk
import ZonedAccessors.Proofs.Generation.Comparison
import ZonedAccessors.Proofs.Generation.Effect
import ZonedAccessors.Proofs.Generation.Stability
import ZonedAccessors.Proofs.Grammar.Head
import ZonedAccessors.Proofs.Grammar.Items
import ZonedAccessors.Proofs.Grammar.Names
import ZonedAccessors.Proofs.Grammar.Phrases
import ZonedAccessors.Proofs.Grammar.Reader
import ZonedAccessors.Proofs.Grammar.Reads
import ZonedAccessors.Proofs.Region.Assignment
import ZonedAccessors.Proofs.Schema.Agreement
import ZonedAccessors.Proofs.Schema.FieldTables
import ZonedAccessors.Proofs.Schema.Targets
import ZonedAccessors.Proofs.Token.Lexed
import ZonedAccessors.Proofs.Token.Reread
import ZonedAccessors.Proofs.Toml.Spelling
import ZonedAccessors.Region.Compose
import ZonedAccessors.Region.Date
import ZonedAccessors.Region.LocalZone
import ZonedAccessors.Region.Record
import ZonedAccessors.Schema.Basic
import ZonedAccessors.Schema.Decode
import ZonedAccessors.Schema.Render
import ZonedAccessors.Syntax.Basic
import ZonedAccessors.Syntax.Name
import ZonedAccessors.Syntax.Separated
import ZonedAccessors.Syntax.Shape
import ZonedAccessors.Syntax.Struct
import ZonedAccessors.Syntax.Tokens
import ZonedAccessors.Token.Basic
import ZonedAccessors.Token.Escape
import ZonedAccessors.Token.Lexer
import ZonedAccessors.Token.Literal
import ZonedAccessors.Token.Number
import ZonedAccessors.Token.Quoted
import ZonedAccessors.Token.Text
import ZonedAccessors.Toml.Document
import ZonedAccessors.Toml.Number
import ZonedAccessors.Toml.Quoted
import ZonedAccessors.Toml.Tree
import ZonedAccessors.Toml.Value
import ZonedAccessors.Unicode.Identifier
import ZonedAccessors.Unicode.Letter
import ZonedAccessors.Unicode.Printable
import ZonedAccessors.Unicode.Range
import ZonedAccessors.Proofs.Grammar.Follow.Bound
import ZonedAccessors.Proofs.Grammar.Follow.Declaration
import ZonedAccessors.Proofs.Grammar.Follow.File
import ZonedAccessors.Proofs.Layout.Lines
import ZonedAccessors.Proofs.Attribute.Stacking
import ZonedAccessors.Proofs.CommandLine.Execution
import ZonedAccessors.Proofs.Grammar.Standing
import ZonedAccessors.Proofs.Region.Independence
import ZonedAccessors.Proofs.Schema.Composition
import ZonedAccessors.Proofs.Unicode.Ascii
import ZonedAccessors.Proofs.Accessor.SnakeCase
import ZonedAccessors.Proofs.Accessor.Identifiers
import ZonedAccessors.Proofs.Accessor.Respelling
import ZonedAccessors.Proofs.Region.Composition
import ZonedAccessors.Proofs.Region.ReadBack
import ZonedAccessors.Proofs.Grammar.Places
import ZonedAccessors.Proofs.Attribute.FirstFailure
import ZonedAccessors.Proofs.Schema.FirstInvalid
import ZonedAccessors.Proofs.CommandLine.Grammar
import ZonedAccessors.Proofs.Toml.Distinct
import ZonedAccessors.Proofs.Toml.Reordering
import ZonedAccessors.Proofs.Schema.Filling
import ZonedAccessors.Proofs.Schema.Tables
import ZonedAccessors.Proofs.Attribute.Parameters
