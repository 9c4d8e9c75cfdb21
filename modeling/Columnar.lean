import Columnar.Binary64
import Columnar.Binary64.Text
import Columnar.Calendar
import Columnar.Calendar.Timestamp
import Columnar.Column
import Columnar.Column.Decode
import Columnar.Command.Answer
import Columnar.Command.Arguments
import Columnar.Command.Run
import Columnar.Document
import Columnar.Json.Error
import Columnar.Json.Reader
import Columnar.Json.Writer
import Columnar.Log.Line
import Columnar.Log.Logger
import Columnar.Log.Script
import Columnar.Main
import Columnar.Outcome
import Columnar.Proofs.Accepted
import Columnar.Proofs.Agreement
import Columnar.Proofs.Binary64.Rounding
import Columnar.Proofs.Command.Exit
import Columnar.Proofs.Command.Obstacles
import Columnar.Proofs.Command.Printed
import Columnar.Proofs.Compatibility
import Columnar.Proofs.Compiled
import Columnar.Proofs.Congruence
import Columnar.Proofs.DefaultTitles
import Columnar.Proofs.Defects
import Columnar.Proofs.Documents
import Columnar.Proofs.Encodings
import Columnar.Proofs.Equality
import Columnar.Proofs.FieldKeys
import Columnar.Proofs.FirstDefect
import Columnar.Proofs.Flattening
import Columnar.Proofs.Insertion
import Columnar.Proofs.Json.Ascii
import Columnar.Proofs.Json.Floats
import Columnar.Proofs.Json.Grammar
import Columnar.Proofs.Json.Indented
import Columnar.Proofs.Json.Literals
import Columnar.Proofs.Json.LongIntegers
import Columnar.Proofs.Json.Numbers
import Columnar.Proofs.Json.Numerals
import Columnar.Proofs.Json.ReadBack
import Columnar.Proofs.Json.Remains
import Columnar.Proofs.Json.Scalars
import Columnar.Proofs.Json.Spelled
import Columnar.Proofs.Json.Strings
import Columnar.Proofs.Json.Visible
import Columnar.Proofs.Json.Yield
import Columnar.Proofs.Loading
import Columnar.Proofs.Log.Blocks
import Columnar.Proofs.Log.Events
import Columnar.Proofs.Lossless
import Columnar.Proofs.Mapping
import Columnar.Proofs.Parsed
import Columnar.Proofs.Positions
import Columnar.Proofs.Recompile
import Columnar.Proofs.Redecode
import Columnar.Proofs.Selection
import Columnar.Proofs.Slices
import Columnar.Proofs.Tables
import Columnar.Proofs.Text.Points
import Columnar.Proofs.Text.Surrogates
import Columnar.Proofs.Text.Utf8
import Columnar.Proofs.TitleMessage
import Columnar.Proofs.Titles
import Columnar.Proofs.UnionBytes
import Columnar.Proofs.UnionForms
import Columnar.Proofs.UnionPlaces
import Columnar.Proofs.UnionRefusals
import Columnar.Proofs.UnionText
import Columnar.Proofs.Writable
import Columnar.Proofs.Written
import Columnar.Proofs.Yaml.Blame
import Columnar.Proofs.Yaml.Faults
import Columnar.Proofs.Yaml.Marks
import Columnar.Proofs.Yaml.Tree
import Columnar.Proofs.Yaml.Yield
import Columnar.Schema.Compile
import Columnar.Settings.Assignments
import Columnar.Settings.Read
import Columnar.Slice
import Columnar.Source.Feed
import Columnar.Source.Folder
import Columnar.Source.Load
import Columnar.Text
import Columnar.Text.Case
import Columnar.Text.CaseTable
import Columnar.Text.CasedTable
import Columnar.Text.Characters
import Columnar.Text.EmojiTable
import Columnar.Text.Encoding
import Columnar.Text.Figures
import Columnar.Text.Layout
import Columnar.Text.Markup
import Columnar.Text.Numeral
import Columnar.Text.PrintableTable
import Columnar.Text.Quoted
import Columnar.Text.Table
import Columnar.Text.Utf8
import Columnar.Text.WidthTable
import Columnar.Titles
import Columnar.TypeUnion
import Columnar.Unreadable
import Columnar.Value
import Columnar.Value.Literal
import Columnar.Value.Writable
import Columnar.Yaml.Cursor
import Columnar.Yaml.Lexer
import Columnar.Yaml.Node
import Columnar.Yaml.Read
import Columnar.Yaml.Scalar
import Columnar.Yaml.Tag
import Columnar.Yaml.Text
