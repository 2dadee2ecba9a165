import Observance.Binary64
import Observance.Build.Error
import Observance.Build.Report
import Observance.Build.Run
import Observance.Build.Settings
import Observance.Calendar.Date
import Observance.Calendar.Error
import Observance.Calendar.IsoText
import Observance.Calendar.Moment
import Observance.Calendar.Parts
import Observance.Calendar.Shape
import Observance.Feed.DateValue
import Observance.Feed.Event
import Observance.Feed.Line
import Observance.Feed.Property
import Observance.Field
import Observance.Json.Display
import Observance.Json.Order
import Observance.Json.Reader
import Observance.Json.Value
import Observance.Json.Writer
import Observance.Log.Entry
import Observance.Log.Number
import Observance.Log.Record
import Observance.Log.Severity
import Observance.Log.Template
import Observance.Log.Timestamp
import Observance.Main
import Observance.Pattern
import Observance.Pattern.CharTest
import Observance.Pattern.Compile
import Observance.Pattern.Error
import Observance.Pattern.Matcher
import Observance.Pattern.Parser
import Observance.Pattern.Syntax
import Observance.Pattern.Token
import Observance.Pattern.Width
import Observance.Proofs.Binary64
import Observance.Proofs.Build.Agreement
import Observance.Proofs.Build.Ending
import Observance.Proofs.Build.Escape
import Observance.Proofs.Build.Failure
import Observance.Proofs.Build.Refusal
import Observance.Proofs.Build.Stage
import Observance.Proofs.Calendar.Addition
import Observance.Proofs.Calendar.DateForm
import Observance.Proofs.Calendar.DateOrder
import Observance.Proofs.Calendar.DateText
import Observance.Proofs.Calendar.MonthArithmetic
import Observance.Proofs.Calendar.Months
import Observance.Proofs.Calendar.Number
import Observance.Proofs.Calendar.Overflow
import Observance.Proofs.Calendar.Timestamp
import Observance.Proofs.Feed.Block
import Observance.Proofs.Feed.Composition
import Observance.Proofs.Feed.DateValue
import Observance.Proofs.Feed.Folding
import Observance.Proofs.Feed.Insertion
import Observance.Proofs.Feed.Property
import Observance.Proofs.Feed.Reading
import Observance.Proofs.Feed.Unfolding
import Observance.Proofs.Feed.Writing
import Observance.Proofs.Json.Fields
import Observance.Proofs.Json.Legible
import Observance.Proofs.Json.Nesting
import Observance.Proofs.Json.Number
import Observance.Proofs.Json.Plain
import Observance.Proofs.Json.Real
import Observance.Proofs.Json.RoundTrip
import Observance.Proofs.Json.Text
import Observance.Proofs.Json.Unpaired
import Observance.Proofs.Log.Record
import Observance.Proofs.Log.Timestamp
import Observance.Proofs.Resolver
import Observance.Proofs.Resolver.Choice
import Observance.Proofs.Resolver.Entries
import Observance.Proofs.Resolver.FixedDay
import Observance.Proofs.Resolver.Occurrence
import Observance.Proofs.Resolver.Reordering
import Observance.Proofs.Resolver.Soonest
import Observance.Proofs.Resolver.Union
import Observance.Proofs.Result
import Observance.Proofs.Rule.Document
import Observance.Proofs.Rule.Grammar
import Observance.Proofs.Rule.Reordering
import Observance.Proofs.Rule.Violation
import Observance.Proofs.Schedule.DaysInOrder
import Observance.Proofs.Schedule.Publishable
import Observance.Proofs.Schedule.RoundTrip
import Observance.Proofs.Schedule.Untrusted
import Observance.Proofs.Schedule.Validation
import Observance.Proofs.Schedule.WholeDays
import Observance.Proofs.Storage.Artifact
import Observance.Proofs.Storage.Directories
import Observance.Proofs.Storage.Preferences
import Observance.Proofs.Storage.Refinement
import Observance.Proofs.Storage.Tree
import Observance.Proofs.Storage.Writing
import Observance.Proofs.Text.CodePoint
import Observance.Proofs.Text.Digits
import Observance.Proofs.Text.Parts
import Observance.Proofs.Text.Plain
import Observance.Proofs.Theme.Activity
import Observance.Proofs.Theme.Dismissal
import Observance.Proofs.Theme.Display
import Observance.Proofs.Theme.Loading
import Observance.Proofs.Theme.Padding
import Observance.Proofs.Theme.Page
import Observance.Proofs.Theme.Ranking
import Observance.Proofs.Theme.Session
import Observance.Proofs.Theme.Winner
import Observance.Proofs.Web.Client
import Observance.Resolver
import Observance.Rule.Basic
import Observance.Rule.Document
import Observance.Rule.Error
import Observance.Schedule.Basic
import Observance.Schedule.Build
import Observance.Schedule.Event
import Observance.Schedule.Order
import Observance.Schedule.Reader
import Observance.Simulation.Address.Basic
import Observance.Simulation.Address.Error
import Observance.Simulation.Address.Escape
import Observance.Simulation.Address.Host
import Observance.Simulation.Address.Prepared
import Observance.Simulation.Charset.Basic
import Observance.Simulation.Charset.Chinese
import Observance.Simulation.Charset.CodeTable
import Observance.Simulation.Charset.Escaped
import Observance.Simulation.Charset.Iso2022
import Observance.Simulation.Charset.Japanese
import Observance.Simulation.Charset.Korean
import Observance.Simulation.Charset.Name
import Observance.Simulation.Charset.Step
import Observance.Simulation.Charset.Table.Aliases
import Observance.Simulation.Charset.Table.Big5
import Observance.Simulation.Charset.Table.Gb2312
import Observance.Simulation.Charset.Table.Gbk
import Observance.Simulation.Charset.Table.HongKong
import Observance.Simulation.Charset.Table.Jisx0208
import Observance.Simulation.Charset.Table.Jisx0212
import Observance.Simulation.Charset.Table.Jisx0213
import Observance.Simulation.Charset.Table.Ksx1001
import Observance.Simulation.Charset.Table.SingleByte
import Observance.Simulation.Charset.Table.Windows932
import Observance.Simulation.Charset.Unicode
import Observance.Simulation.Charset.Utf7
import Observance.Simulation.ContentType
import Observance.Simulation.Endpoint
import Observance.Simulation.Exchange
import Observance.Simulation.HostName.Character
import Observance.Simulation.HostName.Composition
import Observance.Simulation.HostName.Context
import Observance.Simulation.HostName.Direction
import Observance.Simulation.HostName.Label
import Observance.Simulation.Punycode
import Observance.Simulation.Status
import Observance.Sorting
import Observance.Storage.Artifact
import Observance.Storage.Document
import Observance.Storage.Error
import Observance.Storage.Preferences
import Observance.Storage.Tree
import Observance.Text.Basic
import Observance.Text.Blank
import Observance.Text.Case
import Observance.Text.CharacterName
import Observance.Text.CharacterName.Alias
import Observance.Text.CharacterName.Alphabets
import Observance.Text.CharacterName.EastAsian
import Observance.Text.CharacterName.Historic
import Observance.Text.CharacterName.Pictographs
import Observance.Text.CharacterName.Symbols
import Observance.Text.CodeSet
import Observance.Text.Digit
import Observance.Text.Identifier
import Observance.Text.IntegerText
import Observance.Text.Letter
import Observance.Text.LineEnd
import Observance.Text.LowerCase
import Observance.Text.Place
import Observance.Text.Printable
import Observance.Text.Quoted
import Observance.Text.Room
import Observance.Text.Split
import Observance.Text.Utf8
import Observance.Theme.Activity
import Observance.Theme.Loading
import Observance.Theme.Selection
import Observance.Theme.Visit
import Observance.Web.Client
import Observance.Web.Request
import Observance.Window
