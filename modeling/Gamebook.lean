import Gamebook.Chance.Source
import Gamebook.Chance.Twister
import Gamebook.CommandLine.Options
import Gamebook.CommandLine.Program
import Gamebook.Config
import Gamebook.Console.Basic
import Gamebook.Console.Play
import Gamebook.Console.Screen
import Gamebook.Console.Storage
import Gamebook.Console.Transcript
import Gamebook.Datum.Basic
import Gamebook.Datum.Calendar
import Gamebook.Datum.Decoder
import Gamebook.Datum.Layer
import Gamebook.Datum.Printer
import Gamebook.Ending
import Gamebook.Fault
import Gamebook.Files.Path
import Gamebook.Files.Tree
import Gamebook.Json.Printer
import Gamebook.Json.Reader
import Gamebook.Main
import Gamebook.Number.Basic
import Gamebook.Number.Binary64
import Gamebook.Number.Decimal
import Gamebook.Number.Literal
import Gamebook.Session.Basic
import Gamebook.Session.Command
import Gamebook.Session.Listeners
import Gamebook.Session.Live
import Gamebook.Session.Reporter
import Gamebook.Session.Save
import Gamebook.Session.Staging
import Gamebook.Story.Basic
import Gamebook.Story.Document
import Gamebook.Story.Load
import Gamebook.Story.Manifest
import Gamebook.Story.Problem
import Gamebook.Table
import Gamebook.Text.Base64
import Gamebook.Text.Basic
import Gamebook.Text.Blank
import Gamebook.Text.CodeRange
import Gamebook.Text.Cursor
import Gamebook.Text.Digit
import Gamebook.Text.LineEnd
import Gamebook.Text.Printable
import Gamebook.Text.Quoted
import Gamebook.Text.Split
import Gamebook.Text.Utf8
import Gamebook.Variable.Condition
import Gamebook.Variable.Effect
import Gamebook.Variable.Store
import Gamebook.Variable.Value
import Gamebook.Yaml.Assembly
import Gamebook.Yaml.Block
import Gamebook.Yaml.Cursor
import Gamebook.Yaml.Document
import Gamebook.Yaml.Evaluation
import Gamebook.Yaml.Grammar
import Gamebook.Yaml.Layout
import Gamebook.Yaml.Members
import Gamebook.Yaml.Node
import Gamebook.Yaml.Part
import Gamebook.Yaml.Plain
import Gamebook.Yaml.Property
import Gamebook.Yaml.Quoted
import Gamebook.Yaml.Scalar
import Gamebook.Yaml.Script
import Gamebook.Yaml.Tag
import Gamebook.Yaml.Timestamp
import Gamebook.Yaml.Token
import Gamebook.Proofs.Session.Moves
import Gamebook.Proofs.Session.Standing
import Gamebook.Proofs.Session.States
import Gamebook.Proofs.Ending
import Gamebook.Proofs.Story.Checked
import Gamebook.Proofs.Session.Alike
import Gamebook.Proofs.Session.Saves
import Gamebook.Proofs.Session.Gates
import Gamebook.Proofs.Session.Reports
import Gamebook.Proofs.Number.Integers
import Gamebook.Proofs.Console.Talk
import Gamebook.Proofs.Console.Rounds
import Gamebook.Proofs.Console.Prompts
import Gamebook.Proofs.Console.Completions
import Gamebook.Proofs.Console.Deeds
import Gamebook.Proofs.Console.Robust
import Gamebook.Proofs.Console.Storage
import Gamebook.Proofs.Files.Tree
import Gamebook.Proofs.Json.Numerals
import Gamebook.Proofs.Json.Objects
import Gamebook.Proofs.Number.Arithmetic
import Gamebook.Proofs.Number.ReadBack
import Gamebook.Proofs.Session.Limits
import Gamebook.Proofs.Session.SaveFiles
import Gamebook.Proofs.Session.Selections
import Gamebook.Proofs.Session.Stores
import Gamebook.Proofs.Table
import Gamebook.Proofs.Text.Utf8
import Gamebook.Proofs.Variable.Effects
import Gamebook.Proofs.Variable.Limits
import Gamebook.Proofs.Variable.Names
import Gamebook.Proofs.Session.Notices
import Gamebook.Proofs.Session.History
import Gamebook.Proofs.Session.Isolation
import Gamebook.Proofs.Session.Values
import Gamebook.Proofs.Text.Split
import Gamebook.Proofs.Variable.Composition
import Gamebook.Proofs.Story.Clauses
import Gamebook.Proofs.Fault
import Gamebook.Proofs.Story.Division
import Gamebook.Proofs.Story.Judgments
import Gamebook.Proofs.Story.Shapes
import Gamebook.Proofs.Variable.Independence
import Gamebook.Proofs.Variable.Moves
import Gamebook.Proofs.Number.Plain
import Gamebook.Proofs.Variable.Evaluation
import Gamebook.Proofs.Number.Line
import Gamebook.Proofs.Variable.Coherence
import Gamebook.Proofs.Variable.Tokens
import Gamebook.Proofs.Story.Tokenised
import Gamebook.Proofs.Console.Quiescence
import Gamebook.Proofs.Session.Acceptance
import Gamebook.Proofs.Number.Literals
import Gamebook.Proofs.Story.Defaults
import Gamebook.Proofs.Number.Rounding
import Gamebook.Proofs.Ending.Policy
import Gamebook.Proofs.Session.Registry
import Gamebook.Proofs.Session.Handover
import Gamebook.Proofs.Story.Signposts
import Gamebook.Proofs.Story.Numbering
import Gamebook.Proofs.Number.Grammar
import Gamebook.Proofs.Story.Settings
