import Harmonograph.Command.Arguments
import Harmonograph.Command.Entry
import Harmonograph.Command.Misuse
import Harmonograph.Command.Options
import Harmonograph.Command.Run
import Harmonograph.Figure.Basic
import Harmonograph.Figure.Data
import Harmonograph.Figure.Drawing
import Harmonograph.Figure.Generator
import Harmonograph.Figure.Geometry
import Harmonograph.Figure.Group
import Harmonograph.Figure.NameIndex
import Harmonograph.Files.Disk
import Harmonograph.Files.Error
import Harmonograph.Files.Memory
import Harmonograph.Files.Path
import Harmonograph.Files.SystemPath
import Harmonograph.Files.Tree
import Harmonograph.Json.Basic
import Harmonograph.Json.Number
import Harmonograph.Json.Reader
import Harmonograph.Json.Record
import Harmonograph.Json.Writer
import Harmonograph.Lexicon.Scanner
import Harmonograph.Lexicon.Symbol
import Harmonograph.Lexicon.Table
import Harmonograph.Log.Journal
import Harmonograph.Log.Logger
import Harmonograph.Log.Network
import Harmonograph.Log.Record
import Harmonograph.Log.Ring
import Harmonograph.Log.Setup
import Harmonograph.Main
import Harmonograph.Number.Binary64
import Harmonograph.Number.Count
import Harmonograph.Number.Layout
import Harmonograph.Number.Length
import Harmonograph.Number.Literal
import Harmonograph.Number.Shortest
import Harmonograph.Number.Whole
import Harmonograph.Reading.Block
import Harmonograph.Reading.Fault
import Harmonograph.Reading.Notice
import Harmonograph.Reading.Progress
import Harmonograph.Reading.Report
import Harmonograph.Reading.Run
import Harmonograph.Reading.Sheet
import Harmonograph.Reading.Value
import Harmonograph.Settings.Basic
import Harmonograph.Settings.LevelName
import Harmonograph.Settings.LogLevels
import Harmonograph.Settings.Project
import Harmonograph.Settings.Session
import Harmonograph.Settings.TimeStep
import Harmonograph.Source.Excerpt
import Harmonograph.Source.Extent
import Harmonograph.Source.Location
import Harmonograph.Source.LocationText
import Harmonograph.Source.Unread
import Harmonograph.Text.Alphanumeric
import Harmonograph.Text.Blank
import Harmonograph.Text.CodeSet
import Harmonograph.Text.Control
import Harmonograph.Text.ControlSequence
import Harmonograph.Text.Folding
import Harmonograph.Text.Lines
import Harmonograph.Text.Occurrence
import Harmonograph.Text.Printable
import Harmonograph.Text.Quoted
import Harmonograph.Text.Utf8
import Harmonograph.Trie.Basic
import Harmonograph.Trie.Listing
import Harmonograph.Proofs.Lexicon.Recognition
import Harmonograph.Proofs.Document.Grammar
import Harmonograph.Proofs.Number.Positive
import Harmonograph.Proofs.Document.Description
import Harmonograph.Proofs.Number.Characters
import Harmonograph.Proofs.Document.Values
import Harmonograph.Proofs.Document.Blocks
import Harmonograph.Proofs.Document.Meaning
import Harmonograph.Proofs.Lexicon.Tracking
import Harmonograph.Proofs.Reading.Items
import Harmonograph.Proofs.Drawing.Concatenation
import Harmonograph.Proofs.Drawing.Shape
import Harmonograph.Proofs.Text.Folding
import Harmonograph.Proofs.Trie.Growth
import Harmonograph.Proofs.Trie.Spelling
import Harmonograph.Proofs.Trie.Literals
import Harmonograph.Proofs.Trie.Longest
import Harmonograph.Proofs.Lexicon.Sharing
import Harmonograph.Proofs.Reading.Comment
import Harmonograph.Proofs.Source.Order
import Harmonograph.Proofs.Reading.Steps
import Harmonograph.Proofs.Reading.BlockPlaces
import Harmonograph.Proofs.Drawing.Definitions
import Harmonograph.Proofs.Log.Records
import Harmonograph.Proofs.Drawing.Charts
import Harmonograph.Proofs.Drawing.ChartedRun
import Harmonograph.Proofs.Figure.Innermost
import Harmonograph.Proofs.Drawing.Resolution
import Harmonograph.Proofs.Drawing.Index
import Harmonograph.Proofs.Source.Excerpts
import Harmonograph.Proofs.Reading.Failures
import Harmonograph.Proofs.Figure.Renaming
import Harmonograph.Proofs.Reading.Lockstep
import Harmonograph.Proofs.Drawing.Likeness
import Harmonograph.Proofs.Reading.Layout
import Harmonograph.Proofs.Text.LetterCase
import Harmonograph.Proofs.Reading.LetterCase
import Harmonograph.Proofs.Reading.Lookahead
import Harmonograph.Proofs.Figure.Finite
import Harmonograph.Proofs.Reading.FiniteValues
import Harmonograph.Proofs.Reading.Requests
import Harmonograph.Proofs.Log.Levels
import Harmonograph.Proofs.Log.Spans
import Harmonograph.Proofs.Log.Guards
import Harmonograph.Proofs.Trie.Recognition
import Harmonograph.Proofs.Lexicon.LetterCase
import Harmonograph.Proofs.Log.Rings
import Harmonograph.Proofs.Source.LocationText
import Harmonograph.Proofs.Source.ExcerptLayout
import Harmonograph.Proofs.Trie.Children
import Harmonograph.Proofs.Trie.Shape
import Harmonograph.Proofs.Log.Numbering
import Harmonograph.Proofs.Log.Delivery
import Harmonograph.Proofs.Source.Places
