import Retag.Cache
import Retag.Compile
import Retag.Config.Fault
import Retag.Config.File
import Retag.Config.OfValue
import Retag.Decimal.Double
import Retag.Decimal.Reading
import Retag.Decimal.Shortest
import Retag.Engine.Basic
import Retag.Engine.Program
import Retag.Failure
import Retag.Guard
import Retag.Log.Event
import Retag.Log.Journal
import Retag.Log.Scope
import Retag.Log.Stopwatch
import Retag.Log.Threshold
import Retag.Marker.Basic
import Retag.Marker.Fragment
import Retag.Marker.OfValue
import Retag.Mustache.Helper
import Retag.Mustache.Node
import Retag.Mustache.Path
import Retag.Mustache.Render
import Retag.Mustache.Tag
import Retag.Proofs.Cache.PlainKeys
import Retag.Proofs.Cache.Requests
import Retag.Proofs.Cache.Soundness
import Retag.Proofs.Computation
import Retag.Proofs.Config.Loading
import Retag.Proofs.Config.Mapping
import Retag.Proofs.Decimal.Comparing
import Retag.Proofs.Guard.Decoding
import Retag.Proofs.Guard.Domain
import Retag.Proofs.Guard.Invisible
import Retag.Proofs.Guard.Legible
import Retag.Proofs.Guard.LongestFirst
import Retag.Proofs.Guard.Restoring
import Retag.Proofs.Log.Likeness
import Retag.Proofs.Log.Scoping
import Retag.Proofs.Log.Timing
import Retag.Proofs.Marker.Anchors
import Retag.Proofs.Marker.SharedFragments
import Retag.Proofs.Regex.Elements
import Retag.Proofs.Regex.Embedding
import Retag.Proofs.Regex.Forward
import Retag.Proofs.Regex.Outcomes
import Retag.Proofs.Regex.PlainChoice
import Retag.Proofs.Regex.PlainMatch
import Retag.Proofs.Regex.Reading
import Retag.Proofs.Regex.Successive
import Retag.Proofs.Regex.Surroundings
import Retag.Proofs.Session.Accounted
import Retag.Proofs.Session.Alike
import Retag.Proofs.Session.Caching
import Retag.Proofs.Session.Engines
import Retag.Proofs.Session.Patching
import Retag.Proofs.Session.Settled
import Retag.Proofs.Table
import Retag.Proofs.Tag.Appending
import Retag.Proofs.Tag.Escaping
import Retag.Proofs.Tag.Expressions
import Retag.Proofs.Tag.Form
import Retag.Proofs.Tag.Fragments
import Retag.Proofs.Tag.Matcher
import Retag.Proofs.Tag.Matches
import Retag.Proofs.Tag.Pieces
import Retag.Proofs.Tag.Scan
import Retag.Proofs.Tag.Spelling
import Retag.Proofs.Tag.Tiers
import Retag.Proofs.Tag.Written
import Retag.Proofs.Template.Compilations
import Retag.Proofs.Template.DebugView
import Retag.Proofs.Template.Runs
import Retag.Proofs.Template.Standalone
import Retag.Proofs.Text.FirstPlace
import Retag.Regex.CharSet
import Retag.Regex.Fault
import Retag.Regex.Flags
import Retag.Regex.Match
import Retag.Regex.Node
import Retag.Regex.Reader
import Retag.Regex.Term
import Retag.Rewrite
import Retag.Segment
import Retag.Session.Basic
import Retag.Session.Host
import Retag.Session.Render
import Retag.Session.Step
import Retag.Template
import Retag.Text.Basic
import Retag.Text.CodePoints
import Retag.Text.Cursor
import Retag.Text.Encoding
import Retag.Text.LetterCase
import Retag.Text.Letters
import Retag.Text.Printable
import Retag.Text.Quoted
import Retag.Value.Basic
import Retag.Value.Moment
import Retag.Value.Printed
import Retag.Yaml.Document
import Retag.Yaml.Node
import Retag.Yaml.PlainScalar
import Retag.Yaml.Scalars
import Retag.Yaml.Source
import Retag.Yaml.Token
import Retag.Yaml.Tokens
