import ClangHost.Text.Alphanumeric
import ClangHost.Text.Quoted
import ClangHost.Number.Notation
import ClangHost.Document.Record
import ClangHost.Json.Value
import ClangHost.Json.Reader
import ClangHost.Completion.Candidate
import ClangHost.Config.Basic
import ClangHost.Toml.Reader
import ClangHost.Config.Toml
import ClangHost.Arena
import ClangHost.Completion.Records
import ClangHost.Session.Basic
import ClangHost.Engine.Scripted
import ClangHost.Engine.Library
import ClangHost.Session.Direct
import ClangHost.Session.World
import ClangHost.Files.Exports
import ClangHost.Files.Path
import ClangHost.Files.Tree
import ClangHost.Config.Discovery
import ClangHost.Engine.Image.Segment
import ClangHost.Engine.Image.Memory
import ClangHost.Engine.Image.Dynamic
import ClangHost.Engine.Image.Fault
import ClangHost.Engine.Image.Hash
import ClangHost.Engine.Image.Version
import ClangHost.Engine.Image.Symbol
import ClangHost.Engine.Image.Relocation
import ClangHost.Engine.Linking.Fault
import ClangHost.Engine.Linking.LibraryPath
import ClangHost.Engine.Linking.CLibrary
import ClangHost.Engine.Linking.SystemLibrary
import ClangHost.Engine.Linking.Object
import ClangHost.Engine.Linking.Search
import ClangHost.Engine.Linking.Closure
import ClangHost.Engine.Linking.Resolution
import ClangHost.Engine.Loading
import ClangHost.Logging.Config
import ClangHost.Logging.Pattern
import ClangHost.Logging.Directive
import ClangHost.Logging.Filter
import ClangHost.Logging.Line
import ClangHost.Logging.Logger
import ClangHost.Proofs.Answers
import ClangHost.Proofs.Protocol
import ClangHost.Proofs.Failures
import ClangHost.Proofs.ScriptDecoding
import ClangHost.Proofs.Custody
import ClangHost.Proofs.Ownership
import ClangHost.Proofs.Alike
import ClangHost.Proofs.Simulation
import ClangHost.Proofs.Persistence
import ClangHost.Proofs.Notices
import ClangHost.Proofs.Modes
import ClangHost.Proofs.Guards
import ClangHost.Proofs.Accounting
import ClangHost.Proofs.TextCounts
import ClangHost.Proofs.Copies
import ClangHost.Proofs.Cursors
import ClangHost.Proofs.Forwarding
import ClangHost.Proofs.Events
import ClangHost.Proofs.Installation
import ClangHost.Proofs.Refusals
import ClangHost.Proofs.JsonReading
import ClangHost.Proofs.CandidateText
import ClangHost.Proofs.Parsing
import ClangHost.Proofs.Components
import ClangHost.Proofs.Discovering
import ClangHost.Proofs.ViewChecks
import ClangHost.Proofs.DiscoveryChain
import ClangHost.Proofs.TextTransfer
import ClangHost.Proofs.TagText
import ClangHost.Proofs.Choosing
import ClangHost.Proofs.ConfigLookup
import ClangHost.Proofs.LogFile
import ClangHost.Proofs.ConfigText
import ClangHost.Proofs.FlatChunks
