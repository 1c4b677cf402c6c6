import Inspector.Bytes
import Inspector.Gzip.Bits
import Inspector.Gzip.Checksum
import Inspector.Gzip.Code
import Inspector.Gzip.Inflate
import Inspector.Gzip.Member
import Inspector.Host.Class
import Inspector.Host.CoreClasses
import Inspector.Host.InMemory
import Inspector.Host.TypeSource
import Inspector.Host.Value
import Inspector.Host.View
import Inspector.HostType.Basic
import Inspector.HostType.Descriptor
import Inspector.Introspection.Answer
import Inspector.Introspection.PinTable
import Inspector.Introspection.Request
import Inspector.Introspection.Serialize
import Inspector.LogStream.Command
import Inspector.LogStream.Lines
import Inspector.Main
import Inspector.Options.Address
import Inspector.Options.CommandLine
import Inspector.Options.Settings
import Inspector.Pack.Cursor
import Inspector.Pack.Error
import Inspector.Pack.Item
import Inspector.Pack.Reader
import Inspector.Pack.Writer
import Inspector.Proofs.Gzip.Delimiting
import Inspector.Proofs.Gzip.RoundTrip
import Inspector.Proofs.Host.Changes
import Inspector.Proofs.Host.Pins
import Inspector.Proofs.HostType.Descriptors
import Inspector.Proofs.HostType.DisplayNames
import Inspector.Proofs.Introspection.ClassNames
import Inspector.Proofs.Introspection.Effects
import Inspector.Proofs.Introspection.EndlessReads
import Inspector.Proofs.Introspection.FieldLookups
import Inspector.Proofs.Introspection.FieldReads
import Inspector.Proofs.Introspection.FieldValues
import Inspector.Proofs.Introspection.Noninterference
import Inspector.Proofs.Introspection.ObjectIds
import Inspector.Proofs.Introspection.PinCounts
import Inspector.Proofs.Introspection.PinTables
import Inspector.Proofs.Introspection.Replies
import Inspector.Proofs.Introspection.SentValues
import Inspector.Proofs.Introspection.SharedHost
import Inspector.Proofs.Introspection.StaticRows
import Inspector.Proofs.Introspection.Termination
import Inspector.Proofs.LogStream.BadLines
import Inspector.Proofs.LogStream.Commands
import Inspector.Proofs.LogStream.EndToEnd
import Inspector.Proofs.LogStream.Lines
import Inspector.Proofs.LogStream.Messages
import Inspector.Proofs.Outcome
import Inspector.Proofs.Pack.Boundaries
import Inspector.Proofs.Pack.Building
import Inspector.Proofs.Pack.BuiltItems
import Inspector.Proofs.Pack.CallSequences
import Inspector.Proofs.Pack.FailedCalls
import Inspector.Proofs.Pack.Lengths
import Inspector.Proofs.Pack.Reading
import Inspector.Proofs.Pack.Trees
import Inspector.Proofs.Reflection.Collections
import Inspector.Proofs.Reflection.Conformance
import Inspector.Proofs.Reflection.Hierarchies
import Inspector.Proofs.Reflection.Loops
import Inspector.Proofs.Reflection.MethodLookups
import Inspector.Proofs.Reflection.Sequences
import Inspector.Proofs.Reflection.Signatures
import Inspector.Proofs.Session.Account
import Inspector.Proofs.Session.Bookkeeping
import Inspector.Proofs.Session.Broadcasts
import Inspector.Proofs.Session.Containment
import Inspector.Proofs.Session.Contexts
import Inspector.Proofs.Session.Exchanges
import Inspector.Proofs.Session.Interleaving
import Inspector.Proofs.Session.Isolation
import Inspector.Proofs.Session.Lifecycle
import Inspector.Proofs.Session.OwnConnection
import Inspector.Proofs.Session.Sending
import Inspector.Proofs.Session.Separation
import Inspector.Proofs.Session.Traffic
import Inspector.Proofs.Simulation.Programs
import Inspector.Proofs.Simulation.Rounding
import Inspector.Proofs.Simulation.Words
import Inspector.Proofs.Wire.Envelope
import Inspector.Proofs.Wire.ForeignFields
import Inspector.Proofs.Wire.Lengths
import Inspector.Proofs.Wire.PeekedIds
import Inspector.Proofs.Wire.Record
import Inspector.Proofs.Wire.Request
import Inspector.Proofs.Wire.Response
import Inspector.Proofs.Wire.Value
import Inspector.Proofs.Wire.ValuesInPlace
import Inspector.Proofs.Wire.Widening
import Inspector.Reflection.Assignability
import Inspector.Reflection.Error
import Inspector.Reflection.Hierarchy
import Inspector.Reflection.Member
import Inspector.Reflection.Sequence
import Inspector.Session.Hub
import Inspector.Session.Lock
import Inspector.Session.Operation
import Inspector.Session.Provider
import Inspector.Session.Schedule
import Inspector.Session.Transport
import Inspector.Simulation.Demonstration
import Inspector.Simulation.Echo
import Inspector.Simulation.Environment
import Inspector.Simulation.Machine
import Inspector.Simulation.Program.Echo
import Inspector.Simulation.Program.Escape
import Inspector.Simulation.Program.Extended.Basic
import Inspector.Simulation.Program.Extended.Digits
import Inspector.Simulation.Program.Extended.Numeral
import Inspector.Simulation.Program.Integer
import Inspector.Simulation.Program.Layout
import Inspector.Simulation.Program.Ls
import Inspector.Simulation.Program.Octets
import Inspector.Simulation.Program.Printf
import Inspector.Simulation.Program.Quoting
import Inspector.Simulation.Program.Seq
import Inspector.Table
import Inspector.Text.Blank
import Inspector.Text.Hexadecimal
import Inspector.Text.Quoted
import Inspector.Text.Unprintable
import Inspector.Text.Utf8
import Inspector.Wire.Envelope
import Inspector.Wire.Record
import Inspector.Wire.Request
import Inspector.Wire.Response
import Inspector.Wire.Value
