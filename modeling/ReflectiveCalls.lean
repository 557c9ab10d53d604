import ReflectiveCalls.Main
import ReflectiveCalls.Proofs.Action
import ReflectiveCalls.Proofs.Attribution
import ReflectiveCalls.Proofs.Command.Export
import ReflectiveCalls.Proofs.Command.Query
import ReflectiveCalls.Proofs.Command.Steps
import ReflectiveCalls.Proofs.Console.Layout
import ReflectiveCalls.Proofs.Console.Markup
import ReflectiveCalls.Proofs.Files.Joining
import ReflectiveCalls.Proofs.History
import ReflectiveCalls.Proofs.Index.Acceptance
import ReflectiveCalls.Proofs.Index.Agreement
import ReflectiveCalls.Proofs.Index.ClassQueries
import ReflectiveCalls.Proofs.Index.DeclarationOrder
import ReflectiveCalls.Proofs.Index.EagerLoading
import ReflectiveCalls.Proofs.Index.Entities
import ReflectiveCalls.Proofs.Index.Escapes
import ReflectiveCalls.Proofs.Index.Exactness
import ReflectiveCalls.Proofs.Index.Exports
import ReflectiveCalls.Proofs.Index.LineErasure
import ReflectiveCalls.Proofs.Index.Protocol
import ReflectiveCalls.Proofs.Index.Queries
import ReflectiveCalls.Proofs.Index.RecordOrder
import ReflectiveCalls.Proofs.Index.Recorded
import ReflectiveCalls.Proofs.Index.Refusal
import ReflectiveCalls.Proofs.Index.Streaming
import ReflectiveCalls.Proofs.Json.RoundTrip
import ReflectiveCalls.Proofs.Overloads
import ReflectiveCalls.Proofs.Permanence
import ReflectiveCalls.Proofs.Program.Alike
import ReflectiveCalls.Proofs.Program.Availability
import ReflectiveCalls.Proofs.Program.ClassFiles
import ReflectiveCalls.Proofs.Program.Coherence
import ReflectiveCalls.Proofs.Program.Construction
import ReflectiveCalls.Proofs.Program.Growth
import ReflectiveCalls.Proofs.Program.OnDemand
import ReflectiveCalls.Proofs.Program.Repetition
import ReflectiveCalls.Proofs.Program.Signatures
import ReflectiveCalls.Proofs.Program.Spellings
import ReflectiveCalls.Proofs.Trace.Grammar
import ReflectiveCalls.Proofs.Trace.Iteration
import ReflectiveCalls.Proofs.Trace.Reading
import ReflectiveCalls.Session.Run
