import PageInjection.Fault.Json
import PageInjection.Fragment.Json
import PageInjection.Main
import PageInjection.Request.Json
import PageInjection.Store.Memory
import PageInjection.Proofs.Command.Atomic
import PageInjection.Proofs.Injection.Degradation
import PageInjection.Proofs.Injection.Elements
import PageInjection.Proofs.Injection.Isolation
import PageInjection.Proofs.Record.Codec
import PageInjection.Proofs.Rule.Grammar
import PageInjection.Proofs.Sandbox.Containment
import PageInjection.Proofs.Sandbox.Sight
import PageInjection.Proofs.Store.Backends
import PageInjection.Proofs.Store.Order
import PageInjection.Proofs.Store.Run
import PageInjection.Proofs.Store.Listing
import PageInjection.Proofs.Injection.ClosedGate
import PageInjection.Proofs.Rule.FirstMatch
import PageInjection.Proofs.Rule.IdSpelling
import PageInjection.Proofs.Rule.Knowledge
import PageInjection.Proofs.Command.Check
import PageInjection.Proofs.Command.Clearing
import PageInjection.Proofs.Command.DryRun
import PageInjection.Proofs.Markup.Pieces
import PageInjection.Proofs.Markup.Tagless
import PageInjection.Proofs.Rule.Printed
import PageInjection.Proofs.Markup.Escaped
import PageInjection.Proofs.Settings.Layered
import PageInjection.Proofs.Settings.Override
import PageInjection.Proofs.Settings.Trimmed
import PageInjection.Proofs.CommandLine.Accepted
import PageInjection.Proofs.CommandLine.Requests
import PageInjection.Proofs.Json.Records
import PageInjection.Proofs.Program.Quiet
import PageInjection.Proofs.Request.Building
import PageInjection.Proofs.Store.WellFormed
import PageInjection.Proofs.Logging.Validated
import PageInjection.Proofs.CommandLine.Content
import PageInjection.Proofs.Sandbox.OutputLimit
