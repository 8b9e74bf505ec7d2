import VirtualHosts.Address.Ip
import VirtualHosts.Address.Port
import VirtualHosts.Address.Socket
import VirtualHosts.Command.Arguments
import VirtualHosts.Command.Launch
import VirtualHosts.Command.Start
import VirtualHosts.Files.Handle
import VirtualHosts.Files.MediaType
import VirtualHosts.Files.Path
import VirtualHosts.Files.Read
import VirtualHosts.Files.Relative
import VirtualHosts.Files.Serve
import VirtualHosts.Files.Tree
import VirtualHosts.Header.Fields
import VirtualHosts.Header.Forwarded
import VirtualHosts.Header.Hop
import VirtualHosts.Header.Name
import VirtualHosts.Header.Rule
import VirtualHosts.Header.Value
import VirtualHosts.Host.Key
import VirtualHosts.Host.Slice
import VirtualHosts.Http.Authority
import VirtualHosts.Http.Identifier
import VirtualHosts.Http.Message
import VirtualHosts.Http.Refusal
import VirtualHosts.Http.RequestTarget
import VirtualHosts.Main
import VirtualHosts.Proofs.Address.Written
import VirtualHosts.Proofs.Bind
import VirtualHosts.Proofs.Command.Launch
import VirtualHosts.Proofs.Files.Containment
import VirtualHosts.Proofs.Files.Faults
import VirtualHosts.Proofs.Files.Methods
import VirtualHosts.Proofs.Files.Opening
import VirtualHosts.Proofs.Files.Resolution
import VirtualHosts.Proofs.Files.Segments
import VirtualHosts.Proofs.Files.Serving
import VirtualHosts.Proofs.Header.Chain
import VirtualHosts.Proofs.Header.Forwarded
import VirtualHosts.Proofs.Header.Hop
import VirtualHosts.Proofs.Header.LastRule
import VirtualHosts.Proofs.Header.RuleForms
import VirtualHosts.Proofs.Header.Visible
import VirtualHosts.Proofs.Header.Written
import VirtualHosts.Proofs.Host.Grammar
import VirtualHosts.Proofs.Host.Spelling
import VirtualHosts.Proofs.Host.Stability
import VirtualHosts.Proofs.Http.Authority
import VirtualHosts.Proofs.Http.PathQuery
import VirtualHosts.Proofs.Proxy.Counting
import VirtualHosts.Proofs.Proxy.Forwarding
import VirtualHosts.Proofs.Proxy.Handled
import VirtualHosts.Proofs.Proxy.Matching
import VirtualHosts.Proofs.Proxy.Reach
import VirtualHosts.Proofs.Proxy.Rules
import VirtualHosts.Proofs.Proxy.TargetHost
import VirtualHosts.Proofs.Route.Building
import VirtualHosts.Proofs.Route.Same
import VirtualHosts.Proofs.Route.Table
import VirtualHosts.Proofs.Route.Written
import VirtualHosts.Proofs.Service.Accounting
import VirtualHosts.Proofs.Service.ReloadOrder
import VirtualHosts.Proofs.Service.Sessions
import VirtualHosts.Proofs.Service.SlotLedger
import VirtualHosts.Proofs.Service.WakeUp
import VirtualHosts.Proofs.Site.Accepted
import VirtualHosts.Proofs.Site.Address
import VirtualHosts.Proofs.Site.AddressForms
import VirtualHosts.Proofs.Site.Alike
import VirtualHosts.Proofs.Site.BackendText
import VirtualHosts.Proofs.Site.Braces
import VirtualHosts.Proofs.Site.Checking
import VirtualHosts.Proofs.Site.Composition
import VirtualHosts.Proofs.Site.Continuation
import VirtualHosts.Proofs.Site.Descent
import VirtualHosts.Proofs.Site.Grammar
import VirtualHosts.Proofs.Site.HostPort
import VirtualHosts.Proofs.Site.Hosts
import VirtualHosts.Proofs.Site.Image
import VirtualHosts.Proofs.Site.LineBreaks
import VirtualHosts.Proofs.Site.Lines
import VirtualHosts.Proofs.Site.Meaning
import VirtualHosts.Proofs.Site.Parallel
import VirtualHosts.Proofs.Site.Rendering
import VirtualHosts.Proofs.Site.Reordering
import VirtualHosts.Proofs.Site.RoundTrip
import VirtualHosts.Proofs.Site.Scanning
import VirtualHosts.Proofs.Site.WrittenAddress
import VirtualHosts.Proofs.Text.Cuts
import VirtualHosts.Proofs.Text.Digits
import VirtualHosts.Proofs.Text.Ends
import VirtualHosts.Proofs.Text.Escapes
import VirtualHosts.Proofs.Text.LowerCase
import VirtualHosts.Proxy.Dispatch
import VirtualHosts.Proxy.Event
import VirtualHosts.Proxy.Exchange
import VirtualHosts.Route.Live
import VirtualHosts.Route.Table
import VirtualHosts.Service.Connections
import VirtualHosts.Service.Draining
import VirtualHosts.Service.Listener
import VirtualHosts.Service.Load
import VirtualHosts.Service.LoadError
import VirtualHosts.Service.Reachable
import VirtualHosts.Service.Reload
import VirtualHosts.Service.Reloaders
import VirtualHosts.Service.Server
import VirtualHosts.Service.Session
import VirtualHosts.Service.Slots
import VirtualHosts.Service.Stop
import VirtualHosts.Settings.Basic
import VirtualHosts.Settings.Check
import VirtualHosts.Settings.Read
import VirtualHosts.Site.Address
import VirtualHosts.Site.Basic
import VirtualHosts.Site.Descent
import VirtualHosts.Site.Directive
import VirtualHosts.Site.Error
import VirtualHosts.Site.Options
import VirtualHosts.Site.Printer
import VirtualHosts.Site.Target
import VirtualHosts.Site.Token
import VirtualHosts.Site.WellFormed
import VirtualHosts.Text.Blank
import VirtualHosts.Text.Caseless
import VirtualHosts.Text.Cut
import VirtualHosts.Text.Invisible
import VirtualHosts.Text.Number
import VirtualHosts.Text.Offset
import VirtualHosts.Text.Order
import VirtualHosts.Text.Quoted
import VirtualHosts.Text.Utf8
import VirtualHosts.Toml.Document
import VirtualHosts.Toml.Draft
import VirtualHosts.Toml.Expression
import VirtualHosts.Toml.Key
import VirtualHosts.Toml.Layout
import VirtualHosts.Toml.Moment
import VirtualHosts.Toml.Number
import VirtualHosts.Toml.Quoted
import VirtualHosts.Toml.Value
