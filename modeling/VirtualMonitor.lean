import VirtualMonitor.Card
import VirtualMonitor.CommandLine
import VirtualMonitor.CommandLine.Run
import VirtualMonitor.Config
import VirtualMonitor.Display.Operation
import VirtualMonitor.Display.Record
import VirtualMonitor.Display.Registry
import VirtualMonitor.Display.Summary
import VirtualMonitor.Driver
import VirtualMonitor.Driver.Binding
import VirtualMonitor.Driver.Call
import VirtualMonitor.Driver.Connection
import VirtualMonitor.Driver.Library
import VirtualMonitor.Driver.Memory
import VirtualMonitor.Driver.Scripted
import VirtualMonitor.Driver.Sharing
import VirtualMonitor.Driver.Trace
import VirtualMonitor.Edid
import VirtualMonitor.Edid.Base
import VirtualMonitor.Edid.Checksum
import VirtualMonitor.Edid.DetailedTiming
import VirtualMonitor.Edid.Dump
import VirtualMonitor.Edid.Extension
import VirtualMonitor.Edid.SyncFlags
import VirtualMonitor.Edid.Timing
import VirtualMonitor.FileTree
import VirtualMonitor.Json
import VirtualMonitor.Json.Parser
import VirtualMonitor.Json.Printer
import VirtualMonitor.Json.Token
import VirtualMonitor.KernelModule
import VirtualMonitor.Main
import VirtualMonitor.Manager.Basic
import VirtualMonitor.Manager.Displays
import VirtualMonitor.Manager.Operation
import VirtualMonitor.Manager.Provision
import VirtualMonitor.Manager.Watchdog
import VirtualMonitor.Mode
import VirtualMonitor.Path
import VirtualMonitor.Text.Hidden
import VirtualMonitor.Text.Numeral
import VirtualMonitor.Text.Quoted
import VirtualMonitor.Text.Utf8
import VirtualMonitor.Text.Word
import VirtualMonitor.Uuid
import VirtualMonitor.Proofs.Driver.HandleSlots
import VirtualMonitor.Proofs.Driver.OpenHandles
import VirtualMonitor.Proofs.Driver.Ports
import VirtualMonitor.Proofs.Display.Registry
import VirtualMonitor.Proofs.Manager.Holding
import VirtualMonitor.Proofs.Manager.Effect
import VirtualMonitor.Proofs.Manager.Accounting
import VirtualMonitor.Proofs.Path
import VirtualMonitor.Proofs.Text.Numeral
import VirtualMonitor.Proofs.Card.Number
import VirtualMonitor.Proofs.Manager.Slots
import VirtualMonitor.Proofs.Manager.Reference
import VirtualMonitor.Proofs.Manager.Transparency
import VirtualMonitor.Proofs.Manager.Readiness
import VirtualMonitor.Proofs.Manager.Session
import VirtualMonitor.Proofs.Manager.Calls
import VirtualMonitor.Proofs.Edid.Checksum
import VirtualMonitor.Proofs.Edid.Layout
import VirtualMonitor.Proofs.Edid.InPlace
import VirtualMonitor.Proofs.Edid.WellFormed
import VirtualMonitor.Proofs.Edid.PreferredTiming
import VirtualMonitor.Proofs.Manager.Names
import VirtualMonitor.Proofs.Driver.SlotSearch
import VirtualMonitor.Proofs.Manager.Passthrough
import VirtualMonitor.Proofs.Manager.Recreation
import VirtualMonitor.Proofs.Manager.Past
import VirtualMonitor.Proofs.Manager.Reset
import VirtualMonitor.Proofs.Json.Token
import VirtualMonitor.Proofs.Json.Value
import VirtualMonitor.Proofs.Config.RoundTrip
import VirtualMonitor.Proofs.CommandLine.Checks
import VirtualMonitor.Proofs.CommandLine.Keeping
import VirtualMonitor.Proofs.Edid.Dump
import VirtualMonitor.Proofs.CommandLine.Runs
import VirtualMonitor.Proofs.Driver.SlotRows
import VirtualMonitor.Proofs.Edid.TimingFields
import VirtualMonitor.Proofs.Manager.Exhaustion
import VirtualMonitor.Proofs.Manager.HeldSlots
import VirtualMonitor.Proofs.Manager.LeastSlot
import VirtualMonitor.Proofs.Config.Overrides
import VirtualMonitor.Proofs.Edid.TimingRule
import VirtualMonitor.Proofs.Edid.Influence
import VirtualMonitor.Proofs.Binary64.Arithmetic
import VirtualMonitor.Proofs.Binary64.Number
import VirtualMonitor.Proofs.CommandLine.ModeGrammar
import VirtualMonitor.Proofs.Edid.ClockEstimate
import VirtualMonitor.Proofs.Manager.Loading
import VirtualMonitor.Proofs.Manager.Look
import VirtualMonitor.Proofs.Driver.Protocol
import VirtualMonitor.Proofs.Text.Order
import VirtualMonitor.Proofs.Display.Partings
import VirtualMonitor.Proofs.Display.Entries
import VirtualMonitor.Proofs.KernelModule
import VirtualMonitor.Proofs.Card.Listing
import VirtualMonitor.Proofs.Driver.HandleWords
