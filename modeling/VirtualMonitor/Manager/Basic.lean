import VirtualMonitor.Config
import VirtualMonitor.KernelModule
import VirtualMonitor.Display.Registry
import VirtualMonitor.Driver.Lookup

/-!
# The display manager

The manager holds everything a process knows about its virtual displays: whether
the driver is ready, how it is reached, the registry of displays, a hint about
the render adapter and a watchdog.  It works on a host, which has files and a
driver.

Opening makes the driver ready in any case, because passthrough always works;
real monitors need a driver that is found and a kernel module that is loaded.
Closing gives everything up.
-/

namespace VirtualMonitor

/-- Where a manager finds its driver. -/
inductive DriverSource where
  | missing
  | given
  /-- A library of the machine; `missing?` says what its files have of each candidate. -/
  | loader (missing? : Files → String → Option (List String))

def DriverSource.libraries : DriverSource := .loader Library.missingFrom?

/-- The machine a manager works on. -/
structure Host where
  files : Files
  source : DriverSource
  driver : Driver
  probes : Nat

namespace Host

/-- Looks for a driver.  Loading its library makes the driver start anew. -/
def probe (candidates : List String) (host : Host) : Bool × Host :=
  let searched := { host with probes := host.probes + 1 }
  match host.source with
  | .missing => (false, searched)
  | .given => (true, searched)
  | .loader missing? =>
    match Library.probe? (missing? host.files) candidates with
    | some _ => (true, { searched with driver := host.driver.withBackend .reload })
    | none => (false, searched)

def moduleLoaded (config : Config) (host : Host) : Bool :=
  KernelModule.isLoaded host.files config.moduleName config.moduleListing config.moduleDirectory

end Host

/-- What the driver of a process is doing. -/
inductive DriverState where
  | unknown
  | ready
  | failed
  | versionIncompatible
  | watchdogFailed
  | unsupported
  deriving DecidableEq

namespace DriverState

def initial : DriverState := .unknown

/-- The number reported to the streaming host. -/
def code : DriverState → Int
  | .unknown => 1
  | .ready => 0
  | .failed => -1
  | .versionIncompatible => -2
  | .watchdogFailed => -3
  | .unsupported => -4

def isReady (state : DriverState) : Bool := state == .ready

def text : DriverState → String
  | .unknown => "unknown"
  | .ready => "ready"
  | .failed => "failed"
  | .versionIncompatible => "version incompatible"
  | .watchdogFailed => "watchdog failed"
  | .unsupported => "unsupported"

end DriverState

/-- What happens when the watchdog reports a loss. -/
inductive Reaction where
  | report
  | markFailed
  | closeDriver
  deriving DecidableEq

/-- The watchdog of a session, from one closing of the driver to the next. -/
inductive Watchdog where
  | absent
  | running (reaction : Reaction)
  /-- One has reported a loss; it does not look again. -/
  | finished
  deriving DecidableEq

/-- The state of a display manager and of its host. -/
structure Manager where
  config : Config
  host : Host
  state : DriverState
  binding : Binding
  registry : Registry
  /-- The render adapter asked for, if any. -/
  adapter? : Option String
  watchdog : Watchdog

/-- Failures that callers are told of; everything else becomes passthrough. -/
inductive DisplayError where
  | driverNotReady
  | notFound (uuid : String)
  deriving DecidableEq

def DisplayError.message : DisplayError → String
  | .driverNotReady => "virtual display driver is not initialized"
  | .notFound uuid => "virtual display not found: " ++ uuid

namespace Manager

/-- A manager that has opened nothing yet. -/
def new (config : Config) (host : Host) : Manager :=
  ⟨config, host, .initial, .absent, .empty, none, .absent⟩

def withDriver (driver : Driver) (manager : Manager) : Manager :=
  { manager with host := { manager.host with driver := driver } }

/-- Makes the driver ready.  Once it is ready this does nothing. -/
def openDriver (manager : Manager) : Manager :=
  if manager.state.isReady then manager
  else
    let (found, host) := manager.host.probe manager.config.libraryCandidates
    { manager with
      host := host
      binding := if found && host.moduleLoaded manager.config then .present else .absent
      state := .ready }

/-- Stops the watchdog, gives up every display and forgets the driver. -/
def closeDriver (manager : Manager) : Manager :=
  { manager.withDriver (manager.registry.releaseAll manager.host.driver) with
    state := .unknown
    binding := .absent
    registry := .empty
    adapter? := none
    watchdog := .absent }

/-- The driver as it is left when a manager ends.  A manager closes the driver first,
and then gives up whatever its registry still holds. -/
def drop (manager : Manager) : Driver :=
  let closed := manager.closeDriver
  closed.registry.releaseAll closed.host.driver

/-- Notes that the watchdog has reported a loss.  No display can be created until
the driver is opened again. -/
def markFailed (manager : Manager) : Manager := { manager with state := .watchdogFailed }

/-- Notes which render adapter is wanted; an empty name stands for none.  Adapters
need no choice here, so any name will do. -/
def preferAdapter (name : String) (manager : Manager) : Manager :=
  { manager with adapter? := if name.isEmpty then none else some name }

/-- Whether displays are real monitors. -/
def hardwareEnabled (manager : Manager) : Bool := manager.binding.isPresent

end Manager

end VirtualMonitor
