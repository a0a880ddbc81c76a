import VirtualMonitor.CommandLine
import VirtualMonitor.Display.Summary
import VirtualMonitor.Edid.Dump
import VirtualMonitor.Manager.Watchdog

/-!
# Carrying out a command

A run ends with an exit code and two texts.  `create` has three parts, so that
whoever carries it out can wait in the middle: a display is created (`begin`),
the watchdog may look at it while time passes, and then it is removed and the
driver is closed (`finish`).  Whichever way the run ends, the driver is closed.
-/

namespace VirtualMonitor.CommandLine

/-- What a run leaves behind for its caller. -/
structure Outcome where
  code : UInt32
  output : String
  errors : String
  deriving DecidableEq

def succeed (output : String) : Outcome := ⟨0, output, ""⟩

def fail (output : String) (failure : Failure) : Outcome := ⟨1, output, failure.report⟩

/-! ## Showing what there is -/

def outputLine (output : Card.Output) : String :=
  output.card ++ " " ++ output.name ++ " " ++
    (if output.connected then "connected" else "disconnected") ++ "\n"

/-- Opens the driver and tells what was found. -/
def probe (manager : Manager) : Outcome × Manager :=
  let opened := manager.openDriver
  let outputs := Card.outputs opened.host.files opened.config.cardDirectory
  let report := String.join
    (["driver state: ", opened.state.text, " (", opened.state.code.repr, ")\n",
      "mode: ", if opened.hardwareEnabled then "evdi" else "passthrough", "\n"] ++
      outputs.map outputLine ++
      ["primary: ", opened.primaryOutput?.getD "none", "\n"])
  (succeed report, opened.closeDriver)

/-! ## Keeping a display -/

def clientName : String := "vdisplayctl"

structure Kept where
  manager : Manager
  uuid : Uuid
  /-- What was written when the display was created. -/
  output : String

/-- Creates the display and starts the watchdog. -/
def begin (mode : Mode) (uuid : Uuid) (manager : Manager) : Except (Outcome × Manager) Kept :=
  let watched := (manager.openDriver.startWatchdog .report).2
  let request : DisplayRequest :=
    ⟨uuid, clientName, clientName, mode.width, mode.height, mode.hertz * 1000⟩
  match watched.createDisplay request with
  | (.error error, failed) =>
    .error (fail "" (.creationFailed error.message), failed.closeDriver)
  | (.ok name, created) =>
    .ok ⟨created, uuid, ((created.info? name).map Snapshot.summary).getD ""⟩

/-- Ends the run: because of a loss that was reported, or because the time is up. -/
def Kept.finish (kept : Kept) (loss? : Option Loss) : Outcome × Manager :=
  match loss? with
  | some loss =>
    (fail kept.output (.displayLost loss.name loss.code), kept.manager.markFailed.closeDriver)
  | none =>
    match kept.manager.removeDisplay kept.uuid with
    | (.ok (), removed) => (succeed kept.output, removed.closeDriver)
    | (.error error, failed) =>
      (fail kept.output (.removalFailed error.message), failed.closeDriver)

/-- Whether the watchdog comes to look before the time is up.  It is started before the waiting
begins, so a look that is due after just as long a time is due a moment earlier; which of the
two really comes first is up to the clock, and here it is the end of the waiting. -/
def looksWithin (config : Config) (seconds : UInt64) : Bool :=
  config.watchdogInterval.toNat < seconds.toNat * 1000

/-- Keeps a display for a while.  One look of the watchdog stands for them all: nothing changes
while time passes, so every later look would find what the first one found, and after a loss
there are no more.  What is proved of such runs allows for looks at any time. -/
def keep (mode : Mode) (seconds : UInt64) (uuid : Uuid) (manager : Manager) : Outcome × Manager :=
  match begin mode uuid manager with
  | .error ended => ended
  | .ok kept =>
    if looksWithin manager.config seconds then
      let (loss?, scanned) := kept.manager.scan
      { kept with manager := scanned }.finish loss?
    else kept.finish none

/-! ## Whole runs -/

def Command.run (uuid : Uuid) (manager : Manager) : Command → Outcome × Manager
  | .probe => CommandLine.probe manager
  | .edid mode => (succeed (Edid.ofMode mode).dump, manager)
  | .create mode seconds => keep mode seconds uuid manager

/-- Carries out a command line; a new display gets the given UUID. -/
def run (arguments : List String) (uuid : Uuid) (manager : Manager) : Outcome × Manager :=
  match parse arguments with
  | .ok command => command.run uuid manager
  | .error failure => (fail "" failure, manager)

end VirtualMonitor.CommandLine
