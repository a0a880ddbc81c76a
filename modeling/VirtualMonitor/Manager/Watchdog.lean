import VirtualMonitor.Manager.Displays

/-!
# The watchdog

While it runs, the watchdog looks at the displays from time to time.  A look asks
every active display that has a device, in registry order, whether the device is
alive, and stops at the first that is not.  That loss is reported once, to the
one who started the watchdog, and the watchdog is finished; only closing the
driver makes room for another.
-/

namespace VirtualMonitor

/-- The report of a device that has gone. -/
structure Loss where
  /-- The display whose device was found gone first. -/
  name : String
  code : Int32
  deriving DecidableEq

namespace Manager

/-- Looks for the first active display whose device is gone. -/
def findLoss : List Record → Driver → Option Loss × Driver
  | [], driver => (none, driver)
  | record :: rest, driver =>
    match record.display.active, record.hardware? with
    | true, some hardware =>
      let (code, driver) := hardware.connection.alive driver
      if code < 0 then (some ⟨record.name, code⟩, driver) else findLoss rest driver
    | _, _ => findLoss rest driver

/-- Starts a watchdog unless the session has had one already; says whether it was
started. -/
def startWatchdog (reaction : Reaction) (manager : Manager) : Bool × Manager :=
  match manager.watchdog with
  | .absent => (true, { manager with watchdog := .running reaction })
  | .running _ | .finished => (false, manager)

def react (manager : Manager) : Reaction → Manager
  | .report => manager
  | .markFailed => manager.markFailed
  | .closeDriver => manager.closeDriver

/-- One look of the watchdog, if it is running. -/
def scan (manager : Manager) : Option Loss × Manager :=
  match manager.watchdog with
  | .absent | .finished => (none, manager)
  | .running reaction =>
    match findLoss manager.registry.records manager.host.driver with
    | (none, driver) => (none, manager.withDriver driver)
    | (some loss, driver) =>
      (some loss, react { manager.withDriver driver with watchdog := .finished } reaction)

end Manager

end VirtualMonitor
