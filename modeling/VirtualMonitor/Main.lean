import VirtualMonitor.CommandLine.Run

/-!
# The program

`main` gathers what the pure layer needs, the configuration file that the
environment names, the listing of kernel modules and a random UUID, and prints
the outcome of the command.  It binds no driver library, so every display it
keeps is passthrough; while it keeps one it lets time pass and has the watchdog
look once the interval is over.
-/

namespace VirtualMonitor

private def configVariable : String := "VDISPLAY_CONFIG"

private def readNode (path : String) : IO (Option FileTree) := do
  try
    let contents ← IO.FS.readBinFile path
    return some (.file contents.toList)
  catch _ => return none

/-- A view of the files at the given paths, and of nothing else. -/
private def readFiles (paths : List String) : IO Files := do
  let nodes ← paths.mapM fun path => return (path, ← readNode path)
  return ⟨fun path => (nodes.lookup path).join⟩

/-- A random UUID of version 4. -/
private def randomUuid : IO Uuid := do
  let mut digits := Vector.replicate 32 (Uuid.digitOf 0)
  for place in [0:32] do
    digits := digits.setIfInBounds place (Uuid.digitOf (← IO.rand 0 15))
  let variant := Uuid.digitOf (8 + (← IO.rand 0 3))
  return ⟨(digits.setIfInBounds 12 (Uuid.digitOf 4)).setIfInBounds 16 variant⟩

private def sleepFor (milliseconds : Nat) : IO Unit := do
  for _ in [0:milliseconds / 1000] do
    IO.sleep 1000
  IO.sleep (UInt32.ofNat (milliseconds % 1000))

/-- Lets the time of a kept display pass; gives the loss that ends it early. -/
private def waitFor (kept : CommandLine.Kept) (seconds : UInt64) :
    IO (Option Loss × CommandLine.Kept) := do
  let total := seconds.toNat * 1000
  let interval := kept.manager.config.watchdogInterval.toNat
  if CommandLine.looksWithin kept.manager.config seconds then
    sleepFor interval
    let (loss?, scanned) := kept.manager.scan
    if loss?.isNone then sleepFor (total - interval)
    return (loss?, { kept with manager := scanned })
  else
    sleepFor total
    return (none, kept)

/-- Prints an outcome; gives its exit code. -/
private def conclude (outcome : CommandLine.Outcome) (printed : Bool) : IO UInt32 := do
  unless printed do IO.print outcome.output
  IO.eprint outcome.errors
  return outcome.code

private def carryOut (arguments : List String) : IO UInt32 := do
  let configPath? ← IO.getEnv configVariable
  let config := Config.fromEnvironment (← readFiles configPath?.toList) configPath?
  let host : Host :=
    ⟨← readFiles [config.moduleListing], .libraries, .fresh (.scripted (.ofScript .empty)), 0⟩
  let manager := Manager.new config host
  let uuid ← randomUuid
  match CommandLine.parse arguments with
  | .ok (.create mode seconds) =>
    match CommandLine.begin mode uuid manager with
    | .error (outcome, _) => conclude outcome false
    | .ok kept =>
      IO.print kept.output
      let (loss?, kept) ← waitFor kept seconds
      conclude (kept.finish loss?).1 true
  | _ => conclude (CommandLine.run arguments uuid manager).1 false

end VirtualMonitor

def main (arguments : List String) : IO UInt32 := VirtualMonitor.carryOut arguments
