import VirtualMonitor.Driver.Call

/-!
# A scripted driver

`ScriptedDriver` answers by a script, whatever was asked before.  Only the row of
answers to "add a device" is used up, one answer a call; loading the driver anew
starts that row again, and a new script does not.
-/

namespace VirtualMonitor

structure Script where
  version : Version
  statuses : List Int32
  otherStatus : Int32
  /-- Answers to successive additions; the answer after the last is −1. -/
  additions : List Int32
  refusing : List Int32
  /-- Liveness answers by slot; a slot that is not listed answers zero. -/
  liveness : List (Int32 × Int32)
  updateReady : Bool
  /-- How many changed parts the driver says there are. -/
  changedCount : Int32
  deriving DecidableEq

def Script.empty : Script := ⟨⟨0, 0, 0⟩, [], 1, [], [], [], false, 0⟩

structure ScriptedDriver where
  script : Script
  /-- How many additions were answered since the driver was loaded. -/
  additionsUsed : Nat
  /-- The version reported when the driver was loaded. -/
  version : Version
  deriving DecidableEq

namespace ScriptedDriver

def ofScript (script : Script) : ScriptedDriver := ⟨script, 0, script.version⟩

def reload (driver : ScriptedDriver) : ScriptedDriver := ofScript driver.script

def rescript (script : Script) (driver : ScriptedDriver) : ScriptedDriver :=
  { driver with script := script }

def handleBase : UInt64 := 4096

def slotOf (handle : Handle) : Int32 := (handle.raw - handleBase).toUInt32.toInt32

def status (driver : ScriptedDriver) (slot : Int32) : SlotStatus :=
  SlotStatus.ofCode <|
    if slot < 0 then driver.script.otherStatus
    else (driver.script.statuses[slot.toInt.toNat]?).getD driver.script.otherStatus

/-- Adds a device; a negative answer is a refusal. -/
def add (driver : ScriptedDriver) : Option Int32 × ScriptedDriver :=
  let answer := (driver.script.additions[driver.additionsUsed]?).getD (-1)
  (if 0 ≤ answer then some answer else none,
    { driver with additionsUsed := driver.additionsUsed + 1 })

/-- The handle that opening a slot gives; any slot can be opened that exists and
is not refused, whatever its status. -/
def grant? (driver : ScriptedDriver) (slot : Int32) : Option Handle :=
  if 0 ≤ slot ∧ slot ∉ driver.script.refusing then some ⟨handleBase + slot.toInt64.toUInt64⟩
  else none

def alive (driver : ScriptedDriver) (handle : Handle) : Int32 :=
  (driver.script.liveness.lookup (slotOf handle)).getD 0

/-- The changed parts of the picture, no more than one request can report. -/
def changed (driver : ScriptedDriver) : List Rect :=
  (List.range (min driver.script.changedCount.toInt.toNat Rect.maxCount)).map fun index =>
    let place := Int32.ofNat index
    ⟨place, place + 1, 2 * place, 3 * place⟩

end ScriptedDriver

end VirtualMonitor
