import VirtualMonitor.Driver.Connection
import VirtualMonitor.Proofs.Driver.HandleSlots
import VirtualMonitor.Proofs.Driver.OpenHandles

/-!
# Ports of connections

A connection shows in the trace as a port.  This module lifts the lemmas on single
calls to what a connection does (`Connection.leaves_connect`,
`Connection.leaves_release`), and to the questions that are asked before one is
opened: `Asked before after` says that a driver was asked about slots and for new
devices only, and that no handle was touched on the way.
-/

namespace VirtualMonitor

/-! ## Questions that touch no handle -/

/-- From one state of a driver to the other no handle was touched, and the driver
makes its handles as before. -/
structure Asked (before after : Driver) : Prop where
  trace : ∃ calls, after.trace = before.trace ++ calls ∧ ∀ call ∈ calls, Trace.IsQuiet call
  handleOf : after.backend.handleOf = before.backend.handleOf

namespace Asked

variable {first second third : Driver}

theorem refl (driver : Driver) : Asked driver driver := ⟨⟨[], by simp⟩, rfl⟩

theorem trans (hfirst : Asked first second) (hsecond : Asked second third) :
    Asked first third := by
  obtain ⟨⟨calls, htrace, hquiet⟩, hhandles⟩ := hfirst
  obtain ⟨⟨others, hothers, hquietOthers⟩, hhandlesOthers⟩ := hsecond
  refine ⟨⟨calls ++ others, by rw [hothers, htrace, List.append_assoc], ?_⟩,
    hhandlesOthers.trans hhandles⟩
  intro call hcall
  rcases List.mem_append.mp hcall with hcall | hcall
  · exact hquiet call hcall
  · exact hquietOthers call hcall

theorem check (slot : Int32) (driver : Driver) : Asked driver (driver.check slot).2 :=
  ⟨⟨[.checkDevice slot], by simp [Trace.IsQuiet]⟩, rfl⟩

theorem add (driver : Driver) : Asked driver driver.add.2 :=
  ⟨⟨[.addDevice], by simp [Trace.IsQuiet]⟩, driver.backend.handleOf_add⟩

theorem openSlot {slot : Int32} {driver : Driver} (hrefused : driver.backend.grant? slot = none) :
    Asked driver (driver.openSlot slot).2 :=
  ⟨⟨[.openDevice slot none], by simp [hrefused, Trace.IsQuiet]⟩, rfl⟩

/-- A change of the backend that keeps the handles is not seen in the trace. -/
theorem withBackend {change : Backend → Backend} (driver : Driver)
    (hchange : (change driver.backend).handleOf = driver.backend.handleOf) :
    Asked driver (driver.withBackend change) :=
  ⟨⟨[], by simp⟩, hchange⟩

theorem leaves {ports : List Port} (hasked : Asked first second)
    (hleaves : Trace.Leaves first.trace ports) : Trace.Leaves second.trace ports := by
  obtain ⟨calls, htrace, hquiet⟩ := hasked.trace
  rw [htrace]
  clear htrace
  induction calls using List.reverseRecOn with
  | nil => simpa using hleaves
  | append_singleton calls call ih =>
      rw [← List.append_assoc]
      refine (ih fun other hother => hquiet other ?_).quiet (hquiet call ?_)
      · exact List.mem_append_left _ hother
      · simp

end Asked

/-! ## Connections -/

namespace Connection

/-- A connection as it shows in a trace; `edid` is what it plugged in last. -/
def port (edid : List UInt8) (connection : Connection) : Port :=
  ⟨connection.handle, if connection.connected then some edid else none⟩

variable {connection : Connection} {driver : Driver} {edid : List UInt8} {ports : List Port}

theorem leaves_disconnect
    (hleaves : Trace.Leaves driver.trace (connection.port edid :: ports)) :
    Trace.Leaves (connection.disconnect driver).2.trace (⟨connection.handle, none⟩ :: ports) := by
  rw [trace_disconnect]
  cases hconnected : connection.connected with
  | true => exact hleaves.disconnect
  | false => simpa [port, hconnected] using hleaves

theorem leaves_connect (other : List UInt8)
    (hleaves : Trace.Leaves driver.trace (connection.port edid :: ports)) :
    Trace.Leaves (connection.connect other driver).2.trace
      ((connection.connect other driver).1.port other :: ports) := by
  have hunplugged := leaves_disconnect hleaves
  have hplugged := hunplugged.connect other 0
  simpa [connect, port] using hplugged

theorem leaves_release
    (hleaves : Trace.Leaves driver.trace (connection.port edid :: ports)) :
    Trace.Leaves (connection.release driver).trace ports := by
  have hunplugged := leaves_disconnect hleaves
  have hclosed := hunplugged.close
  simpa [release] using hclosed

theorem leaves_frame (call : FrameCall)
    (hleaves : Trace.Leaves driver.trace (connection.port edid :: ports)) :
    Trace.Leaves (connection.frame call driver).2.trace (connection.port edid :: ports) :=
  hleaves.frame call

@[simp] theorem backend_disconnect (connection : Connection) (driver : Driver) :
    (connection.disconnect driver).2.backend = driver.backend := by
  unfold disconnect
  split <;> rfl

@[simp] theorem backend_connect (other : List UInt8) (connection : Connection)
    (driver : Driver) : (connection.connect other driver).2.backend = driver.backend :=
  backend_disconnect connection driver

@[simp] theorem backend_release (connection : Connection) (driver : Driver) :
    (connection.release driver).backend = driver.backend :=
  backend_disconnect connection driver

end Connection

end VirtualMonitor
