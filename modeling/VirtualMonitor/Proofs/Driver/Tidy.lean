import VirtualMonitor.Driver.Trace
import VirtualMonitor.Edid
import VirtualMonitor.Proofs.Driver.OpenHandles

/-!
# Tidy traces

Most calls do nothing to a device: slots are checked and added, openings are refused, and
devices are asked whether they are alive.  What a trace leaves open and plugged in can be
read off the other calls, those that `Call.acts` picks out.

A trace is `Tidy` when these are none, or the four of one visit: a device is opened, a
monitor is plugged in and pulled out, and the handle is closed.  Nothing is left open by
such a trace, nothing is left plugged in, and one EDID at most was ever shown.
-/

namespace VirtualMonitor

/-- Whether a call does something to a device: it opens the device, or makes a request
other than the question whether the device is alive. -/
def Call.acts : Call → Bool
  | .openDevice _ granted? => granted?.isSome
  | .onHandle _ (.frame .eventReady) => false
  | .onHandle _ _ => true
  | .checkDevice _ => false
  | .addDevice => false

theorem Call.acts_of_isQuiet {call : Call} (hquiet : Trace.IsQuiet call) : call.acts = false := by
  cases call with
  | openDevice slot granted? =>
      cases granted? with
      | none => rfl
      | some handle => exact hquiet.elim
  | onHandle handle request => exact hquiet.elim
  | checkDevice slot => rfl
  | addDevice => rfl

/-- The calls that do nothing to a device. -/
theorem Call.idle_cases {call : Call} (hidle : call.acts = false) :
    (∃ slot, call = .openDevice slot none) ∨
      (∃ handle, call = .onHandle handle (.frame .eventReady)) ∨
      (∃ slot, call = .checkDevice slot) ∨ call = .addDevice := by
  cases call with
  | openDevice slot granted? =>
      cases granted? with
      | none => exact .inl ⟨slot, rfl⟩
      | some handle => cases hidle
  | onHandle handle request =>
      cases request with
      | frame frameCall =>
          cases frameCall with
          | eventReady => exact .inr (.inl ⟨handle, rfl⟩)
          | _ => cases hidle
      | _ => cases hidle
  | checkDevice slot => exact .inr (.inr (.inl ⟨slot, rfl⟩))
  | addDevice => exact .inr (.inr (.inr rfl))

namespace Trace

/-- What plugs in a monitor does something to a device. -/
theorem filterMap_edid?_filter_acts (trace : List Call) :
    (trace.filter Call.acts).filterMap Call.edid? = trace.filterMap Call.edid? := by
  rw [List.filterMap_filter]
  refine List.filterMap_congr fun call _ => ?_
  split
  · rfl
  · rename_i hidle
    obtain ⟨slot, rfl⟩ | ⟨handle, rfl⟩ | ⟨slot, rfl⟩ | rfl :=
      Call.idle_cases (Bool.eq_false_iff.mpr hidle) <;> rfl

/-- Whoever goes through a trace and ignores idle calls may leave them out. -/
theorem foldl_filter_acts {α : Type} {step : α → Call → α}
    (hidle : ∀ state call, call.acts = false → step state call = state) (state : α)
    (trace : List Call) : (trace.filter Call.acts).foldl step state = trace.foldl step state := by
  induction trace generalizing state with
  | nil => rfl
  | cons call trace ih =>
      cases hacts : call.acts with
      | true => rw [List.filter_cons_of_pos hacts, List.foldl_cons, ih, List.foldl_cons]
      | false =>
          rw [List.filter_cons_of_neg (by simp [hacts]), ih, List.foldl_cons,
            hidle state call hacts]

theorem openHandles_filter_acts (trace : List Call) :
    openHandles (trace.filter Call.acts) = openHandles trace := by
  refine foldl_filter_acts (fun handles call hidle => ?_) [] trace
  obtain ⟨slot, rfl⟩ | ⟨handle, rfl⟩ | ⟨slot, rfl⟩ | rfl := Call.idle_cases hidle <;> rfl

theorem plugged?_filter_acts (handle : Handle) (trace : List Call) :
    plugged? handle (trace.filter Call.acts) = plugged? handle trace := by
  refine foldl_filter_acts (fun edid? call hidle => ?_) none trace
  obtain ⟨slot, rfl⟩ | ⟨handle, rfl⟩ | ⟨slot, rfl⟩ | rfl := Call.idle_cases hidle <;> rfl

/-- All that was done to devices: nothing, or one device was opened, got a monitor of the
mode, lost it again and was closed. -/
def Tidy (mode : Mode) (trace : List Call) : Prop :=
  trace.filter Call.acts = [] ∨ ∃ slot handle, trace.filter Call.acts =
    [.openDevice slot (some handle), .onHandle handle (.connect (Edid.ofMode mode).bytes 0),
      .onHandle handle .disconnect, .onHandle handle .close]

namespace Tidy

variable {mode : Mode} {trace : List Call}

theorem openHandles_eq_nil (htidy : Tidy mode trace) : openHandles trace = [] := by
  rw [← openHandles_filter_acts]
  rcases htidy with hnone | ⟨slot, handle, hvisit⟩
  · rw [hnone, openHandles_nil]
  · rw [hvisit]
    simp [openHandles, openAfter]

theorem plugged?_eq_none (htidy : Tidy mode trace) (handle : Handle) :
    plugged? handle trace = none := by
  rw [← plugged?_filter_acts]
  rcases htidy with hnone | ⟨slot, other, hvisit⟩
  · rw [hnone]
    rfl
  · rw [hvisit]
    by_cases heq : other = handle <;> simp [plugged?, pluggedAfter, heq]

/-- A device that was opened got a monitor of the mode, and no other was plugged in. -/
theorem filterMap_edid?_eq (htidy : Tidy mode trace) {slot : Int32} {handle : Handle}
    (hopened : .openDevice slot (some handle) ∈ trace) :
    trace.filterMap Call.edid? = [(Edid.ofMode mode).bytes] := by
  have hacted : .openDevice slot (some handle) ∈ trace.filter Call.acts :=
    List.mem_filter.mpr ⟨hopened, rfl⟩
  rw [← filterMap_edid?_filter_acts]
  rcases htidy with hnone | ⟨_, _, hvisit⟩
  · rw [hnone] at hacted
    cases hacted
  · rw [hvisit]
    rfl

end Tidy

end Trace

end VirtualMonitor
