import Mathlib.Data.List.Induction
import Mathlib.Data.List.Perm.Basic
import VirtualMonitor.Driver

/-!
# The handles a trace leaves open

A trace is read from its beginning.  `openHandles` is what it shows as opened and
not yet closed, and `plugged?` is the EDID of the monitor that is plugged into a
handle.  A trace is `Disciplined` when every request is made on a handle that is
open at that moment and no opening grants a handle that is open already; so no
handle is closed twice, and none is used after it was closed.

`Leaves trace ports` says all of this at once: the trace is disciplined, and what
it leaves open is exactly `ports`, each handle once and with that monitor plugged
in.  There is one lemma for each kind of call, saying how the ports change when the
call is appended; whoever makes calls needs nothing else.
-/

namespace VirtualMonitor

/-- The EDID that a request plugs in. -/
def Request.edid? : Request → Option (List UInt8)
  | .connect edid _ => some edid
  | _ => none

namespace Trace

/-! ## Reading a trace -/

/-- The handles that are open after one more call. -/
def openAfter (handles : List Handle) : Call → List Handle
  | .openDevice _ (some handle) => handle :: handles
  | .onHandle handle .close => handles.erase handle
  | _ => handles

/-- The handles that a trace shows as opened and not yet closed. -/
def openHandles (trace : List Call) : List Handle := trace.foldl openAfter []

/-- What is plugged into a handle after one more call. -/
def pluggedAfter (handle : Handle) (edid? : Option (List UInt8)) : Call → Option (List UInt8)
  | .openDevice _ (some other) => if other = handle then none else edid?
  | .onHandle other (.connect edid _) => if other = handle then some edid else edid?
  | .onHandle other .disconnect => if other = handle then none else edid?
  | _ => edid?

/-- The EDID of the monitor that is plugged into a handle: the one it was connected
with last, unless it was disconnected or opened since. -/
def plugged? (handle : Handle) (trace : List Call) : Option (List UInt8) :=
  trace.foldl (pluggedAfter handle) none

/-- The EDID of the last connecting request on a handle. -/
def lastEdid? (handle : Handle) (trace : List Call) : Option (List UInt8) :=
  ((trace.filterMap (Call.requestOn? handle)).filterMap Request.edid?).getLast?

/-- Whether a call may be made while the given handles are open: a request needs an
open handle, and an opening grants one that is not open yet. -/
def Allowed (handles : List Handle) : Call → Prop
  | .openDevice _ (some handle) => handle ∉ handles
  | .onHandle handle _ => handle ∈ handles
  | _ => True

/-- Every call of the trace was allowed when it was made. -/
def Disciplined (trace : List Call) : Prop :=
  ∀ earlier call later, trace = earlier ++ call :: later → Allowed (openHandles earlier) call

@[simp] theorem openHandles_nil : openHandles [] = [] := rfl

@[simp] theorem openHandles_concat (trace : List Call) (call : Call) :
    openHandles (trace ++ [call]) = openAfter (openHandles trace) call := by
  simp [openHandles]

@[simp] theorem plugged?_concat (handle : Handle) (trace : List Call) (call : Call) :
    plugged? handle (trace ++ [call]) = pluggedAfter handle (plugged? handle trace) call := by
  simp [plugged?]

@[simp] theorem lastEdid?_concat (handle : Handle) (trace : List Call) (call : Call) :
    lastEdid? handle (trace ++ [call]) =
      ((call.requestOn? handle).bind Request.edid?).or (lastEdid? handle trace) := by
  cases hrequest : call.requestOn? handle with
  | none => simp [lastEdid?, hrequest]
  | some request =>
      cases hedid : request.edid? <;> simp [lastEdid?, hrequest, hedid]

theorem disciplined_nil : Disciplined [] := by
  intro earlier call later hsplit
  simp at hsplit

/-- One more allowed call keeps a trace disciplined. -/
theorem Disciplined.concat {trace : List Call} {call : Call} (htrace : Disciplined trace)
    (hcall : Allowed (openHandles trace) call) : Disciplined (trace ++ [call]) := by
  intro earlier other later hsplit
  -- the call in question is the new one, or it stands in the trace before
  cases later using List.reverseRecOn with
  | nil =>
      obtain ⟨rfl, hother⟩ := List.append_inj' hsplit rfl
      cases hother
      exact hcall
  | append_singleton later last =>
      have hshorter : trace ++ [call] = (earlier ++ other :: later) ++ [last] := by
        simpa using hsplit
      exact htrace earlier other later (List.append_inj' hshorter rfl).1

/-- In a disciplined trace no handle is open twice at once. -/
theorem Disciplined.nodup_openHandles {trace : List Call} (htrace : Disciplined trace) :
    (openHandles trace).Nodup := by
  induction trace using List.reverseRecOn with
  | nil => simp
  | append_singleton trace call ih =>
      have hearlier : Disciplined trace := fun earlier other later hsplit =>
        htrace earlier other (later ++ [call]) (by simp [hsplit])
      have hcall : Allowed (openHandles trace) call := htrace trace call [] rfl
      have hnodup := ih hearlier
      rw [openHandles_concat]
      -- only an opening adds a handle, and it was allowed
      cases call with
      | openDevice slot granted? =>
          cases granted? with
          | none => exact hnodup
          | some handle => exact List.nodup_cons.mpr ⟨hcall, hnodup⟩
      | onHandle handle request =>
          cases request with
          | close => exact hnodup.erase handle
          | _ => exact hnodup
      | _ => exact hnodup

/-- A handle that is not open stays so until it is granted again. -/
theorem notMem_openHandles_append {handle : Handle} {trace later : List Call}
    (hclosed : handle ∉ openHandles trace)
    (hlater : ∀ slot, .openDevice slot (some handle) ∉ later) :
    handle ∉ openHandles (trace ++ later) := by
  induction later using List.reverseRecOn with
  | nil => simpa using hclosed
  | append_singleton later call ih =>
      simp only [List.mem_append, List.mem_singleton, not_or] at hlater
      have hbefore := ih fun slot => (hlater slot).1
      rw [← List.append_assoc, openHandles_concat]
      -- only a grant of this handle could open it, and `hlater` excludes that one call
      cases call with
      | openDevice slot granted? =>
          cases granted? with
          | none => exact hbefore
          | some other =>
              have hne : handle ≠ other := fun heq => (hlater slot).2 (heq ▸ rfl)
              simpa [openAfter, hne] using hbefore
      | onHandle other request =>
          cases request with
          | close => exact fun hmem => hbefore (List.mem_of_mem_erase hmem)
          | _ => exact hbefore
      | _ => exact hbefore

/-- Between the closing of a handle and the next request on it, the handle was
granted anew.  In particular it is not closed twice. -/
theorem Disciplined.granted_between {trace earlier between later : List Call} {handle : Handle}
    {request : Request} (htrace : Disciplined trace)
    (hsplit : trace = earlier ++ .onHandle handle .close :: between ++
      .onHandle handle request :: later) :
    ∃ slot, .openDevice slot (some handle) ∈ between := by
  -- otherwise the handle would still be closed when the request is made
  by_contra hnone
  push Not at hnone
  have hprefix : Disciplined earlier := fun first call second hearlier =>
    htrace first call (second ++ .onHandle handle .close :: between ++
      .onHandle handle request :: later) (by simp [hsplit, hearlier])
  have hclosed : handle ∉ openHandles (earlier ++ [.onHandle handle .close]) := by
    rw [openHandles_concat]
    exact hprefix.nodup_openHandles.not_mem_erase
  have hopen : handle ∈ openHandles (earlier ++ .onHandle handle .close :: between) :=
    htrace _ _ later hsplit
  rw [List.append_cons] at hopen
  exact notMem_openHandles_append hclosed hnone hopen

/-- What is plugged in came with the last connecting request. -/
theorem lastEdid?_of_plugged? {handle : Handle} {trace : List Call} {edid : List UInt8}
    (hplugged : plugged? handle trace = some edid) : lastEdid? handle trace = some edid := by
  induction trace using List.reverseRecOn with
  | nil => simp [plugged?] at hplugged
  | append_singleton trace call ih =>
      rw [plugged?_concat] at hplugged
      rw [lastEdid?_concat]
      cases call with
      | checkDevice slot => exact ih hplugged
      | addDevice => exact ih hplugged
      | openDevice slot granted? =>
          cases granted? with
          | none => exact ih hplugged
          | some other =>
              by_cases hother : other = handle
              · simp [pluggedAfter, hother] at hplugged
              · simp only [pluggedAfter, hother, if_false] at hplugged
                exact ih hplugged
      | onHandle other request =>
          by_cases hother : other = handle
          · -- only a connecting request can have left this monitor plugged in
            cases request <;>
              simp_all [pluggedAfter, Call.requestOn?, Request.edid?]
          · have hbefore : plugged? handle trace = some edid := by
              cases request <;> simpa [pluggedAfter, hother] using hplugged
            simp [Call.requestOn?, hother, ih hbefore]

end Trace

/-! ## Ports -/

/-- An open handle and the monitor that is plugged into it. -/
structure Port where
  handle : Handle
  edid? : Option (List UInt8)
  deriving DecidableEq

namespace Trace

/-- The trace is disciplined, and what it leaves open is exactly `ports`. -/
structure Leaves (trace : List Call) (ports : List Port) : Prop where
  disciplined : Disciplined trace
  opened : (openHandles trace).Perm (ports.map Port.handle)
  nodup : (ports.map Port.handle).Nodup
  plugged : ∀ port ∈ ports, plugged? port.handle trace = port.edid?

/-- A call that touches no handle. -/
def IsQuiet : Call → Prop
  | .openDevice _ (some _) => False
  | .onHandle _ _ => False
  | _ => True

namespace Leaves

variable {trace : List Call} {ports : List Port} {port : Port} {handle : Handle}

theorem nil : Leaves [] [] where
  disciplined := disciplined_nil
  opened := .nil
  nodup := .nil
  plugged := by simp

theorem mem_openHandles (hleaves : Leaves trace ports) :
    handle ∈ openHandles trace ↔ handle ∈ ports.map Port.handle :=
  hleaves.opened.mem_iff

theorem perm {others : List Port} (hleaves : Leaves trace ports) (hperm : ports.Perm others) :
    Leaves trace others where
  disciplined := hleaves.disciplined
  opened := hleaves.opened.trans (hperm.map _)
  nodup := (hperm.map _).nodup_iff.mp hleaves.nodup
  plugged := fun port hport => hleaves.plugged port (hperm.mem_iff.mpr hport)

theorem quiet {call : Call} (hleaves : Leaves trace ports) (hquiet : IsQuiet call) :
    Leaves (trace ++ [call]) ports := by
  -- a call that touches no handle is allowed and moves neither of the two accounts
  obtain ⟨hallowed, hopen, hplugged⟩ : Allowed (openHandles trace) call ∧
      openAfter (openHandles trace) call = openHandles trace ∧
      ∀ handle edid?, pluggedAfter handle edid? call = edid? := by
    cases call with
    | checkDevice slot => exact ⟨trivial, rfl, fun _ _ => rfl⟩
    | addDevice => exact ⟨trivial, rfl, fun _ _ => rfl⟩
    | openDevice slot granted? =>
        cases granted? with
        | none => exact ⟨trivial, rfl, fun _ _ => rfl⟩
        | some handle => exact hquiet.elim
    | onHandle handle request => exact hquiet.elim
  refine ⟨hleaves.disciplined.concat hallowed, ?_, hleaves.nodup, ?_⟩
  · rw [openHandles_concat, hopen]
    exact hleaves.opened
  · intro port hport
    rw [plugged?_concat, hplugged]
    exact hleaves.plugged port hport

/-- A handle that was not open is a new port, with nothing plugged in. -/
theorem openDevice (hleaves : Leaves trace ports) (slot : Int32)
    (hfresh : handle ∉ ports.map Port.handle) :
    Leaves (trace ++ [.openDevice slot (some handle)]) (⟨handle, none⟩ :: ports) where
  disciplined := hleaves.disciplined.concat (by rwa [Allowed, hleaves.mem_openHandles])
  opened := by
    rw [openHandles_concat]
    exact hleaves.opened.cons handle
  nodup := List.nodup_cons.mpr ⟨hfresh, hleaves.nodup⟩
  plugged := by
    intro other hother
    rw [plugged?_concat]
    rcases List.mem_cons.mp hother with rfl | hother
    · simp [pluggedAfter]
    · have hne : handle ≠ other.handle := fun heq =>
        hfresh (heq ▸ List.mem_map_of_mem hother)
      simpa [pluggedAfter, hne] using hleaves.plugged other hother

/-- A request other than closing keeps a port open; `hport` says what it leaves
plugged in, and every other port is as it was. -/
private theorem request {request : Request} {after? : Option (List UInt8)}
    (hleaves : Leaves trace (port :: ports)) (hclose : request ≠ .close)
    (hport : pluggedAfter port.handle port.edid? (.onHandle port.handle request) = after?) :
    Leaves (trace ++ [.onHandle port.handle request]) (⟨port.handle, after?⟩ :: ports) where
  disciplined := hleaves.disciplined.concat (by simp [Allowed, hleaves.mem_openHandles])
  opened := by
    have hsame : openAfter (openHandles trace) (.onHandle port.handle request) =
        openHandles trace := by
      cases request <;> simp_all [openAfter]
    rw [openHandles_concat, hsame]
    simpa using hleaves.opened
  nodup := by simpa using hleaves.nodup
  plugged := by
    intro other hother
    rw [plugged?_concat]
    rcases List.mem_cons.mp hother with rfl | hother
    · rw [hleaves.plugged port List.mem_cons_self]
      exact hport
    · -- the handles of the ports are distinct, so no other port sees the request
      have hne : port.handle ≠ other.handle := by
        intro heq
        have hnotMem := (List.nodup_cons.mp hleaves.nodup).1
        exact hnotMem (heq ▸ List.mem_map_of_mem hother)
      have hsame : ∀ edid?, pluggedAfter other.handle edid? (.onHandle port.handle request) =
          edid? := by
        intro edid?
        cases request <;> simp [pluggedAfter, hne]
      rw [hsame]
      exact hleaves.plugged other (List.mem_cons_of_mem _ hother)

theorem connect (hleaves : Leaves trace (port :: ports)) (edid : List UInt8) (area : UInt32) :
    Leaves (trace ++ [.onHandle port.handle (.connect edid area)])
      (⟨port.handle, some edid⟩ :: ports) :=
  hleaves.request (by simp) (by simp [pluggedAfter])

theorem disconnect (hleaves : Leaves trace (port :: ports)) :
    Leaves (trace ++ [.onHandle port.handle .disconnect]) (⟨port.handle, none⟩ :: ports) :=
  hleaves.request (by simp) (by simp [pluggedAfter])

theorem frame (hleaves : Leaves trace (port :: ports)) (call : FrameCall) :
    Leaves (trace ++ [.onHandle port.handle (.frame call)]) (port :: ports) :=
  hleaves.request (by simp) (by simp [pluggedAfter])

/-- A closed handle is no port any more. -/
theorem close (hleaves : Leaves trace (port :: ports)) :
    Leaves (trace ++ [.onHandle port.handle .close]) ports where
  disciplined := hleaves.disciplined.concat (by simp [Allowed, hleaves.mem_openHandles])
  opened := by
    have herase := hleaves.opened.erase port.handle
    rw [openHandles_concat]
    simpa [openAfter] using herase
  nodup := (List.nodup_cons.mp hleaves.nodup).2
  plugged := by
    intro other hother
    rw [plugged?_concat]
    exact hleaves.plugged other (List.mem_cons_of_mem _ hother)

end Leaves

end Trace

end VirtualMonitor
