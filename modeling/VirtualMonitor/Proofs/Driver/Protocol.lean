import Mathlib.Data.List.Chain
import VirtualMonitor.Driver.Sharing
import VirtualMonitor.Proofs.Driver.OpenHandles

/-!
# The protocol of a connection

What a driver sees through one connection depends on what is done with that connection and
on nothing else, whatever happens to the driver and to other connections meanwhile.
Whether a monitor is plugged in can be read off the uses so far (`pluggedIn`), and with it
which requests a use makes (`requestsOf`).

* `connection_protocol`: the requests are the frame calls in order, and plugging in and
  pulling out in turn; giving the connection up pulls out what is plugged in and closes the
  handle, which ends the requests.
-/

namespace VirtualMonitor

/-! ## Requests -/

/-- Whether a request plugs a monitor in (`true`) or pulls it out (`false`). -/
def Request.plugs? : Request → Option Bool
  | .connect _ _ => some true
  | .disconnect => some false
  | _ => none

def Request.frame? : Request → Option FrameCall
  | .frame call => some call
  | _ => none

namespace Connection

/-- Whether a use plugs a monitor in (`true`) or pulls it out (`false`). -/
def Use.plugs? : Use → Option Bool
  | .connect _ => some true
  | .disconnect => some false
  | .frame _ => none

def Use.edid? : Use → Option (List UInt8)
  | .connect edid => some edid
  | _ => none

def Use.frame? : Use → Option FrameCall
  | .frame call => some call
  | _ => none

/-- Whether a monitor is plugged in after some uses: the last that plugs in or pulls out
decides. -/
def pluggedIn (uses : List Use) : Bool := (uses.filterMap Use.plugs?).getLastD false

/-- The request that pulls out what is plugged in. -/
def pullOut (plugged : Bool) : List Request := if plugged then [.disconnect] else []

/-- The requests that a use makes. -/
def Use.requests (plugged : Bool) : Use → List Request
  | .connect edid => pullOut plugged ++ [.connect edid 0]
  | .disconnect => pullOut plugged
  | .frame call => [.frame call]

/-- The requests that uses make after earlier ones. -/
def requestsOf (earlier : List Use) : List Use → List Request
  | [] => []
  | use :: later => use.requests (pluggedIn earlier) ++ requestsOf (earlier ++ [use]) later

theorem pluggedIn_append (earlier : List Use) (use : Use) :
    pluggedIn (earlier ++ [use]) = use.plugs?.getD (pluggedIn earlier) := by
  cases use <;> simp [pluggedIn, Use.plugs?]

theorem close_notMem_requestsOf (earlier uses : List Use) : .close ∉ requestsOf earlier uses := by
  induction uses generalizing earlier with
  | nil => simp [requestsOf]
  | cons use uses ih =>
      have huse : .close ∉ use.requests (pluggedIn earlier) := by
        cases use <;> cases pluggedIn earlier <;> simp [Use.requests, pullOut]
      exact List.not_mem_append huse (ih _)

/-- What can be read off the requests of every use can be read off those of a row. -/
private theorem filterMap_requestsOf {α : Type} {ofRequest : Request → Option α}
    {ofUse : Use → Option α}
    (hone : ∀ use plugged, (use.requests plugged).filterMap ofRequest = (ofUse use).toList)
    (earlier uses : List Use) :
    (requestsOf earlier uses).filterMap ofRequest = uses.filterMap ofUse := by
  induction uses generalizing earlier with
  | nil => rfl
  | cons use uses ih =>
      rw [requestsOf, List.filterMap_append, hone, ih, List.filterMap_cons]
      cases ofUse use <;> rfl

theorem filterMap_frame?_requestsOf (earlier uses : List Use) :
    (requestsOf earlier uses).filterMap Request.frame? = uses.filterMap Use.frame? :=
  filterMap_requestsOf (fun use plugged => by cases use <;> cases plugged <;> rfl) earlier uses

theorem filterMap_edid?_requestsOf (earlier uses : List Use) :
    (requestsOf earlier uses).filterMap Request.edid? = uses.filterMap Use.edid? :=
  filterMap_requestsOf (fun use plugged => by cases use <;> cases plugged <;> rfl) earlier uses

/-- One use keeps to plugging in and pulling out in turn. -/
private theorem Use.isChain_plugs (use : Use) (plugged : Bool) {later : List Bool}
    (hlater : (use.plugs?.getD plugged :: later).IsChain (· ≠ ·)) :
    (plugged :: ((use.requests plugged).filterMap Request.plugs? ++ later)).IsChain (· ≠ ·) := by
  cases use with
  | connect edid =>
      cases plugged <;> simpa [Use.requests, pullOut, Request.plugs?, Use.plugs?] using hlater
  | disconnect =>
      cases plugged <;> simpa [Use.requests, pullOut, Request.plugs?, Use.plugs?] using hlater
  | frame call => exact hlater

private theorem Use.getLastD_plugs (use : Use) (plugged : Bool) (later : List Bool) :
    ((use.requests plugged).filterMap Request.plugs? ++ later).getLastD plugged =
      later.getLastD (use.plugs?.getD plugged) := by
  cases use with
  | connect edid =>
      cases plugged with
      | false => exact List.getLastD_cons ..
      | true => exact (List.getLastD_cons ..).trans (List.getLastD_cons ..)
  | disconnect =>
      cases plugged with
      | false => rfl
      | true => exact List.getLastD_cons ..
  | frame call => rfl

/-- Plugging in and pulling out alternate, from what is plugged in before. -/
theorem isChain_plugs (earlier uses : List Use) :
    (pluggedIn earlier :: (requestsOf earlier uses).filterMap Request.plugs?).IsChain (· ≠ ·) := by
  induction uses generalizing earlier with
  | nil => exact List.isChain_singleton _
  | cons use uses ih =>
      rw [requestsOf, List.filterMap_append]
      refine use.isChain_plugs _ ?_
      rw [← pluggedIn_append]
      exact ih _

/-- The last that is plugged in or pulled out says what is plugged in now. -/
theorem getLastD_plugs (earlier uses : List Use) :
    ((requestsOf earlier uses).filterMap Request.plugs?).getLastD (pluggedIn earlier) =
      pluggedIn (earlier ++ uses) := by
  induction uses generalizing earlier with
  | nil => simp [requestsOf]
  | cons use uses ih =>
      rw [requestsOf, List.filterMap_append, use.getLastD_plugs, ← pluggedIn_append, ih,
        List.append_assoc, List.singleton_append]

/-! ## What is done to one connection -/

theorem trace_perform (connection : Connection) (driver : Driver) (use : Use) :
    (connection.perform driver use).2.trace =
      driver.trace ++ (use.requests connection.connected).map (.onHandle connection.handle) := by
  cases use with
  | connect edid =>
      cases hconnected : connection.connected <;>
        simp [perform, trace_connect, hconnected, Use.requests, pullOut]
  | disconnect =>
      cases hconnected : connection.connected <;>
        simp [perform, trace_disconnect, hconnected, Use.requests, pullOut]
  | frame call => rfl

/-- A use changes nothing of a connection but whether a monitor is plugged in. -/
theorem fst_perform (connection : Connection) (driver : Driver) (use : Use) :
    (connection.perform driver use).1 =
      { connection with connected := use.plugs?.getD connection.connected } := by
  obtain ⟨handle, slot, connected⟩ := connection
  cases use with
  | connect edid => cases connected <;> rfl
  | disconnect => cases connected <;> rfl
  | frame call => rfl

theorem trace_release_eq_map (connection : Connection) (driver : Driver) :
    (connection.release driver).trace = driver.trace ++
      (pullOut connection.connected ++ [Request.close]).map (.onHandle connection.handle) := by
  cases hconnected : connection.connected <;> simp [trace_release, hconnected, pullOut]

end Connection

namespace Sharing

open Connection

variable {sharing : Sharing} {step : Step} {number : Nat} {connection : Connection}

/-! ## One step -/

theorem perform_use (hconnection : sharing.connection? number = some connection) (use : Use) :
    sharing.perform (.use number use) =
      ⟨sharing.binding, (connection.perform sharing.driver use).2,
        sharing.connections.set number (some (connection.perform sharing.driver use).1)⟩ := by
  simp only [perform, hconnection]

theorem perform_giveUp (hconnection : sharing.connection? number = some connection) :
    sharing.perform (.giveUp number) = ⟨sharing.binding, connection.release sharing.driver,
      sharing.connections.set number none⟩ := by
  simp only [perform, hconnection]

/-- Nothing can be done with a connection that does not exist. -/
theorem perform_of_none (hconnection : sharing.connection? number = none)
    (hnumber : step.number? = some number) : sharing.perform step = sharing := by
  cases step with
  | use other use =>
      obtain rfl := Option.some_inj.mp hnumber
      simp only [perform, hconnection]
  | giveUp other =>
      obtain rfl := Option.some_inj.mp hnumber
      simp only [perform, hconnection]
  | _ => cases hnumber

theorem trace_send? {binding : Binding} {handle : Handle} {request : Request}
    {driver after : Driver} {reply : Reply}
    (hsent : binding.send? handle request driver = some (reply, after)) :
    driver.trace <+: after.trace := by
  cases binding with
  | absent =>
      obtain ⟨-, rfl⟩ := Prod.mk.inj (Option.some_inj.mp hsent)
      exact List.prefix_rfl
  | present =>
      simp only [Binding.send?, Driver.sendChecked?] at hsent
      split at hsent
      · obtain ⟨-, rfl⟩ := Prod.mk.inj (Option.some_inj.mp hsent)
        exact List.prefix_append _ _
      · cases hsent

/-- A step only adds to the trace. -/
theorem prefix_trace_perform (sharing : Sharing) (step : Step) :
    sharing.driver.trace <+: (sharing.perform step).driver.trace := by
  cases step with
  | openSlot slot =>
      obtain ⟨binding, driver, connections⟩ := sharing
      cases binding <;> simp [perform, Connection.open?, Binding.openSlot]
  | use number use =>
      cases hconnection : sharing.connection? number with
      | none =>
          have hsame : sharing.perform (.use number use) = sharing :=
            perform_of_none hconnection rfl
          simp only [hsame, List.prefix_rfl]
      | some connection =>
          rw [perform_use hconnection, connection.trace_perform]
          exact List.prefix_append _ _
  | giveUp number =>
      cases hconnection : sharing.connection? number with
      | none =>
          have hsame : sharing.perform (.giveUp number) = sharing :=
            perform_of_none hconnection rfl
          simp only [hsame, List.prefix_rfl]
      | some connection =>
          rw [perform_giveUp hconnection, connection.trace_release_eq_map]
          exact List.prefix_append _ _
  | check slot =>
      obtain ⟨binding, driver, connections⟩ := sharing
      cases binding <;> simp [perform, Binding.check]
  | add =>
      obtain ⟨binding, driver, connections⟩ := sharing
      cases binding <;> simp [perform, Binding.add]
  | request handle request =>
      simp only [perform]
      split
      · -- a request that is turned away is not recorded
        rename_i reply after hsent
        exact trace_send? hsent
      · exact List.prefix_rfl
  | change change => exact List.prefix_rfl

theorem trace_perform (sharing : Sharing) (step : Step) :
    (sharing.perform step).driver.trace = sharing.driver.trace ++ sharing.calls step :=
  (List.prefix_iff_eq_append.mp (sharing.prefix_trace_perform step)).symm

theorem calls_eq {calls : List Call}
    (htrace : (sharing.perform step).driver.trace = sharing.driver.trace ++ calls) :
    sharing.calls step = calls := by
  rw [Sharing.calls, htrace, List.drop_left]

/-! ## The place of a connection -/

/-- What happens elsewhere leaves the place of a connection as it is. -/
theorem getElem?_perform_of_ne {place : Option Connection} (hnumber : step.number? ≠ some number)
    (hplace : sharing.connections[number]? = some place) :
    (sharing.perform step).connections[number]? = some place := by
  cases step with
  | openSlot slot =>
      -- a new connection gets a place behind all others
      have hlength := (List.getElem?_eq_some_iff.mp hplace).1
      simpa only [perform, List.getElem?_append_left hlength] using hplace
  | use other use =>
      have hother : other ≠ number := fun heq => hnumber (congrArg some heq)
      cases hconnection : sharing.connection? other with
      | none => rwa [perform_of_none hconnection rfl]
      | some connection =>
          rw [perform_use hconnection, List.getElem?_set_ne hother, hplace]
  | giveUp other =>
      have hother : other ≠ number := fun heq => hnumber (congrArg some heq)
      cases hconnection : sharing.connection? other with
      | none => rwa [perform_of_none hconnection rfl]
      | some connection =>
          rw [perform_giveUp hconnection, List.getElem?_set_ne hother, hplace]
  | check slot => exact hplace
  | add => exact hplace
  | request handle request =>
      simp only [perform]
      split <;> exact hplace
  | change change => exact hplace

theorem connection?_of_place {place : Option Connection}
    (hplace : sharing.connections[number]? = some place) :
    sharing.connection? number = place := by
  rw [connection?, hplace, Option.join_some]

/-- A use makes its requests, and the connection stays in its place. -/
theorem uses_of_place (hplace : sharing.connections[number]? = some (some connection)) (use : Use) :
    (sharing.perform (.use number use)).connections[number]? =
        some (some { connection with connected := use.plugs?.getD connection.connected }) ∧
      sharing.calls (.use number use) =
        (use.requests connection.connected).map (.onHandle connection.handle) := by
  have hperform := perform_use (connection?_of_place hplace) use
  refine ⟨?_, calls_eq ?_⟩
  · rw [hperform, ← connection.fst_perform sharing.driver use]
    exact List.getElem?_set_self (List.getElem?_eq_some_iff.mp hplace).1
  · rw [hperform]
    exact connection.trace_perform sharing.driver use

/-- Giving a connection up pulls out and closes, and leaves its place empty. -/
theorem givesUp_of_place (hplace : sharing.connections[number]? = some (some connection)) :
    (sharing.perform (.giveUp number)).connections[number]? = some none ∧
      sharing.calls (.giveUp number) =
        (pullOut connection.connected ++ [Request.close]).map (.onHandle connection.handle) := by
  have hperform := perform_giveUp (connection?_of_place hplace)
  refine ⟨?_, calls_eq ?_⟩
  · rw [hperform]
    exact List.getElem?_set_self (List.getElem?_eq_some_iff.mp hplace).1
  · rw [hperform]
    exact connection.trace_release_eq_map sharing.driver

/-! ## Runs -/

theorem through_append (number : Nat) (sharing : Sharing) (first second : List Step) :
    sharing.through number (first ++ second) =
      sharing.through number first ++ (sharing.run first).through number second := by
  induction first generalizing sharing with
  | nil => rfl
  | cons step first ih =>
      rw [List.cons_append, through, through, ih, List.append_assoc]
      rfl

/-- Nothing is called through a connection that was given up. -/
theorem through_of_empty (hempty : sharing.connections[number]? = some none) (steps : List Step) :
    sharing.through number steps = [] := by
  induction steps generalizing sharing with
  | nil => rfl
  | cons step steps ih =>
      rw [through]
      by_cases hnumber : step.number? = some number
      · have hsame := perform_of_none (connection?_of_place hempty) hnumber
        have hcalls : sharing.calls step = [] := calls_eq (by rw [hsame, List.append_nil])
        rw [if_pos hnumber, hcalls, hsame, ih hempty]
        rfl
      · rw [if_neg hnumber, ih (getElem?_perform_of_ne hnumber hempty)]
        rfl

theorem usesOf_cons_of_ne {steps : List Step} (hnumber : step.number? ≠ some number) :
    usesOf number (step :: steps) = usesOf number steps := by
  cases step with
  | use other use =>
      have hother : other ≠ number := fun heq => hnumber (congrArg some heq)
      simp [usesOf, hother]
  | _ => rfl

/-- While a connection is kept, the calls through it are the requests of its uses. -/
theorem through_of_kept {handle : Handle} {slot : Int32} {earlier : List Use} {steps : List Step}
    (hplace : sharing.connections[number]? = some (some ⟨handle, slot, pluggedIn earlier⟩))
    (hkept : .giveUp number ∉ steps) :
    sharing.through number steps =
        (requestsOf earlier (usesOf number steps)).map (.onHandle handle) ∧
      (sharing.run steps).connections[number]? =
        some (some ⟨handle, slot, pluggedIn (earlier ++ usesOf number steps)⟩) := by
  induction steps generalizing sharing earlier with
  | nil => exact ⟨rfl, by simpa [usesOf, run] using hplace⟩
  | cons step steps ih =>
      obtain ⟨hstep, hlaterKept⟩ := not_or.mp fun hmem => hkept (List.mem_cons.mpr hmem)
      rw [through]
      by_cases hnumber : step.number? = some number
      · cases step with
        | use other use =>
            obtain rfl := Option.some_inj.mp hnumber
            obtain ⟨hafter, hcalls⟩ := uses_of_place hplace use
            have huses : usesOf other (.use other use :: steps) = use :: usesOf other steps := by
              simp [usesOf]
            -- what was done earlier grows by this use, and with it the state that it stands for
            rw [← pluggedIn_append] at hafter
            obtain ⟨hlater, hlaterPlace⟩ := ih hafter hlaterKept
            rw [if_pos hnumber, hcalls, hlater, huses, requestsOf, List.map_append]
            refine ⟨rfl, ?_⟩
            rw [List.append_cons]
            exact hlaterPlace
        | giveUp other =>
            obtain rfl := Option.some_inj.mp hnumber
            exact absurd rfl hstep
        | _ => cases hnumber
      · rw [if_neg hnumber, usesOf_cons_of_ne hnumber]
        exact ih (getElem?_perform_of_ne hnumber hplace) hlaterKept

/-- Giving a connection up ends the calls through it. -/
theorem through_of_givenUp {handle : Handle} {slot : Int32} {earlier : List Use}
    {steps : List Step}
    (hplace : sharing.connections[number]? = some (some ⟨handle, slot, pluggedIn earlier⟩))
    (hkept : .giveUp number ∉ steps) (later : List Step) :
    sharing.through number (steps ++ .giveUp number :: later) =
      (requestsOf earlier (usesOf number steps) ++
        pullOut (pluggedIn (earlier ++ usesOf number steps)) ++ [Request.close]).map
          (.onHandle handle) := by
  obtain ⟨hcalls, hbefore⟩ := through_of_kept hplace hkept
  obtain ⟨hempty, hgivenUp⟩ := givesUp_of_place hbefore
  have hnumber : (Step.giveUp number).number? = some number := rfl
  rw [through_append, hcalls, through, if_pos hnumber, hgivenUp, through_of_empty hempty,
    List.append_nil, ← List.map_append, List.append_assoc]

/-! ## Opening -/

theorem connections_openSlot (sharing : Sharing) (slot : Int32) :
    (sharing.perform (.openSlot slot)).connections = sharing.connections ++
      ((Connection.open? sharing.binding slot sharing.driver).1.map some).toList := rfl

theorem calls_openSlot (sharing : Sharing) (slot : Int32) :
    sharing.calls (.openSlot slot) = match sharing.binding with
      | .absent => []
      | .present => [.openDevice slot (sharing.driver.backend.grant? slot)] := by
  refine calls_eq ?_
  obtain ⟨binding, driver, connections⟩ := sharing
  cases binding with
  | absent => exact (List.append_nil _).symm
  | present => rfl

/-- For every binding and every slot that is opened, whatever happens to the driver and to
other connections meanwhile:

* the calls that the driver sees through the new connection are requests on its handle; the
  frame calls are in order, and so are the monitors that are plugged in; plugging in and
  pulling out alternate, and plugging in comes first;
* the connection knows a monitor to be plugged in exactly if that is what the driver has seen
  last; if so, the next monitor is plugged in after pulling that one out, and otherwise
  pulling out makes no call;
* none of these requests closes the handle;
* giving the connection up pulls out what is plugged in and closes the handle; no call is
  made through it any more;
* an opening that is refused makes no connection, and no call but the opening.

The calls of a step are those that it adds to the trace. -/
theorem connection_protocol (sharing : Sharing) (slot : Int32) :
    let opening := Connection.open? sharing.binding slot sharing.driver
    let opened := sharing.perform (.openSlot slot)
    let number := sharing.connections.length
    (∀ connection, opening.1 = some connection → ∀ steps, .giveUp number ∉ steps →
      let uses := usesOf number steps
      let requests := requestsOf [] uses
      let plugs := requests.filterMap Request.plugs?
      opened.through number steps = requests.map (.onHandle connection.handle) ∧
        requests.filterMap Request.frame? = uses.filterMap Use.frame? ∧
        requests.filterMap Request.edid? = uses.filterMap Use.edid? ∧
        (false :: plugs).IsChain (· ≠ ·) ∧
        (opened.run steps).connection? number =
          some ⟨connection.handle, slot, plugs.getLast? == some true⟩ ∧
        (∀ use, (opened.run steps).calls (.use number use) =
          (use.requests (plugs.getLast? == some true)).map (.onHandle connection.handle)) ∧
        .close ∉ requests ∧
        ∀ later, opened.through number (steps ++ .giveUp number :: later) =
          (requests ++ pullOut (plugs.getLast? == some true) ++ [Request.close]).map
            (.onHandle connection.handle)) ∧
      (opening.1 = none → opened.connections = sharing.connections ∧
        sharing.calls (.openSlot slot) =
          if sharing.binding.isPresent then [.openDevice slot none] else []) ∧
      ∀ (current : Sharing) step,
        (current.perform step).driver.trace = current.driver.trace ++ current.calls step := by
  intro opening opened number
  refine ⟨?_, fun hrefused => ⟨?_, ?_⟩, trace_perform⟩
  · intro connection hopening steps hkept uses requests plugs
    -- the new connection stands in the place of its number, and nothing was done with it yet
    have hplace :
        opened.connections[number]? = some (some ⟨connection.handle, slot, pluggedIn []⟩) := by
      rw [connections_openSlot, hopening]
      obtain ⟨handle, -, rfl⟩ := Option.map_eq_some_iff.mp hopening
      exact List.getElem?_concat_length
    -- what was plugged last is what the uses come to
    have hplugged : (plugs.getLast? == some true) = pluggedIn uses := by
      have hlast := getLastD_plugs [] uses
      rw [List.getLastD_eq_getLast?] at hlast
      refine Eq.trans ?_ hlast
      cases plugs.getLast? with
      | none => rfl
      | some plugged => cases plugged <;> rfl
    rw [hplugged]
    obtain ⟨hcalls, hafter⟩ := through_of_kept hplace hkept
    exact ⟨hcalls, filterMap_frame?_requestsOf [] uses, filterMap_edid?_requestsOf [] uses,
      isChain_plugs [] uses, connection?_of_place hafter, fun use => (uses_of_place hafter use).2,
      close_notMem_requestsOf [] uses, through_of_givenUp hplace hkept⟩
  · rw [connections_openSlot, hrefused]
    exact List.append_nil _
  · rw [calls_openSlot]
    obtain ⟨binding, driver, connections⟩ := sharing
    cases binding with
    | absent => rfl
    | present =>
        have hgrant := Option.map_eq_none_iff.mp hrefused
        exact congrArg (fun granted => [Call.openDevice slot granted]) hgrant

/-- Two connections on one handle, used in turn. -/
theorem connection_protocol_interleaved :
    let start := Sharing.run ⟨.present, .fresh (.memory (.ofSlots [.available])), []⟩ [.openSlot 0]
    let steps : List Step := [.use 0 (.connect [1]), .use 1 .disconnect, .use 1 (.connect [2]),
      .use 0 .disconnect, .use 1 (.frame .grabPixels), .use 1 (.connect [3])]
    (Connection.open? .present 0 start.driver).1 = some ⟨⟨1⟩, 0, false⟩ ∧ .giveUp 1 ∉ steps ∧
      (start.perform (.openSlot 0)).through 1 (steps ++ [.giveUp 1]) =
        [Request.connect [2] 0, .frame .grabPixels, .disconnect, .connect [3] 0, .disconnect,
          .close].map (.onHandle ⟨1⟩) := by
  intro start steps
  have hopening : (Connection.open? .present 0 start.driver).1 = some ⟨⟨1⟩, 0, false⟩ := by
    decide +kernel
  have hkept : .giveUp 1 ∉ steps := by simp [steps]
  obtain ⟨hgranted, -, -⟩ := connection_protocol start 0
  obtain ⟨-, -, -, -, -, -, -, hgivenUp⟩ := hgranted _ hopening steps hkept
  exact ⟨hopening, hkept, hgivenUp []⟩

end Sharing

end VirtualMonitor
