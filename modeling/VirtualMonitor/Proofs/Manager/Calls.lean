import VirtualMonitor.Proofs.Manager.Accounting
import VirtualMonitor.Proofs.Manager.Readiness

/-!
# The calls that an operation makes

What an operation asks of the driver follows from who owns which device.  Three rows of
calls are made on the device of a display: its `welcome` when the device is provisioned,
a `replug` when the display gets another mode, and its `farewell` when the device is given
up.  Operations on displays make these, on the device of the display they are meant for,
and leave every other open handle alone.

A monitor is plugged into every device that a record holds (`Holds.connected`), so each row
is fixed: giving up a device always pulls the monitor out first.

* `calls_confined`: removing, reconfiguring, creating and closing make exactly these calls,
  in this order; what is refused, and every question, makes none and changes nothing.
-/

namespace VirtualMonitor

/-! ## Rows of calls on one device -/

namespace Hardware

/-- The slot is opened, and a monitor of the mode is plugged in. -/
def welcome (mode : Mode) (hardware : Hardware) : List Call :=
  [.openDevice hardware.connection.slot (some hardware.connection.handle),
    .onHandle hardware.connection.handle (.connect (Edid.ofMode mode).bytes 0)]

/-- The monitor is pulled out, and one of the mode is plugged in. -/
def replug (mode : Mode) (hardware : Hardware) : List Call :=
  [.onHandle hardware.connection.handle .disconnect,
    .onHandle hardware.connection.handle (.connect (Edid.ofMode mode).bytes 0)]

/-- The monitor is pulled out, and the handle is closed. -/
def farewell (hardware : Hardware) : List Call :=
  [.onHandle hardware.connection.handle .disconnect, .onHandle hardware.connection.handle .close]

end Hardware

namespace Record

/-- The calls on the device of a record; a passthrough display has none. -/
def onDevice (calls : Hardware → List Call) (record : Record) : List Call :=
  record.hardware?.elim [] calls

/-- The device of a record, if it has one, has a monitor plugged in. -/
def Connected (record : Record) : Prop :=
  ∀ hardware ∈ record.hardware?, hardware.connection.connected = true

theorem trace_release {record : Record} (hconnected : record.Connected) (driver : Driver) :
    (record.release driver).trace = driver.trace ++ record.onDevice Hardware.farewell := by
  unfold release onDevice
  cases hhardware : record.hardware? with
  | none => simp
  | some hardware =>
      have hplugged := hconnected hardware hhardware
      simp [Connection.trace_release, hplugged, Hardware.farewell]

end Record

namespace Holds

variable {records : List Record} {driver : Driver}

theorem connected (hholds : Holds records driver) : ∀ record ∈ records, record.Connected :=
  fun record hrecord hardware hhardware =>
    (hholds.backed record hrecord hardware hhardware).connected

/-- The handle of a slot that no record holds is not open. -/
theorem handleOf_notMem_openHandles (hholds : Holds records driver) {slot : Int32}
    (hfree : slot ∉ records.filterMap Record.slot?) :
    driver.backend.handleOf slot ∉ Trace.openHandles driver.trace := by
  rw [hholds.leaves.mem_openHandles]
  exact hholds.handleOf_notMem hfree

end Holds

/-- Devices are given up in the order of the records. -/
theorem Registry.trace_releaseAll {registry : Registry}
    (hconnected : ∀ record ∈ registry.records, record.Connected) (driver : Driver) :
    (registry.releaseAll driver).trace =
      driver.trace ++ registry.records.flatMap (Record.onDevice Hardware.farewell) := by
  unfold releaseAll
  generalize registry.records = records at hconnected
  induction records generalizing driver with
  | nil => simp
  | cons record records ih =>
      obtain ⟨hrecord, hrest⟩ := List.forall_mem_cons.mp hconnected
      rw [List.foldl_cons, ih _ hrest, Record.trace_release hrecord, List.flatMap_cons,
        List.append_assoc]

namespace Manager

/-! ## Giving up a device -/

/-- A display that is removed is given up, and no other display changes. -/
theorem removeDisplay_of_connected {manager : Manager} {uuid : Uuid} {record : Record}
    (hget : manager.registry.get? uuid.text = some record) (hconnected : record.Connected) :
    let after := (manager.removeDisplay uuid).2
    (manager.removeDisplay uuid).1 = .ok () ∧
      after.host.driver.trace =
        manager.host.driver.trace ++ record.onDevice Hardware.farewell ∧
      after.registry.get? uuid.text = none ∧
      ∀ other ≠ uuid.text, after.registry.get? other = manager.registry.get? other := by
  intro after
  have hremoved := removeDisplay_of_get? hget
  have hregistry : after.registry = (manager.registry.remove uuid.text).2 := by
    simp only [after, hremoved]
  refine ⟨by rw [hremoved], ?_, ?_, ?_⟩
  · simp only [after, hremoved]
    exact Record.trace_release hconnected manager.host.driver
  · rw [hregistry]
    exact Registry.get?_remove_self uuid.text manager.registry
  · intro other hother
    rw [hregistry]
    exact Registry.get?_remove_of_ne hother manager.registry

/-! ## Another mode -/

/-- Where a monitor is plugged in, another mode changes the mode and nothing else. -/
theorem remode_of_connected {record : Record} (hconnected : record.Connected)
    (width height millihertz : UInt32) (driver : Driver) :
    (remode width height millihertz record driver).1 =
      ⟨record.display.withMode width height millihertz, record.hardware?⟩ := by
  unfold remode
  cases hhardware : record.hardware? with
  | none => rfl
  | some hardware =>
      obtain ⟨⟨handle, slot, connected⟩, node?⟩ := hardware
      obtain rfl : connected = true := hconnected _ hhardware
      rfl

theorem trace_remode {record : Record} (hconnected : record.Connected)
    (width height millihertz : UInt32) (driver : Driver) :
    (remode width height millihertz record driver).2.trace = driver.trace ++
      record.onDevice (Hardware.replug (record.display.withMode width height millihertz).mode) := by
  unfold remode Record.onDevice
  cases hhardware : record.hardware? with
  | none => simp
  | some hardware =>
      have hplugged := hconnected hardware hhardware
      simp [Connection.trace_connect, hplugged, Hardware.replug]

/-- Another mode replugs the device of the first display with the name.  The display keeps
its device and all but its mode, and no other display changes. -/
theorem reconfigure_of_named? {manager : Manager} {name : String} {record : Record}
    (hnamed : manager.registry.named? name = some record) (hconnected : record.Connected)
    (width height millihertz : UInt32) :
    let after := manager.reconfigure name width height millihertz
    let changed : Record := ⟨record.display.withMode width height millihertz, record.hardware?⟩
    after.host.driver.trace =
        manager.host.driver.trace ++ record.onDevice (Hardware.replug changed.display.mode) ∧
      after.registry.get? record.uuid = some changed ∧
      ∀ other ≠ record.uuid, after.registry.get? other = manager.registry.get? other := by
  intro after changed
  have hregistry : after.registry = manager.registry.replace changed := by
    simp only [after, reconfigure, hnamed, remode_of_connected hconnected, changed]
  have hget : manager.registry.get? changed.uuid = some record := Registry.get?_of_named? hnamed
  refine ⟨?_, ?_, ?_⟩
  · simp only [after, reconfigure, hnamed]
    exact trace_remode hconnected width height millihertz manager.host.driver
  · rw [hregistry]
    exact Registry.get?_replace_self hget
  · intro other hother
    have hkept : other ≠ changed.uuid := hother
    rw [hregistry]
    exact Registry.get?_replace_of_ne hkept manager.registry

theorem reconfigure_of_named?_eq_none {manager : Manager} {name : String}
    (hnamed : manager.registry.named? name = none) (width height millihertz : UInt32) :
    manager.reconfigure name width height millihertz = manager := by
  simp only [reconfigure, hnamed]

/-! ## A new device -/

/-- Provisioning asks questions, and welcomes the device that it finds. -/
theorem trace_of_provided {manager : Manager} {mode : Mode} {outcome : Option Hardware × Driver}
    (hprovided : Provided manager mode outcome) :
    ∃ questions, (∀ call ∈ questions, Trace.IsQuiet call) ∧
      outcome.2.trace =
        manager.host.driver.trace ++ (questions ++ outcome.1.elim [] (Hardware.welcome mode)) := by
  cases hprovided with
  | refused asked =>
      obtain ⟨questions, htrace, hquiet⟩ := asked.trace
      exact ⟨questions, hquiet, by simpa using htrace⟩
  | granted asked free granted =>
      obtain ⟨questions, htrace, hquiet⟩ := asked.trace
      refine ⟨questions, hquiet, ?_⟩
      simp [htrace, granted, Hardware.welcome]

/-- Neither the questions nor the welcome of a new device touch a handle that is open. -/
theorem untouched_of_provided {manager : Manager} {mode : Mode} {outcome : Option Hardware × Driver}
    (hholds : Holds manager.registry.records manager.host.driver)
    (hprovided : Provided manager mode outcome) {questions : List Call}
    (hquiet : ∀ call ∈ questions, Trace.IsQuiet call) :
    ∀ handle ∈ Trace.openHandles manager.host.driver.trace,
      ∀ call ∈ questions ++ outcome.1.elim [] (Hardware.welcome mode),
        call.requestOn? handle = none := by
  intro handle hopen call hcall
  rcases List.mem_append.mp hcall with hquestion | hwelcome
  · have hquietCall := hquiet call hquestion
    cases call with
    | onHandle other request => exact hquietCall.elim
    | _ => rfl
  · cases hprovided with
    | refused asked => cases hwelcome
    | @granted driver slot other asked free granted =>
        -- the new handle names a free slot, and every open one names a slot that is held
        obtain ⟨-, hother⟩ := Backend.handleOf_of_grant? granted
        have hfresh : other ∉ Trace.openHandles manager.host.driver.trace := by
          rw [hother, asked.handleOf]
          exact hholds.handleOf_notMem_openHandles free
        have hne : other ≠ handle := fun heq => hfresh (heq ▸ hopen)
        rcases List.mem_pair.mp hwelcome with rfl | rfl
        · rfl
        · exact if_neg hne

/-- The display that is replaced is given up after all calls for the new one. -/
theorem trace_createDisplay {manager : Manager} (request : DisplayRequest)
    (hholds : Holds manager.registry.records manager.host.driver)
    (hready : manager.state.isReady = true) :
    (manager.createDisplay request).2.host.driver.trace =
      (manager.provision (request.display manager.config.displayNameStem).mode).2.trace ++
        (manager.registry.get? request.uuid.text).elim [] (Record.onDevice Hardware.farewell) := by
  rw [driver_createDisplay request hready]
  cases hget : manager.registry.get? request.uuid.text with
  | none => exact (List.append_nil _).symm
  | some replaced =>
      have hmem := (Registry.get?_eq_some_iff.mp hget).1
      exact Record.trace_release (hholds.connected replaced hmem) _

/-- A display that is created is registered with the device that was found for it, and the
one that it replaces is given up after all calls on that device.  No other display
changes. -/
theorem createDisplay_of_ready {manager : Manager} (request : DisplayRequest)
    (hholds : Holds manager.registry.records manager.host.driver)
    (hready : manager.state = .ready) :
    let after := (manager.createDisplay request).2
    let trace := manager.host.driver.trace
    (∃ record questions, after.registry.get? request.uuid.text = some record ∧
      record.display = request.display manager.config.displayNameStem ∧
      (∀ call ∈ questions, Trace.IsQuiet call) ∧
      after.host.driver.trace = trace ++
        (questions ++ record.onDevice (Hardware.welcome record.display.mode)) ++
          (manager.registry.get? request.uuid.text).elim [] (Record.onDevice Hardware.farewell) ∧
      ∀ handle ∈ Trace.openHandles trace,
        ∀ call ∈ questions ++ record.onDevice (Hardware.welcome record.display.mode),
          call.requestOn? handle = none) ∧
      ∀ other ≠ request.uuid.text,
        after.registry.get? other = manager.registry.get? other := by
  intro after trace
  have hisReady : manager.state.isReady = true := beq_iff_eq.mpr hready
  have hregistry := registry_createDisplay request hisReady
  have hprovided := manager.provided_provision
    (request.display manager.config.displayNameStem).mode
  -- provisioning asks quiet questions and then welcomes the device, if one is found
  obtain ⟨questions, hquiet, htrace⟩ := trace_of_provided hprovided
  have huntouched := untouched_of_provided hholds hprovided hquiet
  have hcalls := trace_createDisplay request hholds hisReady
  rw [htrace] at hcalls
  refine ⟨⟨⟨request.display manager.config.displayNameStem, _⟩, questions, ?_, rfl, hquiet, hcalls,
    huntouched⟩, ?_⟩
  · rw [hregistry]
    exact Registry.get?_insert_self ⟨request.display manager.config.displayNameStem, _⟩ _
  · intro other hother
    rw [hregistry]
    exact Registry.get?_insert_of_ne hother manager.registry

/-! ## Questions -/

/-- Operations that only look something up, and choices that are never heeded. -/
def Operation.isQuestion : Operation → Bool
  | .adapter | .hardwareEnabled | .matching _ | .isHardwareBacked _ | .slotOf _ | .info _
  | .displays | .connection _ | .primaryOutput | .choosePrimary _ | .highRange _
  | .chooseHighRange _ _ => true
  | _ => false

theorem perform_of_isQuestion {operation : Operation} (hquestion : operation.isQuestion = true)
    (manager : Manager) : (manager.perform operation).2 = manager := by
  cases operation with
  | adapter => rfl
  | hardwareEnabled => rfl
  | matching pattern => rfl
  | isHardwareBacked name => rfl
  | slotOf name => rfl
  | info name => rfl
  | displays => rfl
  | connection name => rfl
  | primaryOutput => rfl
  | choosePrimary name => rfl
  | highRange name => rfl
  | chooseHighRange name enable => rfl
  | _ => cases hquestion

/-- A frame call on the device of a display is the only call that is made. -/
theorem trace_frame (name : String) (call : FrameCall) (manager : Manager) :
    (manager.frame name call).2.registry = manager.registry ∧
      (manager.frame name call).2.host.driver.trace = manager.host.driver.trace ++
        (manager.registry.named? name).elim [] (Record.onDevice fun hardware =>
          [.onHandle hardware.connection.handle (.frame call)]) := by
  unfold frame connection?
  cases hnamed : manager.registry.named? name with
  | none => simp
  | some record => cases hhardware : record.hardware? <;> simp [Record.onDevice, hhardware,
      Connection.frame, withDriver]

/-! ## Every operation keeps to its device -/

/-- After every run, whatever the driver answers:

* removing a display says farewell to its device, and no other display changes;
* another mode replugs the device of the first display with the name, which keeps its
  device and all but its mode; no other display changes;
* creating a display asks questions and welcomes its device without touching an open
  handle, and then says farewell to the device of the display that it replaces, if any;
* what is refused makes no call and changes nothing, nor does opening a driver that is
  ready, marking it as failed, or a question; a frame call is made on the device of its
  display and is the only one;
* closing says farewell to all devices, in the order of the UUIDs. -/
theorem calls_confined (config : Config) (files : Files) (source : DriverSource)
    (backend : Backend) (probes : Nat) (operations : List Operation) :
    let manager := ((new config ⟨files, source, .fresh backend, probes⟩).run operations).2
    let trace := manager.host.driver.trace
    (∀ (uuid : Uuid) record, manager.registry.get? uuid.text = some record →
      let after := (manager.removeDisplay uuid).2
      (manager.removeDisplay uuid).1 = .ok () ∧
        after.host.driver.trace = trace ++ record.onDevice Hardware.farewell ∧
        after.registry.get? uuid.text = none ∧
        ∀ other ≠ uuid.text, after.registry.get? other = manager.registry.get? other) ∧
      (∀ name record width height millihertz, manager.registry.named? name = some record →
        let after := manager.reconfigure name width height millihertz
        let changed : Record :=
          ⟨record.display.withMode width height millihertz, record.hardware?⟩
        after.host.driver.trace = trace ++ record.onDevice (Hardware.replug changed.display.mode) ∧
          after.registry.get? record.uuid = some changed ∧
          ∀ other ≠ record.uuid, after.registry.get? other = manager.registry.get? other) ∧
      (∀ request, manager.state = .ready →
        let after := (manager.createDisplay request).2
        (∃ record questions, after.registry.get? request.uuid.text = some record ∧
          record.display = request.display manager.config.displayNameStem ∧
          (∀ call ∈ questions, Trace.IsQuiet call) ∧
          after.host.driver.trace = trace ++
            (questions ++ record.onDevice (Hardware.welcome record.display.mode)) ++
              (manager.registry.get? request.uuid.text).elim []
                (Record.onDevice Hardware.farewell) ∧
          ∀ handle ∈ Trace.openHandles trace,
            ∀ call ∈ questions ++ record.onDevice (Hardware.welcome record.display.mode),
              call.requestOn? handle = none) ∧
          ∀ other ≠ request.uuid.text,
            after.registry.get? other = manager.registry.get? other) ∧
      (∀ uuid : Uuid, manager.registry.get? uuid.text = none →
        manager.removeDisplay uuid = (.error (.notFound uuid.text), manager)) ∧
      (∀ name width height millihertz, manager.registry.named? name = none →
        manager.reconfigure name width height millihertz = manager) ∧
      (∀ request, manager.state ≠ .ready →
        manager.createDisplay request = (.error .driverNotReady, manager)) ∧
      (manager.state = .ready → manager.openDriver = manager) ∧
      (manager.markFailed.host = manager.host ∧ manager.markFailed.registry = manager.registry) ∧
      (∀ operation : Operation, operation.isQuestion = true →
        (manager.perform operation).2 = manager) ∧
      (∀ name call, (manager.frame name call).2.registry = manager.registry ∧
        (manager.frame name call).2.host.driver.trace = trace ++
          (manager.registry.named? name).elim [] (Record.onDevice fun hardware =>
            [.onHandle hardware.connection.handle (.frame call)])) ∧
      manager.closeDriver.host.driver.trace =
        trace ++ manager.registry.records.flatMap (Record.onDevice Hardware.farewell) ∧
      manager.registry.records.Pairwise (fun first second => first.uuid < second.uuid) := by
  intro manager trace
  -- every device that a record holds is connected, so a farewell has both of its calls
  have hholds : Holds manager.registry.records manager.host.driver :=
    holds_run config files source backend probes operations
  refine ⟨?_, ?_, fun request => createDisplay_of_ready request hholds,
    fun uuid => removeDisplay_of_get?_eq_none,
    fun name width height millihertz hnamed =>
      reconfigure_of_named?_eq_none hnamed width height millihertz,
    createDisplay_of_state_ne, openDriver_of_ready, ⟨rfl, rfl⟩,
    fun operation hquestion => perform_of_isQuestion hquestion manager,
    fun name call => trace_frame name call manager,
    Registry.trace_releaseAll hholds.connected _, manager.registry.sorted⟩
  · intro uuid record hget
    have hmem := (Registry.get?_eq_some_iff.mp hget).1
    exact removeDisplay_of_connected hget (hholds.connected record hmem)
  · intro name record width height millihertz hnamed
    have hmem := List.mem_of_find?_eq_some hnamed
    exact reconfigure_of_named? hnamed (hholds.connected record hmem) width height millihertz

/-- Of two displays the first is removed: its device is told farewell, and the second would
still be told so by closing the driver. -/
theorem calls_confined_removed :
    let request (digit : Fin 16) : DisplayRequest :=
      ⟨⟨Vector.replicate 32 digit⟩, "client", "screen", 1920, 1080, 60000⟩
    let manager := ((new .standard ⟨⟨fun _ => some (.file [])⟩, .given,
        .fresh (.memory (.ofSlots [.available, .available])), 0⟩).run
          [.openDriver, .create (request 0), .create (request 1)]).2
    let farewell (handle : Handle) : List Call :=
      [.onHandle handle .disconnect, .onHandle handle .close]
    (manager.removeDisplay (request 0).uuid).2.host.driver.trace =
        manager.host.driver.trace ++ farewell ⟨1⟩ ∧
      manager.closeDriver.host.driver.trace =
        manager.host.driver.trace ++ (farewell ⟨1⟩ ++ farewell ⟨2⟩) := by
  intro request manager farewell
  obtain ⟨hremove, -, -, -, -, -, -, -, -, -, hclosed, -⟩ := calls_confined .standard
    ⟨fun _ => some (.file [])⟩ .given (.memory (.ofSlots [.available, .available])) 0
    [.openDriver, .create (request 0), .create (request 1)]
  let first : Record :=
    ⟨⟨"VIRTUAL-00000000", "00000000-0000-0000-0000-000000000000", "client", "screen", 1920, 1080,
      60000, true⟩, some ⟨⟨⟨1⟩, 0, true⟩, some "/dev/dri/card0"⟩⟩
  have hremoved := hremove (request 0).uuid first (by decide +kernel)
  have hdevice : first.onDevice Hardware.farewell = farewell ⟨1⟩ := rfl
  have hdevices : manager.registry.records.flatMap (Record.onDevice Hardware.farewell) =
      farewell ⟨1⟩ ++ farewell ⟨2⟩ := by decide +kernel
  refine ⟨?_, ?_⟩
  · rw [← hdevice]
    simp only [manager]
    exact hremoved.2.1
  · rw [← hdevices]
    exact hclosed

end Manager

end VirtualMonitor
