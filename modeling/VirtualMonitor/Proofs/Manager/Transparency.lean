import VirtualMonitor.Proofs.Manager.Effect
import VirtualMonitor.Proofs.Manager.Reference
import VirtualMonitor.Proofs.Uuid

/-!
# The driver does not show

`view` forgets everything of a manager but what the reference keeps.  One demand is
answered alike by the manager and by its view, and their next states agree again
(`serve_view`), whatever the host is; so do rows of demands (`serveAll_view`).

* `answers_agree_with_reference`: apart from the devices of displays, a manager answers
  as the reference does, and so any two managers whose displays are named alike answer
  the same, on whatever hosts they work.
-/

namespace VirtualMonitor

/-! ## Displays in the order of their UUIDs -/

namespace Reference

variable {display head : Display} {displays : List Display}

/-- A display that comes first is put first. -/
theorem set_of_forall_lt (hfirst : ∀ other ∈ displays, display.uuid < other.uuid) :
    set display displays = display :: displays := by
  have hbefore : displays.filter (fun other => other.uuid < display.uuid) = [] := by
    refine List.filter_eq_nil_iff.mpr fun other hother => ?_
    simpa using String.lt_asymm (hfirst other hother)
  have hafter : displays.filter (fun other => display.uuid < other.uuid) = displays :=
    List.filter_eq_self.mpr fun other hother => decide_eq_true (hfirst other hother)
  rw [set, hbefore, hafter, List.nil_append]

theorem set_cons_of_eq (huuid : head.uuid = display.uuid) :
    set display (head :: displays) = set display displays := by
  rw [set, set, List.filter_cons_of_neg (by simp [huuid]),
    List.filter_cons_of_neg (by simp [huuid])]

theorem set_cons_of_lt (hlt : head.uuid < display.uuid) :
    set display (head :: displays) = head :: set display displays := by
  have hasymm : ¬display.uuid < head.uuid := String.lt_asymm hlt
  rw [set, set, List.filter_cons_of_pos (by simpa using hlt),
    List.filter_cons_of_neg (by simpa using hasymm), List.cons_append]

end Reference

namespace Registry

/-- What is known of each display, in the order of their UUIDs. -/
def displays (registry : Registry) : List Display := registry.records.map Record.display

private theorem map_display_place (record : Record) {records : List Record}
    (hsorted : records.Pairwise fun first second => first.uuid < second.uuid) :
    (place record records).map Record.display =
      Reference.set record.display (records.map Record.display) := by
  induction records with
  | nil => rfl
  | cons head rest ih =>
      obtain ⟨hhead, hrest⟩ := List.pairwise_cons.mp hsorted
      have hafter : ∀ other ∈ rest.map Record.display, head.display.uuid < other.uuid :=
        List.forall_mem_map.mpr hhead
      rw [List.map_cons]
      unfold place
      split
      · rename_i hlt
        -- the record comes before the head, and so before all records
        symm
        refine Reference.set_of_forall_lt (List.forall_mem_cons.mpr ⟨hlt, ?_⟩)
        exact fun other hother => String.lt_trans hlt (hafter other hother)
      · rename_i hnotLt
        split
        · rename_i heq
          rw [Reference.set_cons_of_eq heq.symm, List.map_cons]
          symm
          refine Reference.set_of_forall_lt fun other hother => ?_
          rw [show record.display.uuid = head.display.uuid from heq]
          exact hafter other hother
        · rename_i hne
          have hlt : head.uuid < record.uuid := lt_of_not_lt_of_ne hnotLt hne
          rw [Reference.set_cons_of_lt hlt, List.map_cons, ih hrest]

theorem displays_insert (record : Record) (registry : Registry) :
    (registry.insert record).2.displays = Reference.set record.display registry.displays :=
  map_display_place record registry.sorted

theorem displays_remove (uuid : String) (registry : Registry) :
    (registry.remove uuid).2.displays =
      registry.displays.filter fun display => display.uuid != uuid := by
  unfold displays
  rw [List.filter_map]
  rfl

private theorem map_display_exchange {record changed : Record} {records : List Record}
    {name : String} (hnodup : (records.map Record.uuid).Nodup)
    (hnamed : records.find? (fun record => record.name == name) = some record)
    (huuid : changed.uuid = record.uuid) {change : Display → Display}
    (hchange : changed.display = change record.display) :
    (exchange changed records).map Record.display =
      (records.map Record.display).modify
        ((records.map Record.display).findIdx fun display => display.name == name) change := by
  induction records with
  | nil => rfl
  | cons head rest ih =>
      obtain ⟨hhead, hrest⟩ := List.nodup_cons.mp hnodup
      rw [List.map_cons, List.findIdx_cons]
      by_cases hname : head.name = name
      · -- the head is the first record with the name, and no other has its key
        have hmatch : (head.display.name == name) = true := beq_iff_eq.mpr hname
        rw [List.find?_cons_of_pos (by simpa using hname)] at hnamed
        obtain rfl := Option.some_inj.mp hnamed
        have hkept : exchange changed rest = rest := exchange_of_notMem (by rwa [huuid])
        have hexchange : exchange changed (head :: rest) = changed :: exchange changed rest :=
          congrArg (· :: _) (if_pos huuid.symm)
        rw [hmatch, hexchange, hkept, List.map_cons, hchange]
        rfl
      · have hmatch : (head.display.name == name) = false := beq_eq_false_iff_ne.mpr hname
        have hnamedRest : rest.find? (fun record => record.name == name) = some record := by
          rwa [List.find?_cons_of_neg (by simpa using hname)] at hnamed
        have hne : head.uuid ≠ changed.uuid := by
          rintro heq
          refine hhead ?_
          rw [heq, huuid]
          exact List.mem_map_of_mem (List.mem_of_find?_eq_some hnamedRest)
        have hexchange : exchange changed (head :: rest) = head :: exchange changed rest :=
          congrArg (· :: _) (if_neg hne)
        rw [hmatch, hexchange, List.map_cons, ih hrest hnamedRest]
        rfl

theorem displays_replace {registry : Registry} {record changed : Record} {name : String}
    (hnamed : registry.named? name = some record) (huuid : changed.uuid = record.uuid)
    {width height millihertz : UInt32} (hchange : changed.display = { record.display with
      width := width, height := height, millihertz := millihertz }) :
    (registry.replace changed).displays =
      Reference.reconfigure name width height millihertz registry.displays :=
  map_display_exchange registry.nodup_uuids hnamed huuid hchange

/-- Where no display has the name, none gets another mode. -/
theorem reconfigure_displays_of_named?_eq_none {registry : Registry} {name : String}
    (hnamed : registry.named? name = none) (width height millihertz : UInt32) :
    Reference.reconfigure name width height millihertz registry.displays = registry.displays := by
  have hnone : registry.displays.findIdx (fun display => display.name == name) =
      registry.displays.length := by
    refine List.findIdx_eq_length_of_false fun display hdisplay => ?_
    obtain ⟨record, hrecord, rfl⟩ := List.mem_map.mp hdisplay
    simpa [Record.name] using List.find?_eq_none.mp hnamed record hrecord
  rw [Reference.reconfigure, hnone, List.modify_eq_self (Nat.le_refl _)]

theorem matching_displays (pattern : String) (registry : Registry) :
    registry.matching pattern =
      (registry.displays.filter fun display =>
        display.active && decide (pattern.toList <:+: display.name.toList)).map Display.name := by
  have hoccurs : ∀ name : List Char,
      Text.occursIn pattern.toList name = decide (pattern.toList <:+: name) :=
    fun name => Bool.eq_iff_iff.mpr (by simp [Text.occursIn_iff_isInfix])
  unfold matching displays
  simp only [List.filter_map, List.map_map, hoccurs]
  rfl

theorem map_snapshots (registry : Registry) :
    registry.snapshots.map Snapshot.display = registry.displays := by
  unfold snapshots displays
  rw [List.map_map]
  rfl

theorem find?_displays (name : String) (registry : Registry) :
    registry.displays.find? (fun display => display.name == name) =
      (registry.named? name).map Record.display := by
  unfold displays named?
  rw [List.find?_map]
  rfl

theorem any_displays (uuid : String) (registry : Registry) :
    (registry.displays.any fun display => display.uuid == uuid) = (registry.get? uuid).isSome := by
  unfold displays get?
  rw [List.any_map, List.isSome_find?]
  rfl

end Registry

namespace Manager

/-- What callers can tell of a manager. -/
def view (manager : Manager) : Reference :=
  ⟨manager.state, manager.adapter?, manager.registry.displays⟩

/-! ## One demand -/

theorem view_openDriver (manager : Manager) :
    manager.openDriver.view = { manager.view with state := .ready } := by
  unfold openDriver
  split
  · rename_i hready
    have hstate : manager.state = .ready := eq_of_beq hready
    rw [← hstate]
    rfl
  · rfl

theorem display_eq_entry (stem : String) (request : DisplayRequest) :
    request.display stem = Reference.entry stem request := by
  -- the text begins with the eight digits of the short form
  have hshort : request.uuid.short = String.ofList (request.uuid.text.toList.take 8) := by
    rw [← Uuid.toList_short, String.ofList_toList]
  simp only [DisplayRequest.display, Reference.entry, Display.nameFor, hshort]

theorem serve_create (request : DisplayRequest) (manager : Manager) :
    (.created (manager.createDisplay request).1, (manager.createDisplay request).2.view) =
      manager.view.serve manager.config.displayNameStem (.create request) := by
  by_cases hready : manager.state.isReady = true
  · have hstate : manager.view.state = .ready := eq_of_beq hready
    have hname : (manager.createDisplay request).1 =
        .ok (Reference.entry manager.config.displayNameStem request).name := by
      simp only [createDisplay, hready, if_true, display_eq_entry]
    have hview : (manager.createDisplay request).2.view =
        { manager.view with
          displays := Reference.set (Reference.entry manager.config.displayNameStem request)
            manager.view.displays } := by
      -- whatever provisioning gave, the display is the one that was asked for
      simp only [createDisplay, hready, if_true, display_eq_entry]
      exact congrArg (Reference.mk manager.state manager.adapter?) (Registry.displays_insert ..)
    rw [hname, hview]
    exact (if_pos hstate).symm
  · have hstate : ¬manager.view.state = .ready := fun heq => hready (beq_iff_eq.mpr heq)
    rw [createDisplay_of_not_isReady request hready]
    exact (if_neg hstate).symm

theorem serve_remove (uuid : Uuid) (manager : Manager) :
    (.removed (manager.removeDisplay uuid).1, (manager.removeDisplay uuid).2.view) =
      manager.view.serve manager.config.displayNameStem (.remove uuid) := by
  -- the reference looks for the key itself, the manager for the record with it
  have hany : (manager.view.displays.any fun display => display.uuid == uuid.text) =
      (manager.registry.get? uuid.text).isSome := Registry.any_displays ..
  cases hget : manager.registry.get? uuid.text with
  | none =>
      rw [hget] at hany
      rw [removeDisplay_of_get?_eq_none hget]
      exact (if_neg (Bool.eq_false_iff.mp hany)).symm
  | some record =>
      rw [hget] at hany
      have hview : (manager.removeDisplay uuid).2.view =
          { manager.view with
            displays := manager.view.displays.filter fun display => display.uuid != uuid.text } := by
        rw [removeDisplay_of_get? hget]
        exact congrArg (Reference.mk manager.state manager.adapter?)
          (Registry.displays_remove uuid.text manager.registry)
      rw [hview, removeDisplay_of_get? hget]
      exact (if_pos hany).symm

theorem display_remode (width height millihertz : UInt32) (record : Record) (driver : Driver) :
    (remode width height millihertz record driver).1.display =
      { record.display with width := width, height := height, millihertz := millihertz } := by
  unfold remode
  split <;> rfl

theorem view_reconfigure (name : String) (width height millihertz : UInt32)
    (manager : Manager) :
    (manager.reconfigure name width height millihertz).view =
      { manager.view with
        displays := Reference.reconfigure name width height millihertz manager.view.displays } := by
  -- an unknown name changes neither side; of a known one the first record is changed in both
  cases hnamed : manager.registry.named? name with
  | none =>
      have hkept : manager.reconfigure name width height millihertz = manager := by
        unfold reconfigure
        rw [hnamed]
      rw [hkept]
      exact congrArg (Reference.mk manager.state manager.adapter?)
        (Registry.reconfigure_displays_of_named?_eq_none hnamed width height millihertz).symm
  | some record =>
      simp only [reconfigure, hnamed]
      exact congrArg (Reference.mk manager.state manager.adapter?)
        (Registry.displays_replace hnamed (uuid_remode ..) (display_remode ..))

/-- A demand is answered alike by a manager and by its view, and their next states
agree again. -/
theorem serve_view (manager : Manager) (demand : Demand) :
    ((manager.serve demand).1.map Snapshot.display, (manager.serve demand).2.view) =
      manager.view.serve manager.config.displayNameStem demand := by
  cases demand with
  | openDriver =>
      have hview := manager.view_openDriver
      have hstate : manager.openDriver.state = .ready := congrArg Reference.state hview
      simp only [serve, Reference.serve, hstate, hview]
      rfl
  | closeDriver => rfl
  | markFailed => rfl
  | preferAdapter name => rfl
  | create request => exact serve_create request manager
  | remove uuid => exact serve_remove uuid manager
  | reconfigure name width height millihertz =>
      exact congrArg (Prod.mk _) (view_reconfigure name width height millihertz manager)
  | reconfigureIsolated name width height millihertz isolated =>
      exact congrArg (Prod.mk _) (view_reconfigure name width height millihertz manager)
  | matching pattern =>
      exact congrArg (fun names => (Response.names names, manager.view))
        (Registry.matching_displays pattern manager.registry)
  | displays =>
      exact congrArg (fun displays => (Response.displays displays, manager.view))
        (Registry.map_snapshots manager.registry)
  -- only the device of the record is lost on the way to the display
  | info name =>
      have hinfo : (manager.info? name).map Snapshot.display =
          (manager.registry.named? name).map Record.display := by
        rw [info?, Option.map_map]
        rfl
      exact congrArg (fun display? => (Response.info display?, manager.view))
        (hinfo.trans (Registry.find?_displays name manager.registry).symm)
  | count =>
      exact congrArg (fun number => (Response.count number, manager.view))
        (List.length_map Record.display).symm
  | state => rfl
  | adapter => rfl

/-! ## Rows of demands -/

/-- No demand changes the configuration. -/
theorem config_serve (manager : Manager) (demand : Demand) :
    (manager.serve demand).2.config = manager.config := by
  cases demand with
  | openDriver => exact manager.config_perform .openDriver
  | create request => exact manager.config_perform (.create request)
  | remove uuid => exact manager.config_perform (.remove uuid)
  | reconfigure name width height millihertz =>
      exact manager.config_perform (.reconfigure name width height millihertz)
  | reconfigureIsolated name width height millihertz isolated =>
      exact manager.config_perform (.reconfigureIsolated name width height millihertz isolated)
  | _ => rfl

theorem serveAll_view (manager : Manager) (turns : List Turn) :
    ((manager.serveAll turns).1.map (Response.map Snapshot.display),
        (manager.serveAll turns).2.view) =
      manager.view.serveAll manager.config.displayNameStem (turns.map Turn.demand) := by
  induction turns generalizing manager with
  | nil => rfl
  | cons turn turns ih =>
      -- a change of the host shows neither in the view nor in the configuration
      have hstep : (((manager.onHost turn.change).serve turn.demand).1.map Snapshot.display,
          ((manager.onHost turn.change).serve turn.demand).2.view) =
            manager.view.serve manager.config.displayNameStem turn.demand :=
        serve_view (manager.onHost turn.change) turn.demand
      have hconfig : ((manager.onHost turn.change).serve turn.demand).2.config =
          manager.config := config_serve (manager.onHost turn.change) turn.demand
      have hrest := ih ((manager.onHost turn.change).serve turn.demand).2
      rw [hconfig] at hrest
      simp only [List.map_cons, Reference.serveAll, ← hstep, ← hrest]
      rfl

/-- Whatever the configuration, the host and its changes are, a manager answers every
row of demands as the reference does, apart from the devices of displays, and ends up
with the reference's state; the displays of the reference stay in the order of their
UUIDs.  So any two managers whose displays are named alike answer the same. -/
theorem answers_agree_with_reference (config : Config) (host : Host) (turns : List Turn) :
    let reference :=
      Reference.initial.serveAll config.displayNameStem (turns.map Turn.demand)
    ((new config host).serveAll turns).1.map (Response.map Snapshot.display) = reference.1 ∧
      ((new config host).serveAll turns).2.view = reference.2 ∧
      reference.2.displays.Pairwise (fun first second => first.uuid < second.uuid) ∧
      ∀ (otherConfig : Config) (otherHost : Host) (otherTurns : List Turn),
        otherConfig.displayNameStem = config.displayNameStem →
        otherTurns.map Turn.demand = turns.map Turn.demand →
        ((new otherConfig otherHost).serveAll otherTurns).1.map (Response.map Snapshot.display) =
          ((new config host).serveAll turns).1.map (Response.map Snapshot.display) := by
  intro reference
  have hagree := serveAll_view (new config host) turns
  have hanswers : ((new config host).serveAll turns).1.map (Response.map Snapshot.display) =
      reference.1 := congrArg Prod.fst hagree
  have hview : ((new config host).serveAll turns).2.view = reference.2 :=
    congrArg Prod.snd hagree
  refine ⟨hanswers, hview, ?_, ?_⟩
  · rw [← hview]
    exact List.pairwise_map.mpr ((new config host).serveAll turns).2.registry.sorted
  · intro otherConfig otherHost otherTurns hstem hdemands
    have hother := congrArg Prod.fst (serveAll_view (new otherConfig otherHost) otherTurns)
    refine Eq.trans hother (Eq.trans ?_ hanswers.symm)
    rw [hdemands]
    exact congrArg (fun stem => (Reference.initial.serveAll stem _).1) hstem

/-- A host without a driver is not told from one with a device; only what is shown of
the device differs.  The display has the mode that it was given last. -/
theorem answers_agree_without_driver :
    let request : DisplayRequest :=
      ⟨⟨Vector.replicate 32 0⟩, "client", "screen", 1920, 1080, 60000⟩
    let turns : List Turn :=
      [⟨id, .openDriver⟩, ⟨id, .create request⟩, ⟨id, .reconfigure "VIRTUAL-00000000" 800 600 75000⟩,
        ⟨id, .reconfigure "VIRTUAL" 640 480 60000⟩, ⟨id, .displays⟩]
    let driver : Driver := .fresh (.memory (.ofSlots [.available]))
    let equipped := (new .standard ⟨⟨fun _ => some (.file [])⟩, .given, driver, 0⟩).serveAll turns
    let bare := (new .standard ⟨⟨fun _ => none⟩, .missing, driver, 0⟩).serveAll turns
    equipped.2.registry.occupiedSlots = [0] ∧ bare.2.registry.occupiedSlots = [] ∧
      bare.1.map (Response.map Snapshot.display) =
        equipped.1.map (Response.map Snapshot.display) ∧
      equipped.1.map (Response.map Snapshot.display) =
        [.state .ready, .created (.ok "VIRTUAL-00000000"), .done, .done,
          .displays [⟨"VIRTUAL-00000000", "00000000-0000-0000-0000-000000000000", "client", "screen",
            800, 600, 75000, true⟩]] := by
  intro request turns driver equipped bare
  obtain ⟨hanswers, -, -, hothers⟩ := answers_agree_with_reference .standard
    ⟨⟨fun _ => some (.file [])⟩, .given, driver, 0⟩ turns
  refine ⟨by decide +kernel, by decide +kernel,
    hothers .standard ⟨⟨fun _ => none⟩, .missing, driver, 0⟩ turns rfl rfl, hanswers.trans ?_⟩
  -- the answers are those of the reference, and it has no driver that would have to run
  have hname : (Reference.entry "VIRTUAL-" request).name = "VIRTUAL-00000000" := by decide +kernel
  have hshown : Reference.reconfigure "VIRTUAL" 640 480 60000
      (Reference.reconfigure "VIRTUAL-00000000" 800 600 75000
        (Reference.set (Reference.entry "VIRTUAL-" request) [])) =
        [⟨"VIRTUAL-00000000", "00000000-0000-0000-0000-000000000000", "client", "screen",
          800, 600, 75000, true⟩] := by decide +kernel
  simp only [turns, List.map_cons, List.map_nil, Reference.serveAll, Reference.serve,
    Reference.initial, if_true, Config.standard, hname, hshown]

end Manager

end VirtualMonitor
