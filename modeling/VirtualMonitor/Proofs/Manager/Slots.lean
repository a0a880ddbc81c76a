import VirtualMonitor.Proofs.Card.Number
import VirtualMonitor.Proofs.Manager.Accounting

/-!
# Slots and nodes of displays

`slots_exclusive` says that no slot is ever held twice, and that the node of a device
is the one of its slot.  A driver that adds a device may answer with a slot that is
held already, and it may say anything about any slot at any time; what protects the
displays is that the slot found is compared with the occupied ones at the end.  So a
display that is created anew gets another slot than the one it still holds.
-/

namespace VirtualMonitor

/-- The node of a device, if it has one, is that of its slot. -/
def Hardware.OnNode (config : Config) (hardware : Hardware) : Prop :=
  hardware.node? = none ∨ hardware.node? = some (config.cardPath hardware.connection.slot)

namespace Manager

theorem openNode?_eq_or (slot : Int32) (manager : Manager) :
    manager.openNode? slot = none ∨
      manager.openNode? slot = some (manager.config.cardPath slot) := by
  simp only [openNode?]
  split
  · exact .inr rfl
  · exact .inl rfl

/-- A device that is provisioned has a slot that no record holds, and its node is that
of the slot. -/
theorem free_and_onNode_of_provided {manager : Manager} {mode : Mode} {hardware : Hardware}
    {driver : Driver} (hprovided : Provided manager mode (some hardware, driver)) :
    hardware.connection.slot ∉ manager.registry.occupiedSlots ∧
      0 ≤ hardware.connection.slot ∧ hardware.OnNode manager.config := by
  cases hprovided with
  | granted asked free granted =>
      exact ⟨free, (Backend.handleOf_of_grant? granted).1, openNode?_eq_or _ manager⟩

/-- Another mode leaves the device in its slot and on its node. -/
theorem onNode_remode {config : Config} {record : Record}
    (honNode : ∀ hardware ∈ record.hardware?, hardware.OnNode config)
    (width height millihertz : UInt32) (driver : Driver) :
    ∀ hardware ∈ (remode width height millihertz record driver).1.hardware?,
      hardware.OnNode config := by
  unfold remode
  cases hhardware : record.hardware? with
  | none => simp
  | some old =>
      have hold := honNode old hhardware
      intro hardware hchanged
      obtain rfl := Option.some_inj.mp hchanged
      simpa only [Hardware.OnNode, Connection.slot_connect] using hold

/-- After every run the node of each device is that of its slot. -/
theorem onNode_run (config : Config) (host : Host) (operations : List Operation) :
    ∀ record ∈ ((new config host).run operations).2.registry.records,
      ∀ hardware ∈ record.hardware?, hardware.OnNode config := by
  have hrun := run_induction
    (P := fun manager => manager.config = config ∧
      ∀ record ∈ manager.registry.records, ∀ hardware ∈ record.hardware?,
        hardware.OnNode config)
    (new config host) ⟨rfl, by simp [new, Registry.empty]⟩ ?_ operations
  · exact hrun.2
  · rintro manager operation ⟨rfl, hrecords⟩
    refine ⟨manager.config_perform operation,
      forall_mem_of_effect (manager.effect_perform operation) ?_ ?_ hrecords⟩
    · -- a device that is provided is on its node, and another mode leaves it there
      rintro request ⟨hardware?, driver⟩ hprovided - hardware hhardware
      obtain rfl := hhardware
      exact (free_and_onNode_of_provided hprovided).2.2
    · intro record width height millihertz driver honNode
      exact onNode_remode honNode width height millihertz driver

/-- After every run the slots of the displays differ and are none of them negative, and
the node of a device is absent or the one of its slot, whose number is the slot.  The
next device, for a new display or for one that is created anew, gets a slot that none
of them holds. -/
theorem slots_exclusive (config : Config) (files : Files) (source : DriverSource)
    (backend : Backend) (probes : Nat) (operations : List Operation) :
    let manager := ((new config ⟨files, source, .fresh backend, probes⟩).run operations).2
    manager.registry.occupiedSlots.Nodup ∧
      (∀ record ∈ manager.registry.records, ∀ hardware, record.hardware? = some hardware →
        0 ≤ hardware.connection.slot ∧ hardware.OnNode config ∧
          (Card.number? (Text.utf8 (config.cardPath hardware.connection.slot))).map
            (fun number => (number.toNat : Int)) = some hardware.connection.slot.toInt) ∧
      (∀ mode hardware, (manager.provision mode).1 = some hardware →
        hardware.connection.slot ∉ manager.registry.occupiedSlots ∧
          0 ≤ hardware.connection.slot ∧ hardware.OnNode config) := by
  intro manager
  have hholds : Holds manager.registry.records manager.host.driver :=
    holds_run config files source backend probes operations
  have hconfig : manager.config = config := config_run _ operations
  refine ⟨hholds.nodup_slots, ?_, ?_⟩
  · intro record hrecord hardware hhardware
    have hnonneg := (hholds.backed record hrecord hardware hhardware).slot_nonneg
    -- the number is read back from the path, and it is the slot because that is not negative
    have hnumber : Card.number? (Text.utf8 (config.cardPath hardware.connection.slot)) =
        some hardware.connection.slot.toUInt32 := Card.number?_nodePath _ hnonneg
    refine ⟨hnonneg, onNode_run config _ operations record hrecord hardware hhardware, ?_⟩
    rw [hnumber, Option.map_some, Int32.toNat_toUInt32_of_le hnonneg]
    exact congrArg some (Int.toNat_of_nonneg (Int32.le_iff_toInt_le.mp hnonneg))
  · intro mode hardware hprovision
    have hprovided : Provided manager mode (some hardware, (manager.provision mode).2) := by
      rw [← hprovision]
      exact manager.provided_provision mode
    rw [← hconfig]
    exact free_and_onNode_of_provided hprovided

/-- The driver says that it has added slot 0, which a display holds, and then that it
has added slot 5. -/
theorem slots_exclusive_of_stale_addition :
    let request (digit : Fin 16) : DisplayRequest :=
      ⟨⟨Vector.replicate 32 digit⟩, "client", "screen", 1920, 1080, 60000⟩
    let script : Script :=
      { Script.empty with statuses := [0], otherStatus := 2, additions := [0, 5] }
    ((new .standard ⟨⟨fun _ => some (.file [])⟩, .given, .fresh (.scripted (.ofScript script)),
        0⟩).run [.openDriver, .create (request 0), .markFailed, .openDriver,
          .create (request 1)]).2.registry.occupiedSlots = [0, 5] ∧
      (0 : Int32) ≤ 5 ∧
      (Card.number? (Text.utf8 (Config.standard.cardPath 5))).map
        (fun number => (number.toNat : Int)) = some 5 := by
  intro request script
  have hexclusive := slots_exclusive .standard ⟨fun _ => some (.file [])⟩ .given
    (.scripted (.ofScript script)) 0
    [.openDriver, .create (request 0), .markFailed, .openDriver, .create (request 1)]
  have hrecord := hexclusive.2.1
    ⟨⟨"VIRTUAL-11111111", "11111111-1111-1111-1111-111111111111", "client", "screen", 1920, 1080,
      60000, true⟩, some ⟨⟨⟨4101⟩, 5, true⟩, some "/dev/dri/card5"⟩⟩ (by decide +kernel) _ rfl
  exact ⟨by decide +kernel, hrecord.1, hrecord.2.2⟩

end Manager

end VirtualMonitor
