import VirtualMonitor.Proofs.Driver.SlotRows
import VirtualMonitor.Proofs.Manager.Recreation

/-!
# When the search for a slot comes to nothing

A display whose device has vanished still holds its slot, and to the driver that slot is
missing.  A new device comes up in the first missing slot, so it may come up there: it is of
no use, and the search goes on with the next slot instead of asking again.

* `findFreeSlot_eq_none_iff`: on a driver in memory the search comes to nothing exactly if
  the slots in range are exhausted (`MemoryDriver.Exhausted`).  As long as the devices of all
  displays are there, this means that every free slot belongs to another driver.
* `findFreeSlot_passes_over`: one vanished device is enough to pass over a free slot that the
  driver would add.
-/

namespace VirtualMonitor.Manager

variable {manager : Manager} {state : MemoryDriver}

/-- Where no slot that is held is missing, slots are exhausted only if every free one belongs
to another driver. -/
theorem exhausted_iff_of_present {held : List Int32} {count : Nat} (hcount : count ≤ 2 ^ 31)
    (hheld : ∀ slot ∈ held, state.status slot ≠ .notPresent) :
    state.Exhausted held 0 count ↔
      ∀ slot ∈ slotsFrom 0 count, slot ∉ held → state.status slot = .unrecognized := by
  constructor
  · rintro ⟨hunavailable, hcovered⟩ slot hslot hfree
    cases hstatus : state.status slot with
    | unrecognized => rfl
    | available => exact absurd hstatus (hunavailable slot hslot hfree)
    | notPresent =>
        -- the first missing slot is a word, so it is not held, and nothing covers this one
        obtain ⟨number, hnumber, rfl⟩ := List.mem_map.mp hslot
        have hword : number < 2 ^ 31 := by
          have := (List.mem_range'_1.mp hnumber).2
          omega
        have hmem := MemoryDriver.mem_missing_of_status hword hstatus
        obtain ⟨first, rest, hmissing⟩ := List.exists_cons_of_ne_nil (List.ne_nil_of_mem hmem)
        have hfirst : first ≤ number := by
          have hsorted : (first :: rest).Pairwise (· < ·) :=
            hmissing ▸ List.pairwise_lt_range.filter _
          rcases List.mem_cons.mp (hmissing ▸ hmem) with rfl | hrest
          · exact Nat.le_refl _
          · exact Nat.le_of_lt ((List.pairwise_cons.mp hsorted).1 number hrest)
        have hrow : state.slots[first]? = some .notPresent :=
          MemoryDriver.mem_missing.mp (hmissing ▸ List.mem_cons_self)
        have hgone : state.status (Int32.ofNat first) = .notPresent := by
          rw [MemoryDriver.status_ofNat (by omega), hrow, Option.getD_some]
        have hnone := MemoryDriver.missingHeld_of_free hmissing fun hmem => hheld _ hmem hgone
        have hcounted : Int32.ofNat number ∈ state.missingFree held 0 count :=
          List.mem_filter.mpr ⟨hslot, decide_eq_true ⟨hfree, hstatus⟩⟩
        rw [hnone, List.length_nil, Nat.le_zero, List.length_eq_zero_iff] at hcovered
        rw [hcovered] at hcounted
        cases hcounted
  · intro hforeign
    refine ⟨fun slot hslot hfree => by rw [hforeign slot hslot hfree]; decide, ?_⟩
    have hnone : state.missingFree held 0 count = [] := by
      rw [MemoryDriver.missingFree, List.filter_eq_nil_iff]
      intro slot hslot hmissing
      obtain ⟨hfree, hstatus⟩ := of_decide_eq_true hmissing
      exact absurd (hstatus.symm.trans (hforeign slot hslot hfree)) (by decide)
    rw [hnone]
    exact Nat.zero_le _

/-- Whatever the registry and the statuses are, the search for a slot comes to nothing
exactly if no free slot in range is available and every free one that is missing is covered
by a held one that is missing in front of the first free one.  If no held slot is missing,
this is when all free slots in range belong to other drivers. -/
theorem findFreeSlot_eq_none_iff (manager : Manager) (state : MemoryDriver)
    (hpresent : manager.binding = .present)
    (hmemory : manager.host.driver.backend = .memory state) :
    let held := manager.registry.occupiedSlots
    (manager.findFreeSlot.1 = none ↔
      state.Exhausted held 0 manager.config.deviceSlots.toInt.toNat) ∧
    ((∀ slot ∈ held, state.status slot ≠ .notPresent) →
      (manager.findFreeSlot.1 = none ↔
        ∀ slot ∉ held, 0 ≤ slot → slot < manager.config.deviceSlots →
          state.status slot = .unrecognized)) := by
  intro held
  have hcount : manager.config.deviceSlots.toInt.toNat ≤ 2 ^ 31 := by
    have hle := manager.config.deviceSlots.toInt_le
    have hmax : Int32.maxValue.toInt = 2147483647 := rfl
    omega
  have hexhausted : manager.findFreeSlot.1 = none ↔
      state.Exhausted held 0 manager.config.deviceSlots.toInt.toNat := by
    have hfound := congrArg Prod.fst (findFreeSlot_of_present hpresent)
    rw [show manager.findFreeSlot.1 = _ from hfound, searchBeside, hmemory]
    exact @Backend.findSlot_eq_none_iff held 0 _ state (by omega)
  refine ⟨hexhausted, fun hheld => ?_⟩
  -- without a vanished device there is nothing to cover a missing slot with
  rw [hexhausted, exhausted_iff_of_present hcount hheld]
  constructor
  · intro hforeign slot hfree hlow hhigh
    exact hforeign slot (mem_slotsFrom_zero.mpr ⟨hlow, hhigh⟩) hfree
  · intro hforeign slot hslot hfree
    obtain ⟨hlow, hhigh⟩ := mem_slotsFrom_zero.mp hslot
    exact hforeign slot hfree hlow hhigh

/-- Of three slots a display holds the first, whose device has vanished, and the other two
are missing.  The first addition is lost on the vanished device, and the second one gives a
free slot. -/
theorem findFreeSlot_eq_none_iff_covered :
    let request : DisplayRequest :=
      ⟨⟨Vector.replicate 32 0⟩, "client", "screen", 1920, 1080, 60000⟩
    let vanished : MemoryDriver := .ofSlots [.notPresent, .notPresent, .notPresent]
    let manager := ((new { Config.standard with deviceSlots := 3 } ⟨⟨fun _ => some (.file [])⟩,
      .given, .fresh (.memory vanished), 0⟩).run
        [.openDriver, .create request, .setMemory vanished]).2
    manager.registry.occupiedSlots = [0] ∧ vanished.status 0 = .notPresent ∧
      (vanished.missingFree [0] 0 3).length = 2 ∧ (vanished.missingHeld [0]).length = 1 ∧
      manager.findFreeSlot.1 ≠ none := by
  intro request vanished manager
  have hheld : manager.registry.occupiedSlots = [0] := by decide +kernel
  have hexhausted := (findFreeSlot_eq_none_iff manager vanished (by decide +kernel)
    (by decide +kernel)).1
  refine ⟨hheld, by decide, by decide +kernel, by decide +kernel, fun hnone => ?_⟩
  have hcovered := (hexhausted.mp hnone).covered
  rw [hheld] at hcovered
  exact absurd hcovered (by decide +kernel)

/-- There are two slots, and the device of the display that holds the first has vanished.
The second is free and missing, and the driver would add it when it is asked once more; the
search finds nothing, and the next display has no device. -/
theorem findFreeSlot_passes_over :
    let request (digit : Fin 16) : DisplayRequest :=
      ⟨⟨Vector.replicate 32 digit⟩, "client", "screen", 1920, 1080, 60000⟩
    let vanished : MemoryDriver := .ofSlots [.notPresent, .notPresent]
    let manager := ((new { Config.standard with deviceSlots := 2 } ⟨⟨fun _ => some (.file [])⟩,
      .given, .fresh (.memory vanished), 0⟩).run
        [.openDriver, .create (request 0), .setMemory vanished]).2
    manager.state = .ready ∧ manager.hardwareEnabled = true ∧
      manager.host.driver.backend = .memory vanished ∧
      manager.registry.occupiedSlots = [0] ∧ (1 : Int32) < manager.config.deviceSlots ∧
      vanished.status 1 = .notPresent ∧ vanished.add.2.add.1 = some 1 ∧
      manager.findFreeSlot.1 = none ∧
      (manager.createDisplay (request 1)).2.device? (request 1).uuid = none := by
  intro request vanished manager
  exact ⟨by decide +kernel, by decide +kernel, by decide +kernel, by decide +kernel,
    by decide +kernel, by decide +kernel, by decide +kernel, by decide +kernel,
    by decide +kernel⟩

end VirtualMonitor.Manager
