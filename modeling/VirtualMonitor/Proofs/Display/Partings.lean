import VirtualMonitor.Display.Operation
import VirtualMonitor.Proofs.Display.Registry
import VirtualMonitor.Proofs.Driver.Protocol
import VirtualMonitor.Proofs.Manager.Calls

/-!
# How records leave a registry

A record leaves a registry when it is displaced, when it is removed, when the registry is
cleared and when the registry is given up.  Its device is then parted with: a monitor that
is plugged in is pulled out, and the handle is closed.  `Registry.trace_perform` says that an
operation makes these calls for the records that leave in it and no other, and
`Registry.exists_left` that over a whole run every device that was handed in leaves once.
-/

namespace VirtualMonitor

namespace Record

/-- The calls by which a record parts with its device. -/
def parting (record : Record) : List Call :=
  record.onDevice fun hardware =>
    (Connection.pullOut hardware.connection.connected ++ [Request.close]).map
      (.onHandle hardware.connection.handle)

theorem trace_release_eq_parting (record : Record) (driver : Driver) :
    (record.release driver).trace = driver.trace ++ record.parting := by
  unfold release parting onDevice
  cases record.hardware? with
  | none => exact (List.append_nil _).symm
  | some hardware => exact hardware.connection.trace_release_eq_map driver

end Record

@[simp] theorem Edit.hardware?_apply (edit : Edit) (record : Record) :
    (edit.apply record).hardware? = record.hardware? := rfl

namespace Registry

/-- The records that leave the registry in an operation. -/
def leaving (registry : Registry) : Operation → List Record
  | .insert record => (registry.get? record.uuid).toList
  | .remove uuid => (registry.get? uuid).toList
  | .edit _ _ => []
  | .clear => registry.records

/-- The record that an operation hands in. -/
def Operation.inserted? : Operation → Option Record
  | .insert record => some record
  | _ => none

variable {registry : Registry} {name : String} {record : Record}

theorem perform_edit_of_named? (hnamed : registry.named? name = some record) (driver : Driver)
    (edit : Edit) : registry.perform driver (.edit name edit) =
      (some (edit.apply record), registry.replace (edit.apply record), driver) := by
  simp only [perform, hnamed]

theorem perform_edit_of_named?_eq_none (hnamed : registry.named? name = none) (driver : Driver)
    (edit : Edit) : registry.perform driver (.edit name edit) = (none, registry, driver) := by
  simp only [perform, hnamed]

theorem get?_uuid_apply (hnamed : registry.named? name = some record) (edit : Edit) :
    registry.get? (edit.apply record).uuid = some record :=
  get?_of_named? hnamed

/-! ## The calls of an operation -/

theorem trace_releaseAll_eq_parting (registry : Registry) (driver : Driver) :
    (registry.releaseAll driver).trace =
      driver.trace ++ registry.records.flatMap Record.parting := by
  unfold releaseAll
  generalize registry.records = records
  induction records generalizing driver with
  | nil => simp
  | cons record records ih =>
      rw [List.foldl_cons, ih, Record.trace_release_eq_parting, List.flatMap_cons,
        List.append_assoc]

private theorem trace_elim_release (record? : Option Record) (driver : Driver) :
    (record?.elim driver fun record => record.release driver).trace =
      driver.trace ++ record?.toList.flatMap Record.parting := by
  cases record? with
  | none => simp
  | some record => simp [Record.trace_release_eq_parting]

/-- An operation parts with the devices of the records that leave, and makes no other call. -/
theorem trace_perform (registry : Registry) (driver : Driver) (operation : Operation) :
    (registry.perform driver operation).2.2.trace =
      driver.trace ++ (registry.leaving operation).flatMap Record.parting := by
  cases operation with
  | insert record => exact trace_elim_release _ driver
  | remove uuid => exact trace_elim_release _ driver
  | edit name edit =>
      rw [leaving, List.flatMap_nil, List.append_nil]
      cases hnamed : registry.named? name with
      | none => rw [perform_edit_of_named?_eq_none hnamed]
      | some record => rw [perform_edit_of_named? hnamed]
  | clear => exact registry.trace_releaseAll_eq_parting driver

theorem run_cons (registry : Registry) (driver : Driver) (turn : Turn) (turns : List Turn) :
    let performed := registry.perform (turn.change driver) turn.operation
    let rest := performed.2.1.run performed.2.2 turns
    registry.run driver (turn :: turns) =
      (⟨performed.1, (registry.leaving turn.operation).flatMap Record.parting⟩ :: rest.1,
        rest.2) := by
  intro performed rest
  have hcalls : performed.2.2.trace.drop (turn.change driver).trace.length =
      (registry.leaving turn.operation).flatMap Record.parting := by
    rw [trace_perform, List.drop_left]
  rw [← hcalls]
  rfl

/-! ## Every device leaves once -/

theorem perm_get?_append (registry : Registry) (uuid : String) :
    registry.records.Perm ((registry.get? uuid).toList ++ (registry.remove uuid).2.records) := by
  cases hget : registry.get? uuid with
  | none =>
      rw [remove_of_get?_eq_none hget]
      exact .refl _
  | some record => exact perm_of_get? hget

/-- What leaves in an operation and what is left are what was there and what is handed in. -/
theorem hardware_perform (registry : Registry) (driver : Driver) (operation : Operation) :
    ((registry.leaving operation ++ (registry.perform driver operation).2.1.records).filterMap
        Record.hardware?).Perm
      ((operation.inserted?.toList ++ registry.records).filterMap Record.hardware?) := by
  cases operation with
  | insert record =>
      refine List.Perm.filterMap _ ?_
      have hafter : ((registry.get? record.uuid).toList ++ (registry.insert record).2.records).Perm
          ((registry.get? record.uuid).toList ++
            record :: (registry.remove record.uuid).2.records) :=
        (registry.insert_perm record).append_left _
      exact (hafter.trans List.perm_middle).trans
        ((registry.perm_get?_append record.uuid).symm.cons record)
  | remove uuid => exact (registry.perm_get?_append uuid).symm.filterMap _
  | edit name edit =>
      cases hnamed : registry.named? name with
      | none =>
          rw [perform_edit_of_named?_eq_none hnamed]
          exact .refl _
      | some record =>
          -- an edit changes neither the key nor the device, so the device stays with its record
          have hget := get?_uuid_apply hnamed edit
          have hbefore := (perm_of_get? hget).filterMap Record.hardware?
          have hafter := (replace_perm hget).filterMap Record.hardware?
          rw [perform_edit_of_named? hnamed]
          rw [List.filterMap_cons, Edit.hardware?_apply, ← List.filterMap_cons] at hafter
          exact hafter.trans hbefore.symm
  | clear =>
      refine List.Perm.filterMap _ ?_
      exact .of_eq (List.append_nil _)

/-- Over a run, every device that is there or handed in leaves in one operation, or is still
there; the operation in which it leaves makes the calls that part with it. -/
theorem exists_left (registry : Registry) (driver : Driver) (turns : List Turn) :
    ∃ left : List (List Record),
      (registry.run driver turns).1.map Outcome.calls = left.map (List.flatMap Record.parting) ∧
        ((left.flatten ++ (registry.run driver turns).2.1.records).filterMap Record.hardware?).Perm
          (((turns.map Turn.operation).filterMap Operation.inserted? ++ registry.records).filterMap
            Record.hardware?) := by
  induction turns generalizing registry driver with
  | nil => exact ⟨[], rfl, .refl _⟩
  | cons turn turns ih =>
      have hrun := registry.run_cons driver turn turns
      have hstep := registry.hardware_perform (turn.change driver) turn.operation
      generalize registry.perform (turn.change driver) turn.operation = performed at hrun hstep
      -- what leaves in the first operation goes in front of what leaves later
      obtain ⟨left, hcalls, hleft⟩ := ih performed.2.1 performed.2.2
      refine ⟨registry.leaving turn.operation :: left, ?_, ?_⟩
      · rw [hrun, List.map_cons, List.map_cons, hcalls]
      · have hinserted : ((turn :: turns).map Turn.operation).filterMap Operation.inserted? =
            turn.operation.inserted?.toList ++
              (turns.map Turn.operation).filterMap Operation.inserted? := by
          rw [List.map_cons, List.filterMap_cons]
          cases turn.operation.inserted? <;> rfl
        -- the four lists are counted, because they have to be exchanged in pairs
        rw [hrun, hinserted]
        rw [List.perm_iff_count] at hleft hstep ⊢
        intro hardware
        have hlater := hleft hardware
        have hnow := hstep hardware
        simp only [List.flatten_cons, List.filterMap_append, List.count_append] at hlater hnow ⊢
        omega

end Registry

end VirtualMonitor
