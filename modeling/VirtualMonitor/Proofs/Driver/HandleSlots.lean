import VirtualMonitor.Driver

/-!
# Handles name their slots

Whatever a driver answers, a handle that it grants depends on the slot alone, and
two slots never have the same handle.  Only slots from zero on are granted.  Adding
a device, loading the library anew or following another script does not change how
handles are made, so a handle keeps naming its slot for as long as it is held.
-/

namespace VirtualMonitor.Backend

/-- The handle that an opening of the slot gives, when it is granted. -/
def handleOf (backend : Backend) (slot : Int32) : Handle :=
  match backend with
  | .memory _ => ⟨slot.toInt64.toUInt64 + 1⟩
  | .scripted _ => ⟨ScriptedDriver.handleBase + slot.toInt64.toUInt64⟩

private theorem toUInt64_toInt64_injective {first second : Int32}
    (heq : first.toInt64.toUInt64 = second.toInt64.toUInt64) : first = second := by
  -- narrowing the word again gives the slot back
  have hnarrow := congrArg (fun word => word.toInt64.toInt32) heq
  simpa using hnarrow

theorem handleOf_injective (backend : Backend) : Function.Injective backend.handleOf := by
  intro first second heq
  cases backend with
  | memory state =>
      have hraw := congrArg Handle.raw heq
      exact toUInt64_toInt64_injective ((UInt64.add_left_inj 1).mp hraw)
  | scripted state =>
      have hraw := congrArg Handle.raw heq
      exact toUInt64_toInt64_injective ((UInt64.add_right_inj ScriptedDriver.handleBase).mp hraw)

/-- A granted slot is not negative, and its handle is the one that names it. -/
theorem handleOf_of_grant? {backend : Backend} {slot : Int32} {handle : Handle}
    (hgrant : backend.grant? slot = some handle) :
    0 ≤ slot ∧ handle = backend.handleOf slot := by
  cases backend with
  | memory state =>
      simp only [grant?, MemoryDriver.grant?] at hgrant
      split at hgrant
      · rename_i hopen
        have hnonneg : 0 ≤ slot := by
          by_cases hnegative : slot < 0
          · simp [MemoryDriver.status, hnegative] at hopen
          · exact Int32.not_lt.mp hnegative
        refine ⟨hnonneg, ?_⟩
        simp only [MemoryDriver.handleOf?] at hgrant
        split at hgrant
        · cases hgrant
        · exact (Option.some_inj.mp hgrant).symm
      · cases hgrant
  | scripted state =>
      simp only [grant?, ScriptedDriver.grant?] at hgrant
      split at hgrant
      · rename_i hopen
        exact ⟨hopen.1, (Option.some_inj.mp hgrant).symm⟩
      · cases hgrant

/-! ## What leaves the naming as it is -/

@[simp] theorem handleOf_add (backend : Backend) : backend.add.2.handleOf = backend.handleOf := by
  cases backend <;> rfl

@[simp] theorem handleOf_reload (backend : Backend) :
    backend.reload.handleOf = backend.handleOf := by
  cases backend <;> rfl

@[simp] theorem handleOf_setMemory (state : MemoryDriver) (backend : Backend) :
    (backend.setMemory state).handleOf = backend.handleOf := by
  cases backend <;> rfl

@[simp] theorem handleOf_setScript (script : Script) (backend : Backend) :
    (backend.setScript script).handleOf = backend.handleOf := by
  cases backend <;> rfl

end VirtualMonitor.Backend
