import Mathlib.Algebra.Ring.Int.Defs
import Mathlib.Algebra.Ring.Nat
import VirtualMonitor.Driver.Trace
import VirtualMonitor.Proofs.Driver.SlotSearch

/-!
# The words behind handles

A driver in memory makes a handle out of a slot, and reads the slot back with every request,
in the arithmetic of machine words: the slot is widened with its sign, the handle is cut to
its low half, and neither the sum nor the difference may wrap around.  Each way is one
equation between integers (`handleOf?_eq_some_iff`, `slotOf?_eq_some_iff`), and what gets
lost on the way there and back follows from the two.

* `handles_name_slots`: slot −1 alone has no handle, no two slots share one, and slot
  `2 ^ 31 - 1` alone has a handle that does not lead back.  A row of fewer than `2 ^ 31` slots
  has neither, so whatever is asked on a granted handle is remembered under its slot.
-/

namespace VirtualMonitor

namespace MemoryDriver

variable {slot : Int32} {handle : Handle} {state : MemoryDriver}

/-! ## Two equations -/

/-- A slot that is widened with its sign, as a word that has none. -/
theorem toNat_widened (slot : Int32) :
    (slot.toInt64.toUInt64.toNat : Int) = slot.toInt % 2 ^ 64 := by
  have hsigned : slot.toInt = Int.bmod slot.toInt64.toUInt64.toNat (2 ^ 64) := by
    rw [← Int32.toInt_toInt64]
    exact BitVec.toInt_eq_toNat_bmod _
  have hbound := slot.toInt64.toUInt64.toNat_lt
  have hwrapped := @Int.bmod_emod slot.toInt64.toUInt64.toNat (2 ^ 64)
  rw [← hsigned] at hwrapped
  omega

theorem toInt_lowHalf (handle : Handle) :
    handle.raw.toUInt32.toInt32.toInt = Int.bmod handle.raw.toNat (2 ^ 32) := by
  calc handle.raw.toUInt32.toInt32.toInt
      = Int.bmod handle.raw.toUInt32.toNat (2 ^ 32) := BitVec.toInt_eq_toNat_bmod _
    _ = Int.bmod (handle.raw.toNat % 2 ^ 32 : Nat) (2 ^ 32) := by rw [UInt64.toNat_toUInt32]
    _ = Int.bmod handle.raw.toNat (2 ^ 32) := by rw [Int.natCast_emod, Int.emod_bmod]

/-- The handle of a slot is one more than the slot modulo `2 ^ 64`.  For slot −1 that is no
word. -/
theorem handleOf?_eq_some_iff :
    handleOf? slot = some handle ↔ (handle.raw.toNat : Int) = slot.toInt % 2 ^ 64 + 1 := by
  obtain ⟨raw⟩ := handle
  change _ ↔ (raw.toNat : Int) = _
  have hraw := raw.toNat_lt
  have hwidened := toNat_widened slot
  have hleast := slot.le_toInt
  have hgreatest := slot.toInt_lt
  by_cases hslot : slot = -1
  · have hminus : slot.toInt = -1 := congrArg Int32.toInt hslot
    rw [handleOf?, if_pos hslot]
    refine iff_of_false (Option.some_ne_none _).symm ?_
    omega
  · have hminus : slot.toInt ≠ -1 := fun heq => hslot (Int32.toInt_inj.mp heq)
    have hsum : (slot.toInt64.toUInt64 + 1).toNat = slot.toInt64.toUInt64.toNat + 1 := by
      rw [UInt64.toNat_add, UInt64.toNat_one]
      omega
    rw [handleOf?, if_neg hslot, Option.some_inj, Handle.mk.injEq, ← UInt64.toNat_inj, hsum]
    omega

/-- The slot that a handle leads to is one less than its low half, read with a sign.  For the
least half that is no word. -/
theorem slotOf?_eq_some_iff :
    slotOf? handle = some slot ↔ slot.toInt = Int.bmod handle.raw.toNat (2 ^ 32) - 1 := by
  rw [← toInt_lowHalf]
  have hslot := slot.le_toInt
  have hleast := handle.raw.toUInt32.toInt32.le_toInt
  have hgreatest := handle.raw.toUInt32.toInt32.toInt_lt
  have hone : (1 : Int32).toInt = 1 := rfl
  have hminimum : Int32.minValue.toInt = -2 ^ 31 := rfl
  by_cases hlow : handle.raw.toUInt32.toInt32 = Int32.minValue
  · rw [slotOf?, if_pos hlow, hlow]
    refine iff_of_false (Option.some_ne_none _).symm ?_
    omega
  · have hne := mt Int32.toInt_inj.mp hlow
    rw [slotOf?, if_neg hlow, Option.some_inj, ← Int32.toInt_inj, Int32.toInt_sub, hone,
      Int.bmod_eq_of_le (by omega) (by omega), eq_comm]

/-! ## What gets lost -/

theorem handleOf?_eq_none_iff : handleOf? slot = none ↔ slot = -1 := by
  simp [handleOf?]

theorem slotOf?_eq_none_iff :
    slotOf? handle = none ↔ handle.raw.toNat % 2 ^ 32 = 0x80000000 := by
  have hlow : slotOf? handle = none ↔ handle.raw.toUInt32.toInt32 = Int32.minValue := by
    simp [slotOf?]
  have hminimum : Int32.minValue.toInt = -2 ^ 31 := rfl
  rw [hlow, ← Int32.toInt_inj, toInt_lowHalf, hminimum, Int.bmod_def]
  split <;> omega

theorem handleOf?_injective : Function.Injective handleOf? := by
  intro first second heq
  cases hfirst : handleOf? first with
  | none =>
      have hsecond : handleOf? second = none := heq ▸ hfirst
      rw [handleOf?_eq_none_iff.mp hfirst, handleOf?_eq_none_iff.mp hsecond]
  | some handle =>
      have hfirstWord := handleOf?_eq_some_iff.mp hfirst
      have hsecondWord := handleOf?_eq_some_iff.mp (heq ▸ hfirst)
      -- the slots agree modulo `2 ^ 64`, and they are words of 32 bits
      have hleast := first.le_toInt
      have hgreatest := first.toInt_lt
      have hleast' := second.le_toInt
      have hgreatest' := second.toInt_lt
      exact Int32.toInt_inj.mp (by omega)

/-- A handle leads back to its slot, unless the sum has reached the sign of the low half. -/
theorem slotOf?_of_handleOf? (hhandle : handleOf? slot = some handle)
    (hslot : slot ≠ 2147483647) : slotOf? handle = some slot := by
  have hword := handleOf?_eq_some_iff.mp hhandle
  have hne : slot.toInt ≠ 2147483647 := fun heq => hslot (Int32.toInt_inj.mp heq)
  have hleast := slot.le_toInt
  have hgreatest := slot.toInt_lt
  rw [slotOf?_eq_some_iff, hword, Int.bmod_def]
  split <;> omega

theorem bind_slotOf?_handleOf? (slot : Int32) :
    (handleOf? slot).bind slotOf? =
      if slot = -1 ∨ slot = 2147483647 then none else some slot := by
  cases hhandle : handleOf? slot with
  | none =>
      rw [if_pos (.inl (handleOf?_eq_none_iff.mp hhandle))]
      rfl
  | some handle =>
      have hminus : slot ≠ -1 := fun heq => by
        rw [handleOf?_eq_none_iff.mpr heq] at hhandle
        cases hhandle
      rw [Option.bind_some]
      by_cases hslot : slot = 2147483647
      · have hword := handleOf?_eq_some_iff.mp hhandle
        have hgreatest : slot.toInt = 2147483647 := congrArg Int32.toInt hslot
        rw [if_pos (.inr hslot), slotOf?_eq_none_iff]
        omega
      · rw [if_neg (not_or.mpr ⟨hminus, hslot⟩)]
        exact slotOf?_of_handleOf? hhandle hslot

/-! ## Granted handles -/

/-- Slots are counted from zero, so the last of fewer than `2 ^ 31` can be read back. -/
theorem slotOf?_of_grant? (hslots : state.slots.length < 2 ^ 31)
    (hgrant : state.grant? slot = some handle) : slotOf? handle = some slot := by
  obtain ⟨⟨havailable, -⟩, hhandle⟩ := Option.ite_none_right_eq_some.mp hgrant
  refine slotOf?_of_handleOf? hhandle fun hslot => ?_
  have hrow := getElem?_of_status havailable nofun
  have hplace : slot.toNatClampNeg < state.slots.length := (List.getElem?_eq_some_iff.mp hrow).1
  have hgreatest : slot.toNatClampNeg = 2147483647 := congrArg Int32.toNatClampNeg hslot
  omega

end MemoryDriver

/-! ## What is remembered of a handle -/

namespace SlotCall

/-- The slot under which a call is remembered; adding a device has none. -/
def slot? : SlotCall → Option Int32
  | .addDevice => none
  | .checkDevice slot | .openDevice slot | .close slot | .connect slot _ | .disconnect slot
  | .registerBuffer slot _ | .unregisterBuffer slot _ | .requestUpdate slot _
  | .grabPixels slot | .handleEvents slot | .eventReady slot => some slot

theorem slot?_ofRequest (slot : Int32) (request : Request) :
    (ofRequest slot request).slot? = some slot := by
  cases request with
  | frame call => cases call <;> rfl
  | _ => rfl

end SlotCall

namespace Driver

variable {slot : Int32} {handle : Handle} {driver : Driver} {state : MemoryDriver}

/-- What was asked on a handle. -/
def requestsOn (handle : Handle) (driver : Driver) : List Request :=
  driver.trace.filterMap (Call.requestOn? handle)

/-- What a driver in memory remembers of that. -/
def rememberedOn (handle : Handle) (driver : Driver) : List SlotCall :=
  (driver.trace.filter fun call => (call.requestOn? handle).isSome).filterMap Call.bySlot?

theorem requestsOn_send (handle : Handle) (request : Request) (driver : Driver) :
    (driver.send handle request).2.requestsOn handle = driver.requestsOn handle ++ [request] := by
  have hrequest : Call.requestOn? handle (.onHandle handle request) = some request := if_pos rfl
  rw [requestsOn, trace_send, List.filterMap_append, List.filterMap_cons_some hrequest,
    List.filterMap_nil]
  rfl

theorem sendChecked?_of_slotOf? (hbackend : driver.backend = .memory state)
    (hslot : MemoryDriver.slotOf? handle = some slot) (request : Request) :
    driver.sendChecked? handle request = some (driver.send handle request) := by
  have hnamed : driver.backend.slotOf? handle = some slot := by
    rw [hbackend, Backend.slotOf?, hslot]
  rw [sendChecked?, hnamed, Option.isSome_some, if_pos rfl]

/-- Everything that was asked on a handle is remembered, under the slot that it leads to. -/
theorem rememberedOn_eq (hslot : MemoryDriver.slotOf? handle = some slot) (driver : Driver) :
    driver.rememberedOn handle = (driver.requestsOn handle).map (SlotCall.ofRequest slot) := by
  obtain ⟨backend, trace⟩ := driver
  induction trace with
  | nil => rfl
  | cons call trace ih =>
      simp only [rememberedOn, requestsOn, List.filter_cons, List.filterMap_cons] at ih ⊢
      -- only a request on this very handle adds to either side, and to both alike
      cases call with
      | onHandle other request =>
          by_cases hother : other = handle
          · subst hother
            have hrequest : Call.requestOn? other (.onHandle other request) = some request :=
              if_pos rfl
            have hcall :
                (Call.onHandle other request).bySlot? = some (.ofRequest slot request) := by
              rw [Call.bySlot?, hslot, Option.map_some]
            simp [hrequest, hcall, ih]
          · have hrequest : Call.requestOn? handle (.onHandle other request) = none :=
              if_neg hother
            simpa [hrequest] using ih
      | _ => exact ih

end Driver

namespace MemoryDriver

/-- Of the handles of a driver in memory:

* a slot has the handle that is one more than the slot as a word of 64 bits, unless the sum
  wraps around; so slot −1 alone has none, no two slots share one, and none is null;
* a handle leads to the slot that is one less than its low half, read with a sign, unless the
  difference wraps around; so those with the low half `2 ^ 31` alone lead to none;
* the way there and back ends where it began, but for slots −1 and `2 ^ 31 - 1`.

If a driver with fewer than `2 ^ 31` slots grants a handle, then whatever has happened to the
driver since, every request on the handle can be made and is remembered at once, and all that
was asked on it is remembered in order and under the slot that was opened. -/
theorem handles_name_slots :
    (∀ slot handle, handleOf? slot = some handle ↔
      (handle.raw.toNat : Int) = slot.toInt % 2 ^ 64 + 1) ∧
    (∀ slot, handleOf? slot = none ↔ slot = -1) ∧
    Function.Injective handleOf? ∧
    (∀ slot handle, handleOf? slot = some handle → handle.raw ≠ 0) ∧
    (∀ slot handle, slotOf? handle = some slot ↔
      slot.toInt = Int.bmod handle.raw.toNat (2 ^ 32) - 1) ∧
    (∀ handle, slotOf? handle = none ↔ handle.raw.toNat % 2 ^ 32 = 0x80000000) ∧
    (∀ slot, (handleOf? slot).bind slotOf? =
      if slot = -1 ∨ slot = 2147483647 then none else some slot) ∧
    ∀ (driver : Driver) (state : MemoryDriver) (slot : Int32) (handle : Handle),
      driver.backend = .memory state → state.slots.length < 2 ^ 31 →
      (driver.openSlot slot).1 = some handle →
      ∀ (later : Driver) (laterState : MemoryDriver), later.backend = .memory laterState →
        (∀ request, later.sendChecked? handle request = some (later.send handle request) ∧
          (later.send handle request).2.rememberedOn handle =
            later.rememberedOn handle ++ [.ofRequest slot request]) ∧
        later.rememberedOn handle = (later.requestsOn handle).map (SlotCall.ofRequest slot) ∧
        ∀ call ∈ later.rememberedOn handle, call.slot? = some slot := by
  refine ⟨fun _ _ => handleOf?_eq_some_iff, fun _ => handleOf?_eq_none_iff, handleOf?_injective,
    ?_, fun _ _ => slotOf?_eq_some_iff, fun _ => slotOf?_eq_none_iff, bind_slotOf?_handleOf?, ?_⟩
  · intro slot handle hhandle hnull
    have hword := handleOf?_eq_some_iff.mp hhandle
    rw [hnull, UInt64.toNat_zero] at hword
    omega
  · intro driver state slot handle hbackend hslots hopen later laterState hlater
    have hgrant : state.grant? slot = some handle := by
      rwa [Driver.openSlot, hbackend] at hopen
    -- below 2 ^ 31 slots the slot read back from the handle is the one that was opened
    have hslot := slotOf?_of_grant? hslots hgrant
    have hremembered := Driver.rememberedOn_eq hslot later
    refine ⟨fun request => ⟨Driver.sendChecked?_of_slotOf? hlater hslot request, ?_⟩,
      hremembered, ?_⟩
    · rw [Driver.rememberedOn_eq hslot, Driver.requestsOn_send, List.map_append, ← hremembered,
        List.map_singleton]
    · intro call hcall
      rw [hremembered] at hcall
      obtain ⟨request, -, rfl⟩ := List.mem_map.mp hcall
      exact SlotCall.slot?_ofRequest slot request

/-- The handle of the second slot, with requests on the first in between and the devices gone
at the end. -/
theorem handles_name_slots_second :
    let state := MemoryDriver.ofSlots [.available, .available]
    let driver := Driver.fresh (.memory state)
    let opened := ((driver.openSlot 0).2.openSlot 1).2
    let plugged := ((opened.send ⟨2⟩ (.connect [1, 2, 3] 0)).2.send ⟨1⟩ .disconnect).2
    let later := ((plugged.send ⟨2⟩ (.frame .eventReady)).2).withBackend
      fun _ => .memory (.ofSlots [])
    state.slots.length < 2 ^ 31 ∧ (driver.openSlot 1).1 = some ⟨2⟩ ∧
      later.sendChecked? ⟨2⟩ .close = some (later.send ⟨2⟩ .close) ∧
      later.rememberedOn ⟨2⟩ = [.connect 1 3, .eventReady 1] := by
  intro state driver opened plugged later
  obtain ⟨-, -, -, -, -, -, -, hgranted⟩ := handles_name_slots
  have hslots : state.slots.length < 2 ^ 31 := by decide
  have hopen : (driver.openSlot 1).1 = some ⟨2⟩ := by decide
  obtain ⟨hsent, hremembered, -⟩ :=
    hgranted driver state 1 ⟨2⟩ rfl hslots hopen later (.ofSlots []) rfl
  exact ⟨hslots, hopen, (hsent .close).1, hremembered⟩

end MemoryDriver

end VirtualMonitor
