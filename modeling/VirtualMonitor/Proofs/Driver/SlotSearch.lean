import VirtualMonitor.Proofs.Driver.HandleSlots

/-!
# The search for a slot

What is found when a slot is searched depends on the answers of the driver and on the slots
that are held, and on nothing else, so the search is looked at here without the trace that it
leaves (`Backend.findSlot`).

A search only asks about slots and for new devices.  Neither takes anything away: a slot that
is available stays so, and what can be opened can still be opened afterwards.

* `isSome_findSlot_of_offers`, `isSome_findSlot_of_addable`: a slot in range that nobody holds
  is enough for the search to succeed, if it is offered or can be added.
* `isSome_grant?_findSlot`: what is found can be opened, unless the driver refuses a slot that
  nobody holds.
* `findSlot_vacated`: when one slot is no longer held, the search ends in that slot or as it
  ended before.
-/

namespace VirtualMonitor

/-! ## Adding a device to a driver in memory -/

namespace MemoryDriver

variable {driver : MemoryDriver} {slot added : Int32}

theorem nonneg_of_status_ne (hstatus : driver.status slot ≠ .unrecognized) : 0 ≤ slot :=
  Int32.not_lt.mp fun hnegative => hstatus (if_pos hnegative)

theorem status_of_nonneg (hslot : 0 ≤ slot) :
    driver.status slot = (driver.slots[slot.toNatClampNeg]?).getD .unrecognized :=
  if_neg (Int32.not_lt.mpr hslot)

/-- A status other than that of foreign slots is stated in the row. -/
theorem getElem?_of_status {status : SlotStatus} (hstatus : driver.status slot = status)
    (hne : status ≠ .unrecognized) : driver.slots[slot.toNatClampNeg]? = some status := by
  rw [status_of_nonneg (nonneg_of_status_ne (hstatus ▸ hne))] at hstatus
  cases hrow : driver.slots[slot.toNatClampNeg]? with
  | none =>
      rw [hrow] at hstatus
      exact absurd hstatus.symm hne
  | some stated => simpa [hrow] using hstatus

theorem status_of_getElem? {status : SlotStatus} (hslot : 0 ≤ slot)
    (hrow : driver.slots[slot.toNatClampNeg]? = some status) : driver.status slot = status := by
  rw [status_of_nonneg hslot, hrow, Option.getD_some]

@[simp] theorem refusing_add (driver : MemoryDriver) : driver.add.2.refusing = driver.refusing := by
  unfold add
  split <;> rfl

/-- Only a slot that is not present changes, so available ones stay available. -/
theorem status_add_of_available (havailable : driver.status slot = .available) :
    driver.add.2.status slot = .available := by
  have hrow := getElem?_of_status havailable nofun
  have hslot : 0 ≤ slot := nonneg_of_status_ne (by rw [havailable]; exact nofun)
  refine status_of_getElem? hslot ?_
  unfold add
  split
  · rename_i index _
    by_cases hindex : index = slot.toNatClampNeg
    · have hlength := (List.getElem?_eq_some_iff.mp hrow).1
      simp only [hindex, List.getElem?_set_self hlength]
    · simp only [List.getElem?_set_ne hindex, hrow]
  · exact hrow

/-- Where some slot is not present, the device that is added is available. -/
theorem status_added (hstatus : driver.status slot = .notPresent)
    (hadded : driver.add.1 = some added) : driver.add.2.status added = .available := by
  obtain ⟨hbound, hvalue⟩ := List.getElem?_eq_some_iff.mp (getElem?_of_status hstatus nofun)
  unfold add at hadded ⊢
  cases hfirst : driver.slots.findIdx? (· = .notPresent) with
  | none =>
      rw [hfirst] at hadded
      cases hadded
  | some index =>
      rw [hfirst] at hadded
      obtain rfl := Option.some_inj.mp hadded
      obtain ⟨hlength, -, hearlier⟩ := List.findIdx?_eq_some_iff_getElem.mp hfirst
      -- the first slot that is not present is no later than `slot`, so its number is a word
      have hle : index ≤ slot.toNatClampNeg :=
        Nat.le_of_not_lt fun hlt => hearlier _ hlt (decide_eq_true hvalue)
      have hword : (Int32.ofNat index).toInt = index := by
        have hslot := slot.toInt_lt
        rw [← Int32.toNat_toInt] at hle
        exact Int32.toInt_ofNat_of_lt (by omega)
      have hnonneg : 0 ≤ Int32.ofNat index := by
        rw [Int32.le_iff_toInt_le, hword]
        exact Int.natCast_nonneg index
      have hindex : (Int32.ofNat index).toNatClampNeg = index := by
        rw [← Int32.toNat_toInt, hword, Int.toNat_natCast]
      refine status_of_getElem? hnonneg ?_
      rw [hindex]
      exact List.getElem?_set_self hlength

end MemoryDriver

/-! ## What adding a device keeps -/

namespace Backend

/-- The slots that a driver does not open, whatever it says about them. -/
def refusing : Backend → List Int32
  | .memory state => state.refusing
  | .scripted state => state.script.refusing

variable {backend : Backend} {slot added : Int32}

@[simp] theorem refusing_add (backend : Backend) : backend.add.2.refusing = backend.refusing := by
  cases backend with
  | memory state => exact state.refusing_add
  | scripted state => rfl

theorem status_add_of_available (havailable : backend.status slot = .available) :
    backend.add.2.status slot = .available := by
  cases backend with
  | memory state => exact MemoryDriver.status_add_of_available havailable
  | scripted state => exact havailable

theorem notMem_refusing_of_grant? (hgrant : (backend.grant? slot).isSome) :
    slot ∉ backend.refusing := by
  cases backend with
  | memory state =>
      simp only [grant?, MemoryDriver.grant?] at hgrant
      split at hgrant
      · rename_i hopen
        exact hopen.2
      · cases hgrant
  | scripted state =>
      simp only [grant?, ScriptedDriver.grant?] at hgrant
      split at hgrant
      · rename_i hopen
        exact hopen.2
      · cases hgrant

theorem isSome_grant?_of_available (hslot : 0 ≤ slot)
    (havailable : backend.status slot = .available) (hopen : slot ∉ backend.refusing) :
    (backend.grant? slot).isSome := by
  cases backend with
  | memory state =>
      have hne : slot ≠ -1 := by
        rintro rfl
        exact absurd hslot (by decide)
      have hgranted : state.status slot = .available ∧ slot ∉ state.refusing := ⟨havailable, hopen⟩
      simp [grant?, MemoryDriver.grant?, hgranted, MemoryDriver.handleOf?, hne]
  | scripted state =>
      have hgranted : 0 ≤ slot ∧ slot ∉ state.script.refusing := ⟨hslot, hopen⟩
      simp [grant?, ScriptedDriver.grant?, hgranted]

/-- The driver says that the slot is available, and opens it. -/
structure Offers (backend : Backend) (slot : Int32) : Prop where
  available : backend.status slot = .available
  grant : (backend.grant? slot).isSome

/-- An offer is not lost by adding a device. -/
theorem Offers.add (hoffers : backend.Offers slot) : backend.add.2.Offers slot where
  available := status_add_of_available hoffers.available
  grant := by
    obtain ⟨handle, hhandle⟩ := Option.isSome_iff_exists.mp hoffers.grant
    refine isSome_grant?_of_available (handleOf_of_grant? hhandle).1
      (status_add_of_available hoffers.available) ?_
    rw [refusing_add]
    exact notMem_refusing_of_grant? hoffers.grant

/-- A device that is added can be opened, unless the driver refuses it. -/
theorem isSome_grant?_added (hstatus : backend.status slot = .notPresent)
    (hadded : backend.add.1 = some added) (hopen : added ∉ backend.refusing) :
    (backend.add.2.grant? added).isSome := by
  cases backend with
  | memory state =>
      have havailable : state.add.2.status added = .available :=
        MemoryDriver.status_added hstatus hadded
      have hpresent : state.add.2.status added ≠ .unrecognized := by
        rw [havailable]
        exact nofun
      refine isSome_grant?_of_available (MemoryDriver.nonneg_of_status_ne hpresent) havailable ?_
      rwa [refusing_add]
  -- a scripted driver grants whatever it does not refuse, once the number is not negative
  | scripted state =>
      have hnonneg : 0 ≤ added := by
        simp only [add, ScriptedDriver.add] at hadded
        split at hadded
        · rename_i hanswer
          obtain rfl := Option.some_inj.mp hadded
          exact hanswer
        · cases hadded
      have hgranted : 0 ≤ added ∧ added ∉ state.script.refusing := ⟨hnonneg, hopen⟩
      simp [grant?, add, ScriptedDriver.grant?, ScriptedDriver.add, hgranted]

/-! ## Looking at one slot -/

/-- Looks whether a slot, or one that is added in its place, can be taken. -/
def look (occupied : List Int32) (index : Int32) (backend : Backend) : Option Int32 × Backend :=
  if index ∈ occupied then (none, backend)
  else
    match backend.status index with
    | .available => (some index, backend)
    | .unrecognized => (none, backend)
    | .notPresent => (backend.add.1.filter (· ∉ occupied), backend.add.2)

variable {occupied vacated : List Int32} {index own : Int32}

@[simp] theorem refusing_look (occupied : List Int32) (index : Int32) (backend : Backend) :
    (backend.look occupied index).2.refusing = backend.refusing := by
  unfold look
  split
  · rfl
  · split
    · rfl
    · rfl
    · exact backend.refusing_add

theorem Offers.look (hoffers : backend.Offers slot) (occupied : List Int32) (index : Int32) :
    (backend.look occupied index).2.Offers slot := by
  unfold Backend.look
  split
  · exact hoffers
  · split
    · exact hoffers
    · exact hoffers
    · exact hoffers.add

theorem look_of_available (hslot : slot ∉ occupied)
    (havailable : backend.status slot = .available) :
    backend.look occupied slot = (some slot, backend) := by
  rw [look, if_neg hslot, havailable]

/-- What is taken can be opened, unless the driver refuses a slot that nobody holds. -/
theorem isSome_grant?_look (hrefusing : ∀ refused ∈ backend.refusing, refused ∈ occupied)
    (hindex : 0 ≤ index) (hfound : (backend.look occupied index).1 = some slot) :
    ((backend.look occupied index).2.grant? slot).isSome := by
  unfold look at hfound ⊢
  split at hfound
  · cases hfound
  · rename_i hfree
    rw [if_neg hfree]
    -- taken as it stands, or added in its place: in both cases nobody holds what is taken
    split at hfound <;> rename_i hstatus
    · obtain rfl := Option.some_inj.mp hfound
      exact isSome_grant?_of_available hindex hstatus fun hrefused => hfree (hrefusing _ hrefused)
    · cases hfound
    · obtain ⟨hadded, hslot⟩ := Option.filter_eq_some_iff.mp hfound
      exact isSome_grant?_added hstatus hadded fun hrefused =>
        of_decide_eq_true hslot (hrefusing _ hrefused)

/-- A slot that is no longer held can be taken in place of what was taken before. -/
theorem look_vacated (hoccupied : ∀ slot, slot ∈ occupied ↔ slot = own ∨ slot ∈ vacated)
    (hown : own ∉ vacated) (havailable : backend.status own = .available) (index : Int32) :
    (backend.look vacated index).1 = some own ∨
      backend.look vacated index = backend.look occupied index := by
  by_cases hindex : index = own
  · rw [hindex, look_of_available hown havailable]
    exact .inl rfl
  · -- at any other slot the two rows of held slots agree; only an added device can tell them apart
    have hheld : index ∈ occupied ↔ index ∈ vacated := by simp [hoccupied, hindex]
    unfold look
    simp only [hheld]
    split
    · exact .inr rfl
    · split
      · exact .inr rfl
      · exact .inr rfl
      · cases hadded : backend.add.1 with
        | none => exact .inr rfl
        | some added =>
            by_cases hsame : added = own
            · left
              simp [hsame, hown]
            · right
              simp [Option.filter, hoccupied, hsame]

/-! ## Searching -/

/-- Looks at `remaining` slots from `index` on for one that can be taken. -/
def findSlot (occupied : List Int32) : Nat → Int32 → Backend → Option Int32 × Backend
  | 0, _, backend => (none, backend)
  | remaining + 1, index, backend =>
    match backend.look occupied index with
    | (none, backend) => findSlot occupied remaining (index + 1) backend
    | (some slot, backend) => (some slot, backend)

variable {remaining : Nat}

theorem findSlot_succ_of_none (hnone : (backend.look occupied index).1 = none) :
    backend.findSlot occupied (remaining + 1) index =
      (backend.look occupied index).2.findSlot occupied remaining (index + 1) := by
  rw [findSlot]
  split <;> simp_all

theorem findSlot_succ_of_some (hsome : (backend.look occupied index).1 = some slot) :
    backend.findSlot occupied (remaining + 1) index = backend.look occupied index := by
  rw [findSlot]
  split <;> simp_all

theorem Offers.findSlot (hoffers : backend.Offers slot) (occupied : List Int32) (remaining : Nat)
    (index : Int32) : (backend.findSlot occupied remaining index).2.Offers slot := by
  induction remaining generalizing index backend with
  | zero => exact hoffers
  | succ remaining ih =>
      have hlook := hoffers.look occupied index
      cases hfound : (backend.look occupied index).1 with
      | none =>
          rw [findSlot_succ_of_none hfound]
          exact ih hlook (index + 1)
      | some found => rwa [findSlot_succ_of_some hfound]

private theorem toInt_add_one (index : Int32) (hindex : index.toInt + 1 ≤ Int32.maxValue.toInt) :
    (index + 1).toInt = index.toInt + 1 := by
  have hlow := index.le_toInt
  have hmax : Int32.maxValue.toInt = 2147483647 := rfl
  have hone : (1 : Int32).toInt = 1 := rfl
  rw [Int32.toInt_add, hone]
  exact Int.bmod_eq_of_le (by omega) (by omega)

/-- A search that comes to a slot where it would succeed succeeds there or before, if all it
meets on the way leaves the slot so. -/
theorem isSome_findSlot {P : Backend → Prop}
    (hfound : ∀ backend, P backend → (backend.look occupied slot).1.isSome)
    (hkept : ∀ backend index, P backend → (backend.look occupied index).1 = none →
      P (backend.look occupied index).2)
    (hbackend : P backend) (hlow : index.toInt ≤ slot.toInt)
    (hhigh : slot.toInt < index.toInt + remaining) :
    (backend.findSlot occupied remaining index).1.isSome := by
  induction remaining generalizing index backend with
  | zero => omega
  | succ remaining ih =>
      cases hlook : (backend.look occupied index).1 with
      | some found => simp [findSlot_succ_of_some hlook, hlook]
      -- nothing taken here: the search has not yet come to `slot`, where it would have succeeded
      | none =>
          have hne : index ≠ slot := by
            rintro rfl
            simpa [hlook] using hfound backend hbackend
          have hlt : index.toInt ≠ slot.toInt := fun heq => hne (Int32.toInt_inj.mp heq)
          have hnext := toInt_add_one index (by have := slot.toInt_le; omega)
          rw [findSlot_succ_of_none hlook]
          exact ih (hkept backend index hbackend hlook) (by omega) (by omega)

theorem isSome_findSlot_of_offers (hslot : slot ∉ occupied) (hoffers : backend.Offers slot)
    (hlow : index.toInt ≤ slot.toInt) (hhigh : slot.toInt < index.toInt + remaining) :
    (backend.findSlot occupied remaining index).1.isSome := by
  refine isSome_findSlot (P := fun backend => backend.Offers slot) ?_ ?_ hoffers hlow hhigh
  · intro backend hoffers
    rw [look_of_available hslot hoffers.available]
    rfl
  · intro backend index hoffers _
    exact hoffers.look occupied index

/-- Before anything is taken no device is added, as the first one would be taken. -/
theorem isSome_findSlot_of_addable (hslot : slot ∉ occupied)
    (hstatus : backend.status slot = .notPresent) (hadded : backend.add.1 = some added)
    (hfree : added ∉ occupied) (hlow : index.toInt ≤ slot.toInt)
    (hhigh : slot.toInt < index.toInt + remaining) :
    (backend.findSlot occupied remaining index).1.isSome := by
  refine isSome_findSlot (P := fun other => other = backend) ?_ ?_ rfl hlow hhigh
  · rintro _ rfl
    simp [look, hslot, hstatus, hadded, hfree]
  · -- a slot that yields nothing has added nothing: the added device would have been taken
    rintro _ index rfl hnone
    unfold look at hnone ⊢
    split
    · rfl
    · rename_i hindex
      rw [if_neg hindex] at hnone
      split at hnone
      · cases hnone
      · rfl
      · simp [hadded, hfree] at hnone

/-- Where all slots but the held ones belong to others, nothing is found. -/
theorem findSlot_eq_none (hrange : index.toInt + remaining ≤ Int32.maxValue.toInt)
    (hforeign : ∀ slot ∉ occupied, index.toInt ≤ slot.toInt →
      slot.toInt < index.toInt + remaining → backend.status slot = .unrecognized) :
    backend.findSlot occupied remaining index = (none, backend) := by
  induction remaining generalizing index with
  | zero => rfl
  | succ remaining ih =>
      have hlook : backend.look occupied index = (none, backend) := by
        unfold look
        split
        · rfl
        · rename_i hfree
          rw [hforeign index hfree (by omega) (by omega)]
      have hnext := toInt_add_one index (by omega)
      rw [findSlot_succ_of_none (by rw [hlook]), hlook]
      refine ih (by omega) fun slot hfree hlow hhigh => ?_
      exact hforeign slot hfree (by omega) (by omega)

theorem isSome_grant?_findSlot (hrefusing : ∀ refused ∈ backend.refusing, refused ∈ occupied)
    (hindex : 0 ≤ index.toInt) (hrange : index.toInt + remaining ≤ Int32.maxValue.toInt)
    (hfound : (backend.findSlot occupied remaining index).1 = some slot) :
    ((backend.findSlot occupied remaining index).2.grant? slot).isSome := by
  induction remaining generalizing index backend with
  | zero => cases hfound
  | succ remaining ih =>
      cases hlook : (backend.look occupied index).1 with
      | some found =>
          rw [findSlot_succ_of_some hlook] at hfound ⊢
          exact isSome_grant?_look hrefusing (Int32.le_iff_toInt_le.mpr hindex) hfound
      | none =>
          have hnext := toInt_add_one index (by omega)
          rw [findSlot_succ_of_none hlook] at hfound ⊢
          exact ih (by simpa using hrefusing) (by omega) (by omega) hfound

/-- When one slot is no longer held, the search ends in that slot or as it ended before. -/
theorem findSlot_vacated (hoccupied : ∀ slot, slot ∈ occupied ↔ slot = own ∨ slot ∈ vacated)
    (hown : own ∉ vacated) (hoffers : backend.Offers own) (remaining : Nat) (index : Int32) :
    (backend.findSlot vacated remaining index).1 = some own ∨
      backend.findSlot vacated remaining index = backend.findSlot occupied remaining index := by
  induction remaining generalizing index backend with
  | zero => exact .inr rfl
  | succ remaining ih =>
      rcases look_vacated hoccupied hown hoffers.available index with htaken | hsame
      · left
        rw [findSlot_succ_of_some htaken, htaken]
      · cases hlook : (backend.look occupied index).1 with
        | some found =>
            right
            rw [findSlot_succ_of_some hlook, findSlot_succ_of_some (hsame ▸ hlook), hsame]
        | none =>
            rw [findSlot_succ_of_none hlook, findSlot_succ_of_none (hsame ▸ hlook), hsame]
            exact ih (hoffers.look occupied index) (index + 1)

end Backend

end VirtualMonitor
