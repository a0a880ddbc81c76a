import Mathlib.Algebra.Group.Nat.Defs
import VirtualMonitor.Proofs.Driver.SlotSearch

/-!
# Which slot a driver in memory adds

A driver in memory has a row of slots, and it always adds the first one that is not present,
wherever the search is at that moment.  So the device that comes up need not be the one that
was looked for: it is, when no slot before is missing (`fst_add_of_first`), and otherwise it
may be in a slot that a display holds.

`missing` are the slots that the driver would add, one after the other.  Each addition takes
the first of them away, which tells when a search comes to nothing
(`findSlot_eq_none_iff`): every free slot that is missing costs one addition, and so many
held slots have to be missing in front of the first free one.
-/

namespace VirtualMonitor

/-! ## Slots in ascending order -/

/-- So many slots from a number on, in ascending order. -/
def slotsFrom (start count : Nat) : List Int32 := (List.range' start count).map Int32.ofNat

@[simp] theorem slotsFrom_zero (start : Nat) : slotsFrom start 0 = [] := rfl

theorem slotsFrom_succ (start count : Nat) :
    slotsFrom start (count + 1) = Int32.ofNat start :: slotsFrom (start + 1) count := by
  rw [slotsFrom, List.range'_succ, List.map_cons]
  rfl

theorem slotsFrom_add (start first second : Nat) :
    slotsFrom start (first + second) =
      slotsFrom start first ++ slotsFrom (start + first) second := by
  rw [slotsFrom, ← List.range'_append, List.map_append, Nat.one_mul]
  rfl

theorem mem_slotsFrom {start count : Nat} (hrange : start + count ≤ 2 ^ 31) {slot : Int32} :
    slot ∈ slotsFrom start count ↔
      (start : Int) ≤ slot.toInt ∧ slot.toInt < (start : Int) + count := by
  simp only [slotsFrom, List.mem_map, List.mem_range'_1]
  constructor
  · rintro ⟨number, ⟨hlow, hhigh⟩, rfl⟩
    rw [Int32.toInt_ofNat_of_lt (by omega)]
    omega
  · rintro ⟨hlow, hhigh⟩
    have hnonneg : 0 ≤ slot := by
      rw [Int32.le_iff_toInt_le]
      have hzero : (0 : Int32).toInt = 0 := rfl
      omega
    have hnumber := Int32.toNat_toInt slot
    exact ⟨slot.toNatClampNeg, by omega, Int32.ofNat_toNatClampNeg slot hnonneg⟩

/-- The slots below a limit are those from zero on; there are none if it is negative. -/
theorem mem_slotsFrom_zero {limit slot : Int32} :
    slot ∈ slotsFrom 0 limit.toInt.toNat ↔ 0 ≤ slot ∧ slot < limit := by
  have hle := limit.toInt_le
  have hmax : Int32.maxValue.toInt = 2147483647 := rfl
  have hzero : (0 : Int32).toInt = 0 := rfl
  rw [mem_slotsFrom (by omega), Int32.le_iff_toInt_le, Int32.lt_iff_toInt_lt]
  omega

/-! ## Adding the first slot that is missing -/

namespace MemoryDriver

variable {driver : MemoryDriver} {slot added : Int32} {number first : Nat}

/-- The numbers of the slots that are not present, in ascending order. -/
def missing (driver : MemoryDriver) : List Nat :=
  (List.range driver.slots.length).filter fun number => driver.slots[number]? = some .notPresent

theorem mem_missing : number ∈ driver.missing ↔ driver.slots[number]? = some .notPresent := by
  rw [missing, List.mem_filter, List.mem_range, decide_eq_true_eq]
  exact ⟨And.right, fun hrow => ⟨(List.getElem?_eq_some_iff.mp hrow).1, hrow⟩⟩

theorem status_ofNat (hnumber : number < 2 ^ 31) :
    driver.status (Int32.ofNat number) = (driver.slots[number]?).getD .unrecognized := by
  have hnonneg : 0 ≤ Int32.ofNat number := by
    rw [Int32.le_iff_toInt_le, Int32.toInt_ofNat_of_lt hnumber]
    exact Int.natCast_nonneg number
  rw [status_of_nonneg hnonneg, Int32.toNatClampNeg_ofNat_of_lt hnumber]

theorem mem_missing_of_status (hnumber : number < 2 ^ 31)
    (hstatus : driver.status (Int32.ofNat number) = .notPresent) : number ∈ driver.missing := by
  rw [mem_missing, ← Int32.toNatClampNeg_ofNat_of_lt hnumber]
  exact getElem?_of_status hstatus nofun

/-- No slot before the first that is missing is missing. -/
theorem findIdx?_of_missing {rest : List Nat} (hmissing : driver.missing = first :: rest) :
    driver.slots.findIdx? (· = .notPresent) = some first := by
  have hhead : (List.range driver.slots.length).find?
      (fun number => driver.slots[number]? = some .notPresent) = some first := by
    rw [← List.head?_filter]
    exact congrArg List.head? hmissing
  obtain ⟨hfirst, hbound, hearlier⟩ := List.find?_range_eq_some.mp hhead
  have hrow := List.getElem?_eq_some_iff.mp (of_decide_eq_true hfirst)
  refine List.findIdx?_eq_some_iff_getElem.mpr ⟨hrow.1, decide_eq_true hrow.2, ?_⟩
  intro other hother hsame
  have hlength : other < driver.slots.length := Nat.lt_trans hother hrow.1
  have hnot := hearlier other hother
  simp [List.getElem?_eq_getElem hlength, of_decide_eq_true hsame] at hnot

theorem add_of_missing {rest : List Nat} (hmissing : driver.missing = first :: rest) :
    driver.add = (some (Int32.ofNat first),
      { driver with slots := driver.slots.set first .available }) := by
  rw [add, findIdx?_of_missing hmissing]

/-- An addition takes the first of the missing slots away. -/
theorem missing_add {rest : List Nat} (hmissing : driver.missing = first :: rest) :
    driver.add.2.missing = rest := by
  have hrow : driver.slots[first]? = some .notPresent :=
    mem_missing.mp (hmissing ▸ List.mem_cons_self)
  have hlength := (List.getElem?_eq_some_iff.mp hrow).1
  have hnodup : (first :: rest).Nodup := hmissing ▸ List.nodup_range.filter _
  -- what is missing afterwards was missing before and is not the slot that was added
  have hfilter : driver.add.2.missing = driver.missing.filter (· ≠ first) := by
    rw [add_of_missing hmissing, missing, missing, List.filter_filter, List.length_set]
    refine List.filter_congr fun number _ => ?_
    by_cases hsame : number = first
    · simp [hsame, hlength]
    · simp [List.getElem?_set_ne (Ne.symm hsame), hsame]
  rw [hfilter, hmissing, List.filter_cons_of_neg (by simp), List.filter_eq_self]
  intro number hnumber
  exact decide_eq_true fun hsame => (List.nodup_cons.mp hnodup).1 (hsame ▸ hnumber)

/-- No slot but the one that is added changes. -/
theorem status_add_of_ne (hadded : driver.add.1 = some added) (hne : slot ≠ added) :
    driver.add.2.status slot = driver.status slot := by
  unfold add at hadded ⊢
  split at hadded
  · rename_i first hfirst
    obtain rfl := Option.some_inj.mp hadded
    by_cases hnegative : slot < 0
    · rw [status, status, if_pos hnegative, if_pos hnegative]
    · have hnonneg := Int32.not_lt.mp hnegative
      have hother : first ≠ slot.toNatClampNeg := by
        rintro rfl
        exact hne (Int32.ofNat_toNatClampNeg slot hnonneg).symm
      rw [status_of_nonneg hnonneg, status_of_nonneg hnonneg]
      simp only [List.getElem?_set_ne hother]
  · cases hadded

/-- A missing slot that is added becomes available, and no other slot changes. -/
theorem status_add (hmissing : driver.status added = .notPresent)
    (hadded : driver.add.1 = some added) (slot : Int32) :
    driver.add.2.status slot = if slot = added then .available else driver.status slot := by
  split
  · rename_i hsame
    rw [hsame]
    exact status_added hmissing hadded
  · rename_i hne
    exact status_add_of_ne hadded hne

/-- Where no slot before is missing, the missing slot itself is added. -/
theorem fst_add_of_first (hstatus : driver.status slot = .notPresent)
    (hfirst : ∀ other, 0 ≤ other → other < slot → driver.status other ≠ .notPresent) :
    driver.add.1 = some slot := by
  have hnonneg : 0 ≤ slot := nonneg_of_status_ne (by rw [hstatus]; exact nofun)
  obtain ⟨hbound, hvalue⟩ := List.getElem?_eq_some_iff.mp (getElem?_of_status hstatus nofun)
  have hindex : driver.slots.findIdx? (· = .notPresent) = some slot.toNatClampNeg := by
    refine List.findIdx?_eq_some_iff_getElem.mpr ⟨hbound, decide_eq_true hvalue, ?_⟩
    intro earlier hearlier hsame
    -- a slot in front of a word is a word itself, so its row is its status
    have hword : earlier < 2 ^ 31 := by
      have hlt := slot.toInt_lt
      have hnumber := Int32.toNat_toInt slot
      omega
    have hlength : earlier < driver.slots.length := Nat.lt_trans hearlier hbound
    have hmissing : driver.status (Int32.ofNat earlier) = .notPresent := by
      rw [status_ofNat hword, List.getElem?_eq_getElem hlength, Option.getD_some]
      exact of_decide_eq_true hsame
    have hvalueInt : (Int32.ofNat earlier).toInt = earlier := Int32.toInt_ofNat_of_lt hword
    refine hfirst (Int32.ofNat earlier) ?_ ?_ hmissing
    · rw [Int32.le_iff_toInt_le, hvalueInt]
      exact Int.natCast_nonneg earlier
    · rw [Int32.lt_iff_toInt_lt, hvalueInt]
      have hnumber := Int32.toNat_toInt slot
      omega
  rw [add, hindex]
  exact congrArg some (Int32.ofNat_toNatClampNeg slot hnonneg)

/-! ## When nothing can be found -/

variable {occupied : List Int32} {start count : Nat}

/-- The free ones of so many slots that are missing. -/
def missingFree (occupied : List Int32) (start count : Nat) (driver : MemoryDriver) :
    List Int32 :=
  (slotsFrom start count).filter fun slot =>
    slot ∉ occupied ∧ driver.status slot = .notPresent

/-- The missing slots in front of the first one that nobody holds: the driver adds these
first, and none of them is of use. -/
def missingHeld (occupied : List Int32) (driver : MemoryDriver) : List Nat :=
  driver.missing.takeWhile fun number => Int32.ofNat number ∈ occupied

/-- So many slots from a number on offer nothing: no free one is available, and no more free
ones are missing than held ones are missing in front of the first free one. -/
structure Exhausted (occupied : List Int32) (start count : Nat) (driver : MemoryDriver) :
    Prop where
  unavailable : ∀ slot ∈ slotsFrom start count, slot ∉ occupied →
    driver.status slot ≠ .available
  covered : (driver.missingFree occupied start count).length ≤
    (driver.missingHeld occupied).length

theorem missingFree_succ_of_pos (hfree : Int32.ofNat start ∉ occupied)
    (hstatus : driver.status (Int32.ofNat start) = .notPresent) :
    driver.missingFree occupied start (count + 1) =
      Int32.ofNat start :: driver.missingFree occupied (start + 1) count := by
  rw [missingFree, slotsFrom_succ, List.filter_cons_of_pos]
  · rfl
  · exact decide_eq_true ⟨hfree, hstatus⟩

theorem missingFree_succ_of_neg
    (hother : ¬(Int32.ofNat start ∉ occupied ∧
      driver.status (Int32.ofNat start) = .notPresent)) :
    driver.missingFree occupied start (count + 1) =
      driver.missingFree occupied (start + 1) count := by
  rw [missingFree, slotsFrom_succ, List.filter_cons_of_neg]
  · rfl
  · exact fun hdecide => hother (of_decide_eq_true hdecide)

theorem missingFree_add (hadded : driver.add.1 = some added) (hheld : added ∈ occupied) :
    driver.add.2.missingFree occupied start count = driver.missingFree occupied start count := by
  refine List.filter_congr fun slot _ => ?_
  by_cases hfree : slot ∈ occupied
  · simp [hfree]
  · have hne : slot ≠ added := fun heq => hfree (heq ▸ hheld)
    rw [status_add_of_ne hadded hne]

theorem missingHeld_of_held {rest : List Nat} (hmissing : driver.missing = first :: rest)
    (hheld : Int32.ofNat first ∈ occupied) :
    driver.missingHeld occupied = first :: driver.add.2.missingHeld occupied := by
  rw [missingHeld, missingHeld, missing_add hmissing, hmissing, List.takeWhile_cons_of_pos]
  exact decide_eq_true hheld

theorem missingHeld_of_free {rest : List Nat} (hmissing : driver.missing = first :: rest)
    (hfree : Int32.ofNat first ∉ occupied) : driver.missingHeld occupied = [] := by
  rw [missingHeld, hmissing, List.takeWhile_cons_of_neg]
  exact fun hdecide => hfree (of_decide_eq_true hdecide)

/-- A slot that is held, or belongs to another driver, does not count. -/
theorem exhausted_succ_of_useless
    (huseless : Int32.ofNat start ∈ occupied ∨
      driver.status (Int32.ofNat start) = .unrecognized) :
    driver.Exhausted occupied start (count + 1) ↔
      driver.Exhausted occupied (start + 1) count := by
  have hmissing : driver.missingFree occupied start (count + 1) =
      driver.missingFree occupied (start + 1) count := by
    refine missingFree_succ_of_neg ?_
    rintro ⟨hfree, hstatus⟩
    rcases huseless with hheld | hforeign
    · exact hfree hheld
    · exact absurd (hstatus.symm.trans hforeign) nofun
  -- nor is the slot a free one that is available
  have hskipped : Int32.ofNat start ∉ occupied →
      driver.status (Int32.ofNat start) ≠ .available := by
    intro hfree havailable
    rcases huseless with hheld | hforeign
    · exact hfree hheld
    · exact absurd (havailable.symm.trans hforeign) nofun
  constructor
  · rintro ⟨hunavailable, hcovered⟩
    rw [slotsFrom_succ, List.forall_mem_cons] at hunavailable
    exact ⟨hunavailable.2, hmissing ▸ hcovered⟩
  · rintro ⟨hunavailable, hcovered⟩
    refine ⟨?_, hmissing ▸ hcovered⟩
    rw [slotsFrom_succ, List.forall_mem_cons]
    exact ⟨hskipped, hunavailable⟩

theorem not_exhausted_of_available (hfree : Int32.ofNat start ∉ occupied)
    (havailable : driver.status (Int32.ofNat start) = .available) :
    ¬driver.Exhausted occupied start (count + 1) := by
  intro hexhausted
  refine hexhausted.unavailable _ ?_ hfree havailable
  rw [slotsFrom_succ]
  exact List.mem_cons_self

/-- If a held slot comes up where a free one is missing, both counts go down by one. -/
theorem exhausted_succ_of_held {rest : List Nat} (hmissing : driver.missing = first :: rest)
    (hheld : Int32.ofNat first ∈ occupied) (hfree : Int32.ofNat start ∉ occupied)
    (hstatus : driver.status (Int32.ofNat start) = .notPresent) :
    driver.Exhausted occupied start (count + 1) ↔
      driver.add.2.Exhausted occupied (start + 1) count := by
  have hadded : driver.add.1 = some (Int32.ofNat first) := by rw [add_of_missing hmissing]
  -- the device comes up in a slot that is held, so no free slot changes
  have hkept : ∀ slot ∉ occupied, driver.add.2.status slot = driver.status slot :=
    fun slot hslot => status_add_of_ne hadded fun heq => hslot (heq ▸ hheld)
  have hfreeCount : (driver.missingFree occupied start (count + 1)).length =
      (driver.add.2.missingFree occupied (start + 1) count).length + 1 := by
    rw [missingFree_succ_of_pos hfree hstatus, missingFree_add hadded hheld, List.length_cons]
  have hheldCount : (driver.missingHeld occupied).length =
      (driver.add.2.missingHeld occupied).length + 1 := by
    rw [missingHeld_of_held hmissing hheld, List.length_cons]
  constructor
  · rintro ⟨hunavailable, hcovered⟩
    rw [slotsFrom_succ, List.forall_mem_cons] at hunavailable
    refine ⟨fun slot hslot hother => ?_, by omega⟩
    rw [hkept slot hother]
    exact hunavailable.2 slot hslot hother
  · rintro ⟨hunavailable, hcovered⟩
    refine ⟨?_, by omega⟩
    rw [slotsFrom_succ, List.forall_mem_cons]
    refine ⟨fun _ => by rw [hstatus]; exact nofun, fun slot hslot hother => ?_⟩
    rw [← hkept slot hother]
    exact hunavailable slot hslot hother

theorem not_exhausted_of_free {rest : List Nat} (hmissing : driver.missing = first :: rest)
    (hfirst : Int32.ofNat first ∉ occupied) (hfree : Int32.ofNat start ∉ occupied)
    (hstatus : driver.status (Int32.ofNat start) = .notPresent) :
    ¬driver.Exhausted occupied start (count + 1) := by
  intro hexhausted
  have hcovered := hexhausted.covered
  rw [missingHeld_of_free hmissing hfirst, missingFree_succ_of_pos hfree hstatus] at hcovered
  exact absurd hcovered (Nat.not_succ_le_zero _)

end MemoryDriver

namespace Backend

variable {occupied : List Int32} {start remaining : Nat} {driver : MemoryDriver}

/-- Where a slot is missing, the first missing slot is what comes up. -/
theorem look_of_missing {slot : Int32} {first : Nat} {rest : List Nat}
    (hmissing : driver.missing = first :: rest) (hfree : slot ∉ occupied)
    (hstatus : driver.status slot = .notPresent) :
    look occupied slot (.memory driver) =
      (if Int32.ofNat first ∈ occupied then none else some (Int32.ofNat first),
        .memory driver.add.2) := by
  rw [look, if_neg hfree]
  simp only [status, hstatus, add]
  rw [MemoryDriver.add_of_missing hmissing]
  by_cases hfirst : Int32.ofNat first ∈ occupied <;> simp [Option.filter, hfirst]

/-- A search comes to nothing exactly if the slots that it goes through are exhausted. -/
theorem findSlot_eq_none_iff (hrange : start + remaining ≤ 2 ^ 31) :
    (findSlot occupied remaining (Int32.ofNat start) (.memory driver)).1 = none ↔
      driver.Exhausted occupied start remaining := by
  induction remaining generalizing start driver with
  | zero =>
      exact iff_of_true rfl ⟨fun _ hmem => absurd hmem List.not_mem_nil, Nat.zero_le _⟩
  | succ remaining ih =>
      have hnext : Int32.ofNat start + 1 = Int32.ofNat (start + 1) :=
        (Int32.ofNat_add start 1).symm
      have hrest (driver : MemoryDriver) := @ih (start + 1) driver (by omega)
      -- one slot at a time: it is of no use, ends the search, or has a device added for it
      by_cases hheld : Int32.ofNat start ∈ occupied
      · have hlook : look occupied (Int32.ofNat start) (.memory driver) =
            (none, .memory driver) := if_pos hheld
        rw [findSlot_succ_of_none (by rw [hlook]), hlook, hnext, hrest driver,
          MemoryDriver.exhausted_succ_of_useless (.inl hheld)]
      · cases hstatus : driver.status (Int32.ofNat start) with
        | available =>
            have hlook : look occupied (Int32.ofNat start) (.memory driver) =
                (some (Int32.ofNat start), .memory driver) := look_of_available hheld hstatus
            rw [findSlot_succ_of_some (by rw [hlook]), hlook]
            exact iff_of_false (Option.some_ne_none _)
              (MemoryDriver.not_exhausted_of_available hheld hstatus)
        | unrecognized =>
            have hlook : look occupied (Int32.ofNat start) (.memory driver) =
                (none, .memory driver) := by
              rw [look, if_neg hheld]
              simp only [status, hstatus]
            rw [findSlot_succ_of_none (by rw [hlook]), hlook, hnext, hrest driver,
              MemoryDriver.exhausted_succ_of_useless (.inr hstatus)]
        | notPresent =>
            obtain ⟨first, rest, hmissing⟩ := List.exists_cons_of_ne_nil
              (List.ne_nil_of_mem (MemoryDriver.mem_missing_of_status (by omega) hstatus))
            have hlook := look_of_missing hmissing hheld hstatus
            -- a device that comes up in a held slot is lost, any other ends the search
            by_cases hfirst : Int32.ofNat first ∈ occupied
            · rw [if_pos hfirst] at hlook
              rw [findSlot_succ_of_none (by rw [hlook]), hlook, hnext, hrest driver.add.2,
                MemoryDriver.exhausted_succ_of_held hmissing hfirst hheld hstatus]
            · rw [if_neg hfirst] at hlook
              rw [findSlot_succ_of_some (by rw [hlook]), hlook]
              exact iff_of_false (Option.some_ne_none _)
                (MemoryDriver.not_exhausted_of_free hmissing hfirst hheld hstatus)

end Backend

end VirtualMonitor
