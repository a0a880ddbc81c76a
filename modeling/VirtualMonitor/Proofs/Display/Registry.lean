import Mathlib.Data.List.Nodup
import Mathlib.Data.List.Perm.Basic
import VirtualMonitor.Display.Registry

/-!
# The records of a registry, up to their order

Every operation on a registry is compared with removal: up to their order, the
records are the one with a given key and those that removing that key leaves
(`perm_of_get?`), inserting puts the new record before these (`insert_perm`), and so
does replacing (`replace_perm`).  What does not depend on the order of the records
can be carried through the operations by these three statements.
-/

namespace VirtualMonitor.Registry

variable {registry : Registry} {record other : Record} {uuid name : String}

/-! ## Keys -/

private theorem ne_of_lt {first second : String} (hlt : first < second) : first ≠ second := by
  rintro rfl
  exact String.lt_irrefl first hlt

theorem nodup_uuids (registry : Registry) : (registry.records.map Record.uuid).Nodup :=
  List.pairwise_map.mpr (registry.sorted.imp ne_of_lt)

theorem eq_of_uuid_eq (hrecord : record ∈ registry.records) (hother : other ∈ registry.records)
    (huuid : record.uuid = other.uuid) : record = other :=
  List.inj_on_of_nodup_map registry.nodup_uuids hrecord hother huuid

theorem get?_eq_some_iff :
    registry.get? uuid = some record ↔ record ∈ registry.records ∧ record.uuid = uuid := by
  constructor
  · intro hget
    exact ⟨List.mem_of_find?_eq_some hget, by simpa using List.find?_some hget⟩
  · rintro ⟨hrecord, rfl⟩
    cases hget : registry.get? record.uuid with
    | none =>
        have hnone := List.find?_eq_none.mp hget record hrecord
        simp at hnone
    | some found =>
        have hfound := List.mem_of_find?_eq_some hget
        have hkey : found.uuid = record.uuid := by simpa using List.find?_some hget
        rw [eq_of_uuid_eq hfound hrecord hkey]

/-- The first record with a name is the one registered under its key. -/
theorem get?_of_named? (hnamed : registry.named? name = some record) :
    registry.get? record.uuid = some record :=
  get?_eq_some_iff.mpr ⟨List.mem_of_find?_eq_some hnamed, rfl⟩

/-! ## Operations -/

theorem fst_remove (uuid : String) (registry : Registry) :
    (registry.remove uuid).1 = registry.get? uuid := rfl

theorem mem_records_remove :
    other ∈ (registry.remove uuid).2.records ↔ other ∈ registry.records ∧ other.uuid ≠ uuid := by
  simp [remove]

theorem remove_of_get?_eq_none (hget : registry.get? uuid = none) :
    (registry.remove uuid).2 = registry := by
  have hkeep : registry.records.filter (fun record => record.uuid != uuid) = registry.records :=
    List.filter_eq_self.mpr fun record hrecord => by
      simpa using List.find?_eq_none.mp hget record hrecord
  cases registry
  simpa [remove] using hkeep

theorem perm_of_get? (hget : registry.get? uuid = some record) :
    registry.records.Perm (record :: (registry.remove uuid).2.records) := by
  obtain ⟨hrecord, rfl⟩ := get?_eq_some_iff.mp hget
  -- no other record has the key, so removing the key erases this record alone
  have herase : registry.records.erase record = (registry.remove record.uuid).2.records := by
    rw [registry.nodup_uuids.of_map.erase_eq_filter]
    refine List.filter_congr fun candidate hcandidate => ?_
    by_cases heq : candidate = record
    · simp [heq]
    · have hkey : candidate.uuid ≠ record.uuid := fun huuid =>
        heq (eq_of_uuid_eq hcandidate hrecord huuid)
      rw [bne_iff_ne.mpr heq, bne_iff_ne.mpr hkey]
  rw [← herase]
  exact List.perm_cons_erase hrecord

private theorem place_perm (record : Record) {records : List Record}
    (hsorted : records.Pairwise fun first second => first.uuid < second.uuid) :
    (place record records).Perm
      (record :: records.filter fun other => other.uuid != record.uuid) := by
  induction records with
  | nil => simp [place]
  | cons head rest ih =>
      obtain ⟨hhead, hrest⟩ := List.pairwise_cons.mp hsorted
      -- in every case but the last, the record is put before larger keys only
      have hkeep : ∀ bound, (bound = head.uuid ∨ bound < head.uuid) →
          rest.filter (fun other => other.uuid != bound) = rest := by
        intro bound hbound
        refine List.filter_eq_self.mpr fun other hother => ?_
        have hlarger : bound < other.uuid := by
          rcases hbound with rfl | hlt
          · exact hhead other hother
          · exact String.lt_trans hlt (hhead other hother)
        simpa using (ne_of_lt hlarger).symm
      unfold place
      split
      · rename_i hlt
        rw [List.filter_cons_of_pos (by simpa using (ne_of_lt hlt).symm),
          hkeep record.uuid (.inr hlt)]
      · split
        · rename_i heq
          rw [List.filter_cons_of_neg (by simp [heq]), hkeep record.uuid (.inl heq)]
        · rename_i hne
          rw [List.filter_cons_of_pos (by simpa using Ne.symm hne)]
          exact ((ih hrest).cons head).trans (.swap ..)

theorem insert_perm (record : Record) (registry : Registry) :
    (registry.insert record).2.records.Perm
      (record :: (registry.remove record.uuid).2.records) :=
  place_perm record registry.sorted

/-- A record with a new key takes no other's place. -/
theorem exchange_of_notMem {records : List Record}
    (hnew : record.uuid ∉ records.map Record.uuid) : exchange record records = records := by
  have hkept : ∀ other ∈ records,
      (if other.uuid = record.uuid then record else other) = id other := by
    intro other hother
    refine if_neg fun huuid => hnew ?_
    rw [← huuid]
    exact List.mem_map_of_mem hother
  exact (List.map_congr_left hkept).trans (List.map_id records)

theorem replace_perm (hget : registry.get? record.uuid = some other) :
    (registry.replace record).records.Perm
      (record :: (registry.remove record.uuid).2.records) := by
  have hother := (get?_eq_some_iff.mp hget).2
  have hkeep : exchange record (registry.remove record.uuid).2.records =
      (registry.remove record.uuid).2.records := by
    refine exchange_of_notMem fun hmem => ?_
    obtain ⟨candidate, hcandidate, hkey⟩ := List.mem_map.mp hmem
    exact (mem_records_remove.mp hcandidate).2 hkey
  have hperm : (exchange record registry.records).Perm
      (exchange record (other :: (registry.remove record.uuid).2.records)) :=
    (perm_of_get? hget).map _
  have hcons : exchange record (other :: (registry.remove record.uuid).2.records) =
      record :: exchange record (registry.remove record.uuid).2.records := by
    simp [exchange, hother]
  rw [hcons, hkeep] at hperm
  exact hperm

theorem get?_replace_self (hget : registry.get? record.uuid = some other) :
    (registry.replace record).get? record.uuid = some record :=
  get?_eq_some_iff.mpr ⟨(replace_perm hget).mem_iff.mpr List.mem_cons_self, rfl⟩

theorem get?_replace_of_ne (hne : uuid ≠ record.uuid) (registry : Registry) :
    (registry.replace record).get? uuid = registry.get? uuid := by
  simp only [replace, exchange, get?, List.find?_map]
  -- the exchanged record is not the one that is looked for, before or after
  have hlooked : (fun other : Record => other.uuid == uuid) ∘
      (fun other => if other.uuid = record.uuid then record else other) =
        fun other => other.uuid == uuid := by
    funext other
    by_cases hother : other.uuid = record.uuid <;> simp [hother]
  rw [hlooked]
  cases hfound : registry.records.find? fun other => other.uuid == uuid with
  | none => rfl
  | some found =>
      have hkey : found.uuid = uuid := by simpa using List.find?_some hfound
      have hkept : found.uuid ≠ record.uuid := by rwa [hkey]
      simp [hkept]

end VirtualMonitor.Registry
