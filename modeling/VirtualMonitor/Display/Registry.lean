import VirtualMonitor.Display.Record
import VirtualMonitor.Text.Word

/-!
# The registry of displays

Records are kept in the order of their UUIDs, and no two have the same.  The
order is that of the code points of the UUID's text, so iteration, search by name
and release all go through the records in one and the same order.

The main statements are `get?_insert_self`, `get?_insert_of_ne`,
`get?_remove_self` and `get?_remove_of_ne`: the registry is a finite map.
-/

namespace VirtualMonitor

/-- Records in the order of their keys. -/
structure Registry where
  records : List Record
  /-- The keys ascend, and so they differ. -/
  sorted : records.Pairwise fun first second => first.uuid < second.uuid
  deriving DecidableEq

namespace Registry

def empty : Registry := ⟨[], .nil⟩

/-! ## Inserting, removing and replacing in a list of records -/

/-- Puts a record in its place, and drops the record that had its key. -/
def place (record : Record) : List Record → List Record
  | [] => [record]
  | head :: rest =>
    if record.uuid < head.uuid then record :: head :: rest
    else if record.uuid = head.uuid then record :: rest
    else head :: place record rest

private theorem mem_place {record other : Record} {records : List Record}
    (h : other ∈ place record records) : other = record ∨ other ∈ records := by
  induction records with
  | nil => simpa [place] using h
  | cons head rest ih =>
    unfold place at h
    split at h
    · simpa using h
    · split at h
      · rcases List.mem_cons.mp h with h | h
        · exact .inl h
        · exact .inr (List.mem_cons_of_mem _ h)
      · rcases List.mem_cons.mp h with h | h
        · exact .inr (h ▸ List.mem_cons_self)
        · exact (ih h).imp_right (List.mem_cons_of_mem _)

theorem lt_of_not_lt_of_ne {first second : String} (hlt : ¬first < second)
    (hne : first ≠ second) : second < first := by
  rcases String.le_total first second with hle | hle
  · exact absurd (String.le_antisymm hle (String.not_lt.mp hlt)) hne
  · exact String.not_le.mp fun hge => hne (String.le_antisymm hge hle)

private theorem sorted_place (record : Record) {records : List Record}
    (h : records.Pairwise fun first second => first.uuid < second.uuid) :
    (place record records).Pairwise fun first second => first.uuid < second.uuid := by
  induction records with
  | nil => simp [place]
  | cons head rest ih =>
    obtain ⟨hhead, hrest⟩ := List.pairwise_cons.mp h
    unfold place
    split
    · rename_i hlt
      refine List.pairwise_cons.mpr ⟨fun other hother => ?_, h⟩
      rcases List.mem_cons.mp hother with hother | hother
      · exact hother ▸ hlt
      · exact String.lt_trans hlt (hhead other hother)
    · split
      · rename_i heq
        exact List.pairwise_cons.mpr ⟨fun other hother => heq ▸ hhead other hother, hrest⟩
      · rename_i hlt hne
        refine List.pairwise_cons.mpr ⟨fun other hother => ?_, ih hrest⟩
        rcases mem_place hother with hother | hother
        · exact hother ▸ lt_of_not_lt_of_ne hlt hne
        · exact hhead other hother

/-- Puts a record in the place of the one that has its key. -/
def exchange (record : Record) (records : List Record) : List Record :=
  records.map fun other => if other.uuid = record.uuid then record else other

@[simp] theorem map_uuid_exchange (record : Record) (records : List Record) :
    (exchange record records).map Record.uuid = records.map Record.uuid := by
  unfold exchange
  rw [List.map_map]
  refine List.map_congr_left fun other _ => ?_
  simp only [Function.comp]
  split
  · rename_i h
    exact h.symm
  · rfl

private theorem sorted_iff_map (records : List Record) :
    (records.Pairwise fun first second => first.uuid < second.uuid) ↔
      (records.map Record.uuid).Pairwise (· < ·) := by
  rw [List.pairwise_map]

/-! ## Operations -/

/-- Registers a record under its key; gives the record that it replaces. -/
def insert (record : Record) (registry : Registry) : Option Record × Registry :=
  (registry.records.find? fun other => other.uuid == record.uuid,
    ⟨place record registry.records, sorted_place record registry.sorted⟩)

/-- Takes the record with the given key out. -/
def remove (uuid : String) (registry : Registry) : Option Record × Registry :=
  (registry.records.find? fun record => record.uuid == uuid,
    ⟨registry.records.filter fun record => record.uuid != uuid, registry.sorted.filter _⟩)

/-- Changes the record that has the key of `record` to `record`. -/
def replace (record : Record) (registry : Registry) : Registry :=
  ⟨exchange record registry.records, by
    rw [sorted_iff_map, map_uuid_exchange, ← sorted_iff_map]
    exact registry.sorted⟩

def get? (uuid : String) (registry : Registry) : Option Record :=
  registry.records.find? fun record => record.uuid == uuid

/-- The first record with the given name.  Names come from the first digits of the
key, so two records may share one. -/
def named? (name : String) (registry : Registry) : Option Record :=
  registry.records.find? fun record => record.name == name

def size (registry : Registry) : Nat := registry.records.length

def isEmpty (registry : Registry) : Bool := registry.records.isEmpty

def occupiedSlots (registry : Registry) : List Int32 := registry.records.filterMap Record.slot?

/-- The names of active displays that contain `pattern`. -/
def matching (pattern : String) (registry : Registry) : List String :=
  (registry.records.filter fun record =>
    record.display.active && Text.occursIn pattern.toList record.name.toList).map Record.name

def snapshots (registry : Registry) : List Snapshot := registry.records.map Record.snapshot

def releaseAll (registry : Registry) (driver : Driver) : Driver :=
  registry.records.foldl (fun driver record => record.release driver) driver

/-! ## The registry is a finite map -/

private theorem find?_place_self (record : Record) (records : List Record) :
    (place record records).find? (fun other => other.uuid == record.uuid) = some record := by
  induction records with
  | nil => simp [place]
  | cons head rest ih =>
    unfold place
    split
    · simp
    · split
      · simp
      · rename_i hne
        rw [List.find?_cons_of_neg (by simpa using Ne.symm hne), ih]

private theorem find?_place_of_ne {record : Record} {uuid : String} (hne : uuid ≠ record.uuid)
    (records : List Record) :
    (place record records).find? (fun other => other.uuid == uuid) =
      records.find? fun other => other.uuid == uuid := by
  induction records with
  | nil => simpa [place] using Ne.symm hne
  | cons head rest ih =>
    unfold place
    split
    · rw [List.find?_cons_of_neg (by simpa using Ne.symm hne)]
    · split
      · rename_i heq
        rw [List.find?_cons_of_neg (by simpa using Ne.symm hne),
          List.find?_cons_of_neg (by simpa [← heq] using Ne.symm hne)]
      · simp only [List.find?_cons, ih]

@[simp] theorem get?_empty (uuid : String) : empty.get? uuid = none := rfl

@[simp] theorem get?_insert_self (record : Record) (registry : Registry) :
    (registry.insert record).2.get? record.uuid = some record :=
  find?_place_self record registry.records

theorem get?_insert_of_ne {record : Record} {uuid : String} (hne : uuid ≠ record.uuid)
    (registry : Registry) : (registry.insert record).2.get? uuid = registry.get? uuid :=
  find?_place_of_ne hne registry.records

@[simp] theorem get?_remove_self (uuid : String) (registry : Registry) :
    (registry.remove uuid).2.get? uuid = none := by
  simp [remove, get?]

theorem get?_remove_of_ne {uuid other : String} (hne : other ≠ uuid) (registry : Registry) :
    (registry.remove uuid).2.get? other = registry.get? other := by
  simp only [remove, get?, List.find?_filter]
  congr 1
  funext record
  by_cases h : record.uuid = other <;> simp [h, hne]

end Registry

end VirtualMonitor
