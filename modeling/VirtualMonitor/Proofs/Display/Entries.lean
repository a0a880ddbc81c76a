import Mathlib.Data.Set.Card
import Mathlib.Logic.Function.Basic
import VirtualMonitor.Proofs.Display.Partings
import VirtualMonitor.Proofs.Manager.Names
import VirtualMonitor.Proofs.Text.Order

/-!
# A registry is a map from keys to records

`Entries` is a registry as its callers may think of it: a record, or none, for every key.
`Evolves` says what an operation answers and what it makes of the entries, without any list
of records; only an edit minds the order of the keys, which is that of their bytes, because
a name stands for the first entry that has it.

* `finite_map_of_run`: a registry answers every run of operations as its entries do, and
  everything that can be asked of it is determined by them; what leaves it is parted with.
-/

namespace VirtualMonitor

open Registry (Operation Turn Outcome)

/-- A record, or none, for every key. -/
abbrev Entries := String → Option Record

namespace Entries

/-- Nothing is registered. -/
def empty : Entries := fun _ => none

/-- A name stands for the record that has it and whose key comes first. -/
structure StandsFor (entries : Entries) (name key : String) (record : Record) : Prop where
  entry : entries key = some record
  named : record.name = name
  first : ∀ other record, entries other = some record → record.name = name →
    ¬Text.utf8 other < Text.utf8 key

/-- What an operation answers, and what it makes of the entries. -/
inductive Evolves (entries : Entries) : Operation → Option Record → Entries → Prop
  | insert (record : Record) :
      Evolves entries (.insert record) (entries record.uuid)
        (Function.update entries record.uuid (some record))
  | remove (uuid : String) :
      Evolves entries (.remove uuid) (entries uuid) (Function.update entries uuid none)
  | edit {name key : String} {record : Record} (edit : Edit)
      (stands : entries.StandsFor name key record) :
      Evolves entries (.edit name edit) (some (edit.apply record))
        (Function.update entries key (some (edit.apply record)))
  | unknown {name : String} (edit : Edit)
      (unknown : ∀ key record, entries key = some record → record.name ≠ name) :
      Evolves entries (.edit name edit) none entries
  | clear : Evolves entries .clear none empty

/-- What a row of operations answers, and what it makes of the entries. -/
inductive Runs : Entries → List Operation → List (Option Record) → Entries → Prop
  | nil (entries : Entries) : Runs entries [] [] entries
  | cons {entries between after : Entries} {operation : Operation} {operations : List Operation}
      {answer? : Option Record} {answers : List (Option Record)}
      (first : Evolves entries operation answer? between)
      (rest : Runs between operations answers after) :
      Runs entries (operation :: operations) (answer? :: answers) after

variable {entries : Entries} {name key : String} {record : Record}

theorem StandsFor.key_unique {other : String} {otherRecord : Record}
    (hstands : entries.StandsFor name key record)
    (hother : entries.StandsFor name other otherRecord) : key = other := by
  have hle := hstands.first other otherRecord hother.entry hother.named
  have hge := hother.first key record hstands.entry hstands.named
  rw [Text.utf8_lt_utf8_iff] at hle hge
  exact String.le_antisymm (String.not_lt.mp hle) (String.not_lt.mp hge)

/-- The answer and the entries afterwards are determined. -/
theorem Evolves.unique {operation : Operation} {first second : Option Record}
    {after others : Entries} (hfirst : Evolves entries operation first after)
    (hsecond : Evolves entries operation second others) : first = second ∧ after = others := by
  cases hfirst with
  | insert record =>
      cases hsecond
      exact ⟨rfl, rfl⟩
  | remove uuid =>
      cases hsecond
      exact ⟨rfl, rfl⟩
  | edit edit stands =>
      cases hsecond with
      | edit _ otherStands =>
          obtain rfl := stands.key_unique otherStands
          obtain rfl := Option.some_inj.mp (stands.entry.symm.trans otherStands.entry)
          exact ⟨rfl, rfl⟩
      | unknown _ unknown => exact absurd stands.named (unknown _ _ stands.entry)
  | unknown edit unknown =>
      cases hsecond with
      | edit _ stands => exact absurd stands.named (unknown _ _ stands.entry)
      | unknown => exact ⟨rfl, rfl⟩
  | clear =>
      cases hsecond
      exact ⟨rfl, rfl⟩

theorem Runs.unique {operations : List Operation} {first second : List (Option Record)}
    {after others : Entries} (hfirst : Runs entries operations first after)
    (hsecond : Runs entries operations second others) : first = second ∧ after = others := by
  induction hfirst generalizing second with
  | nil entries =>
      cases hsecond
      exact ⟨rfl, rfl⟩
  | cons evolves rest ih =>
      cases hsecond with
      | cons otherEvolves otherRest =>
          obtain ⟨rfl, rfl⟩ := evolves.unique otherEvolves
          obtain ⟨rfl, rfl⟩ := ih otherRest
          exact ⟨rfl, rfl⟩

end Entries

namespace Registry

/-- The entries of a registry. -/
def entries (registry : Registry) : Entries := fun uuid => registry.get? uuid

variable {registry : Registry} {record : Record} {name key : String}

theorem entries_eq_some_iff :
    registry.entries key = some record ↔ record ∈ registry.records ∧ record.uuid = key :=
  get?_eq_some_iff

theorem standsFor_entries_iff :
    registry.entries.StandsFor name key record ↔
      registry.named? name = some record ∧ record.uuid = key := by
  rw [named?_eq_some_iff]
  constructor
  · rintro ⟨hentry, hnamed, hfirst⟩
    obtain ⟨hmem, rfl⟩ := entries_eq_some_iff.mp hentry
    refine ⟨⟨hmem, hnamed, fun other hother hname => ?_⟩, rfl⟩
    have hnot := hfirst other.uuid other (entries_eq_some_iff.mpr ⟨hother, rfl⟩) hname
    rw [Text.utf8_lt_utf8_iff] at hnot
    exact String.not_lt.mp hnot
  · rintro ⟨⟨hmem, hnamed, hfirst⟩, rfl⟩
    refine ⟨entries_eq_some_iff.mpr ⟨hmem, rfl⟩, hnamed, fun other found hentry hname => ?_⟩
    obtain ⟨hfound, rfl⟩ := entries_eq_some_iff.mp hentry
    rw [Text.utf8_lt_utf8_iff]
    exact String.not_lt.mpr (hfirst found hfound hname)

/-! ## One operation -/

theorem entries_insert (record : Record) (registry : Registry) :
    (registry.insert record).2.entries =
      Function.update registry.entries record.uuid (some record) := by
  refine (Function.update_eq_iff.mpr ⟨?_, fun uuid hne => ?_⟩).symm
  · exact (get?_insert_self record registry).symm
  · exact (get?_insert_of_ne hne registry).symm

theorem entries_remove (uuid : String) (registry : Registry) :
    (registry.remove uuid).2.entries = Function.update registry.entries uuid none := by
  refine (Function.update_eq_iff.mpr ⟨?_, fun other hne => ?_⟩).symm
  · exact (get?_remove_self uuid registry).symm
  · exact (get?_remove_of_ne hne registry).symm

theorem entries_replace {other : Record} (hget : registry.get? record.uuid = some other) :
    (registry.replace record).entries =
      Function.update registry.entries record.uuid (some record) := by
  refine (Function.update_eq_iff.mpr ⟨?_, fun uuid hne => ?_⟩).symm
  · exact (get?_replace_self hget).symm
  · exact (get?_replace_of_ne hne registry).symm

/-- An operation on a registry answers as it does on its entries, and has the same effect. -/
theorem evolves_perform (registry : Registry) (driver : Driver) (operation : Operation) :
    registry.entries.Evolves operation (registry.perform driver operation).1
      (registry.perform driver operation).2.1.entries := by
  cases operation with
  | insert record =>
      have hevolves : registry.entries.Evolves _ _ _ := .insert record
      rwa [← entries_insert] at hevolves
  | remove uuid =>
      have hevolves : registry.entries.Evolves _ _ _ := .remove uuid
      rwa [← entries_remove] at hevolves
  | edit name edit =>
      cases hnamed : registry.named? name with
      | none =>
          rw [perform_edit_of_named?_eq_none hnamed]
          -- a name that finds no record is borne by no entry
          refine .unknown edit fun key record hentry => ?_
          exact ne_of_named?_eq_none hnamed record (entries_eq_some_iff.mp hentry).1
      | some record =>
          rw [perform_edit_of_named? hnamed, entries_replace (get?_uuid_apply hnamed edit)]
          exact .edit edit (standsFor_entries_iff.mpr ⟨hnamed, rfl⟩)
  | clear => exact .clear

/-- A run of operations on a registry answers as it does on its entries. -/
theorem runs_run (registry : Registry) (driver : Driver) (turns : List Turn) :
    registry.entries.Runs (turns.map Turn.operation)
      ((registry.run driver turns).1.map Outcome.answer?)
      (registry.run driver turns).2.1.entries := by
  induction turns generalizing registry driver with
  | nil => exact .nil _
  | cons turn turns ih =>
      rw [run_cons]
      exact .cons (registry.evolves_perform (turn.change driver) turn.operation) (ih _ _)

/-! ## What can be asked -/

theorem mem_records_iff :
    record ∈ registry.records ↔ registry.entries record.uuid = some record := by
  rw [entries_eq_some_iff, and_iff_left rfl]

/-- The keys ascend in the order of their bytes. -/
theorem sorted_utf8 (registry : Registry) :
    registry.records.Pairwise fun first second =>
      Text.utf8 first.uuid < Text.utf8 second.uuid :=
  registry.sorted.imp Text.utf8_lt_utf8

theorem size_eq_ncard (registry : Registry) :
    registry.size = {key | registry.entries key ≠ none}.ncard := by
  have hkeys : {key | registry.entries key ≠ none} =
      ((registry.records.map Record.uuid).toFinset : Set String) := by
    ext key
    rw [Set.mem_ofPred_eq, Option.ne_none_iff_exists']
    simp [entries_eq_some_iff]
  -- no key stands in two records
  rw [hkeys, Set.ncard_coe_finset, List.toFinset_card_of_nodup registry.nodup_uuids,
    List.length_map, size]

theorem isEmpty_iff : registry.isEmpty = true ↔ registry.entries = Entries.empty := by
  rw [isEmpty, List.isEmpty_iff, List.eq_nil_iff_forall_not_mem]
  constructor
  · intro hnone
    funext key
    rw [Entries.empty, Option.eq_none_iff_forall_ne_some]
    exact fun record hentry => hnone record (entries_eq_some_iff.mp hentry).1
  · intro hnone record hmem
    rw [mem_records_iff, hnone] at hmem
    cases hmem

theorem matching_empty (registry : Registry) :
    registry.matching "" =
      (registry.records.filter fun record => record.display.active).map Record.name := by
  have hpattern : "".toList = [] := rfl
  simp [matching, hpattern, Text.occursIn_nil]

theorem map_some_occupiedSlots (registry : Registry) :
    registry.occupiedSlots.map some =
      (registry.records.filter fun record => record.hardware?.isSome).map Record.slot? := by
  rw [occupiedSlots]
  generalize registry.records = records
  induction records with
  | nil => rfl
  | cons record records ih =>
      rw [List.filterMap_cons, List.filter_cons]
      cases hhardware : record.hardware? with
      | none => simpa [Record.slot?, hhardware] using ih
      | some hardware => simpa [Record.slot?, hhardware] using ih

/-- After every run from the empty registry there are entries such that:

* the operations have the same answers on these, and lead to them and to nothing else;
* a key has the record that is entered under it, and every record has its own key;
* the size is the number of keys that have a record, and only no such key is an empty
  registry;
* the records are in the ascending order of the bytes of their keys;
* a name finds the record for which it stands;
* the names that contain a pattern are those of the active records that do, in order, and
  the empty pattern gives all active ones; the occupied slots are those of the records
  with a device, in order;
* an operation parts with the devices of the records that leave in it, and makes no other
  call; so does giving up the registry; over the whole run, every device that is handed in
  leaves once. -/
theorem finite_map_of_run (driver : Driver) (turns : List Turn) :
    let ran := empty.run driver turns
    let registry := ran.2.1
    ∃ entries : Entries,
      (∀ answers after, Entries.empty.Runs (turns.map Turn.operation) answers after ↔
        answers = ran.1.map Outcome.answer? ∧ after = entries) ∧
      (∀ key, registry.get? key = entries key) ∧
      (∀ key record, entries key = some record ↔ record ∈ registry.records ∧ record.uuid = key) ∧
      registry.size = {key | entries key ≠ none}.ncard ∧
      (registry.isEmpty = true ↔ entries = Entries.empty) ∧
      registry.records.Pairwise (fun first second =>
        Text.utf8 first.uuid < Text.utf8 second.uuid) ∧
      (∀ name record, registry.named? name = some record ↔
        ∃ key, entries.StandsFor name key record) ∧
      (∀ pattern, ∃ found : List Record,
        found.Pairwise (fun first second => Text.utf8 first.uuid < Text.utf8 second.uuid) ∧
        (∀ record, record ∈ found ↔ entries record.uuid = some record ∧
          record.display.active = true ∧ pattern.toList <:+: record.name.toList) ∧
        registry.matching pattern = found.map Record.name) ∧
      registry.matching "" =
        (registry.records.filter fun record => record.display.active).map Record.name ∧
      (∃ held : List Record,
        held.Pairwise (fun first second => Text.utf8 first.uuid < Text.utf8 second.uuid) ∧
        (∀ record, record ∈ held ↔
          entries record.uuid = some record ∧ record.hardware?.isSome = true) ∧
        registry.occupiedSlots.map some = held.map Record.slot?) ∧
      (∀ driver operation, (registry.perform driver operation).2.2.trace =
        driver.trace ++ (registry.leaving operation).flatMap Record.parting) ∧
      (∀ driver, (registry.releaseAll driver).trace =
        driver.trace ++ registry.records.flatMap Record.parting) ∧
      ∃ left : List (List Record),
        ran.1.map Outcome.calls = left.map (List.flatMap Record.parting) ∧
        ((left.flatten ++ registry.records).filterMap Record.hardware?).Perm
          (((turns.map Turn.operation).filterMap Operation.inserted?).filterMap
            Record.hardware?) := by
  intro ran registry
  -- the entries are those of the registry, and a run on entries has one outcome only
  have hruns := empty.runs_run driver turns
  refine ⟨registry.entries, ?_, fun key => rfl, fun key record => entries_eq_some_iff,
    registry.size_eq_ncard, isEmpty_iff, registry.sorted_utf8, ?_, ?_, registry.matching_empty,
    ?_, registry.trace_perform, registry.trace_releaseAll_eq_parting, ?_⟩
  · intro answers after
    refine ⟨fun hother => hother.unique hruns, ?_⟩
    rintro ⟨rfl, rfl⟩
    exact hruns
  · intro name record
    simp only [standsFor_entries_iff]
    exact ⟨fun hnamed => ⟨_, hnamed, rfl⟩, fun ⟨_, hnamed, _⟩ => hnamed⟩
  · intro pattern
    refine ⟨_, registry.sorted_utf8.filter _, fun record => ?_, rfl⟩
    rw [List.mem_filter, mem_records_iff, Bool.and_eq_true, Text.occursIn_iff_isInfix]
  · refine ⟨_, registry.sorted_utf8.filter _, fun record => ?_, registry.map_some_occupiedSlots⟩
    rw [List.mem_filter, mem_records_iff]
  · obtain ⟨left, hcalls, hleft⟩ := empty.exists_left driver turns
    refine ⟨left, hcalls, ?_⟩
    rwa [show empty.records = [] from rfl, List.append_nil] at hleft

end Registry

end VirtualMonitor
