import VirtualMonitor.Proofs.Manager.Calls

/-!
# What a look of the watchdog asks and reports

A look goes through the records in registry order.  It passes over displays that are
inactive and displays without a device, asks every other device once whether it is alive,
and stops at the first that is not.  `Looked` lists the two ways in which this can end, and
`looked_findLoss` says that every look ends in one of them, whatever the devices answer.

* `first_loss_reported`: the loss that is reported is that of the least UUID, and no device
  is asked but those of active displays up to that UUID.
-/

namespace VirtualMonitor

/-! ## Answers -/

namespace Record

/-- What the device of an active display answers when it is asked whether it is alive. -/
def answer? (backend : Backend) (record : Record) : Option Int32 :=
  if record.display.active then
    record.hardware?.map fun hardware => backend.alive hardware.connection.handle
  else none

/-- The display is active, and its device answers that it is gone. -/
structure Lost (backend : Backend) (record : Record) (code : Int32) : Prop where
  answer : record.answer? backend = some code
  negative : code < 0

def question (record : Record) : List Call :=
  record.onDevice fun hardware => [.onHandle hardware.connection.handle (.frame .eventReady)]

theorem length_question {backend : Backend} {record : Record}
    (hasked : (record.answer? backend).isSome = true) : record.question.length = 1 := by
  unfold question onDevice
  cases hhardware : record.hardware? with
  | none => simp [answer?, hhardware] at hasked
  | some hardware => rfl

end Record

/-- The driver once the records in a row have been asked about. -/
def Driver.afterAsking (asked : List Record) (driver : Driver) : Driver :=
  { driver with trace := driver.trace ++ asked.flatMap Record.question }

namespace Manager

/-! ## The two ways in which a look can end -/

/-- How a look at some records can end, with the records that were asked. -/
inductive Looked (backend : Backend) : List Record → Option Loss → List Record → Prop
  /-- No device is gone. -/
  | healthy {records : List Record}
      (alive : ∀ record ∈ records, ∀ code, ¬record.Lost backend code) :
      Looked backend records none (records.filter fun record => (record.answer? backend).isSome)
  /-- A device is gone, and none before it is. -/
  | lost {earlier later : List Record} {record : Record} {code : Int32}
      (alive : ∀ record ∈ earlier, ∀ code, ¬record.Lost backend code)
      (lost : record.Lost backend code) :
      Looked backend (earlier ++ record :: later) (some ⟨record.name, code⟩)
        (earlier.filter (fun record => (record.answer? backend).isSome) ++ [record])

section

variable {backend : Backend} {record : Record} {records asked : List Record} {loss? : Option Loss}
  {code : Int32}

/-- A display that is not lost comes first; it is asked about if it is active and has a
device. -/
theorem Looked.cons (halive : ∀ code, ¬record.Lost backend code)
    (hlooked : Looked backend records loss? asked) :
    Looked backend (record :: records) loss?
      ([record].filter (fun record => (record.answer? backend).isSome) ++ asked) := by
  cases hlooked with
  | healthy alive =>
      rw [← List.filter_append]
      exact .healthy (List.forall_mem_cons.mpr ⟨halive, alive⟩)
  | lost alive lost =>
      rw [← List.append_assoc, ← List.filter_append]
      exact .lost (List.forall_mem_cons.mpr ⟨halive, alive⟩) lost

theorem findLoss_cons_of_unasked {driver : Driver}
    (hanswer : record.answer? driver.backend = none) :
    findLoss (record :: records) driver = findLoss records driver := by
  rw [findLoss]
  split
  · rename_i hardware hactive hhardware
    simp [Record.answer?, hactive, hhardware] at hanswer
  · rfl

theorem findLoss_cons_of_asked {driver : Driver}
    (hanswer : record.answer? driver.backend = some code) :
    findLoss (record :: records) driver =
      if code < 0 then (some ⟨record.name, code⟩, driver.afterAsking [record])
      else findLoss records (driver.afterAsking [record]) := by
  rw [findLoss]
  split
  · rename_i hardware hactive hhardware
    obtain rfl : driver.backend.alive hardware.connection.handle = code := by
      simpa [Record.answer?, hactive, hhardware] using hanswer
    have hasked : (hardware.connection.alive driver).2 = driver.afterAsking [record] := by
      simp only [Driver.afterAsking, Record.question, Record.onDevice, hhardware, Option.elim_some,
        List.flatMap_cons, List.flatMap_nil, List.append_nil]
      rfl
    rw [← hasked]
    rfl
  · rename_i hpassed
    cases hactive : record.display.active with
    | false => simp [Record.answer?, hactive] at hanswer
    | true =>
        cases hhardware : record.hardware? with
        | none => simp [Record.answer?, hhardware] at hanswer
        | some hardware => exact absurd hhardware (hpassed hardware hactive)

end

theorem looked_findLoss (records : List Record) (driver : Driver) :
    ∃ asked, Looked driver.backend records (findLoss records driver).1 asked ∧
      (findLoss records driver).2 = driver.afterAsking asked := by
  induction records generalizing driver with
  | nil => exact ⟨[], .healthy (by simp), by simp [findLoss, Driver.afterAsking]⟩
  | cons record records ih =>
      -- a question leaves the backend as it is, so what is lost is the same for the rest
      cases hanswer : record.answer? driver.backend with
      | none =>
          obtain ⟨asked, hlooked, hdriver⟩ := ih driver
          have halive : ∀ code, ¬record.Lost driver.backend code := fun code hlost => by
            cases hanswer.symm.trans hlost.answer
          rw [findLoss_cons_of_unasked hanswer]
          refine ⟨asked, ?_, hdriver⟩
          simpa [hanswer] using hlooked.cons halive
      | some code =>
          rw [findLoss_cons_of_asked hanswer]
          by_cases hcode : code < 0
          · rw [if_pos hcode]
            have hlooked : Looked driver.backend ([] ++ record :: records)
                (some ⟨record.name, code⟩) ([] ++ [record]) := .lost nofun ⟨hanswer, hcode⟩
            exact ⟨[record], hlooked, rfl⟩
          · obtain ⟨asked, hlooked, hdriver⟩ := ih (driver.afterAsking [record])
            have halive : ∀ code, ¬record.Lost driver.backend code := fun other hlost => by
              obtain rfl := Option.some_inj.mp (hanswer.symm.trans hlost.answer)
              exact hcode hlost.negative
            rw [if_neg hcode]
            refine ⟨record :: asked, ?_, ?_⟩
            · simpa [hanswer] using hlooked.cons halive
            · rw [hdriver]
              simp [Driver.afterAsking]

/-! ## What is reported and asked, in the order of the UUIDs -/

section

variable {backend : Backend} {registry : Registry} {record : Record} {asked : List Record}
  {loss? : Option Loss} {loss : Loss}

/-- The first display that is lost has the least UUID of all that are. -/
private theorem uuid_le_of_lost {earlier later : List Record} {other : Record} {code : Int32}
    (hsorted : (earlier ++ record :: later).Pairwise fun first second => first.uuid < second.uuid)
    (halive : ∀ record ∈ earlier, ∀ code, ¬record.Lost backend code)
    (hother : other ∈ earlier ++ record :: later) (hlost : other.Lost backend code) :
    record.uuid ≤ other.uuid := by
  rcases List.mem_append.mp hother with hearlier | hrest
  · exact absurd hlost (halive other hearlier code)
  · rcases List.mem_cons.mp hrest with rfl | hlater
    · exact String.le_refl _
    · have hlater := (List.pairwise_cons.mp (List.pairwise_append.mp hsorted).2.1).1 other hlater
      exact String.not_lt.mp (String.lt_asymm hlater)

theorem Looked.eq_none_iff {records : List Record} (hlooked : Looked backend records loss? asked) :
    loss? = none ↔ ∀ record ∈ records, ∀ code, record.answer? backend = some code → 0 ≤ code := by
  cases hlooked with
  | healthy alive =>
      refine ⟨fun _ record hmem code hanswer => Int32.not_lt.mp fun hnegative => ?_, fun _ => rfl⟩
      exact alive record hmem code ⟨hanswer, hnegative⟩
  | lost alive lost =>
      refine ⟨(nomatch ·), fun hhealthy => ?_⟩
      have hcode := hhealthy _ (List.mem_append_right _ List.mem_cons_self) _ lost.answer
      exact absurd lost.negative (Int32.not_lt.mpr hcode)

theorem Looked.eq_some_iff (hlooked : Looked backend registry.records loss? asked) :
    loss? = some loss ↔ ∃ record ∈ registry.records, record.Lost backend loss.code ∧
      record.name = loss.name ∧
        ∀ other ∈ registry.records, ∀ code, other.Lost backend code → record.uuid ≤ other.uuid := by
  have hsorted := registry.sorted
  have hunique : ∀ first ∈ registry.records, ∀ second ∈ registry.records,
      first.uuid = second.uuid → first = second :=
    fun first hfirst second hsecond => Registry.eq_of_uuid_eq hfirst hsecond
  generalize registry.records = records at *
  cases hlooked with
  | healthy alive =>
      refine ⟨(nomatch ·), ?_⟩
      rintro ⟨record, hmem, hlost, -⟩
      exact absurd hlost (alive record hmem _)
  | @lost earlier later first code alive lost =>
      have hmem : first ∈ earlier ++ first :: later := List.mem_append_right _ List.mem_cons_self
      have hleast : ∀ other ∈ earlier ++ first :: later, ∀ code, other.Lost backend code →
          first.uuid ≤ other.uuid :=
        fun other hother code => uuid_le_of_lost hsorted alive hother
      constructor
      · rintro ⟨⟩
        exact ⟨first, hmem, lost, rfl, hleast⟩
      · rintro ⟨record, hrecord, hlost, hname, hrecordLeast⟩
        -- two lost displays that both have the least UUID are one
        obtain rfl : record = first := hunique record hrecord first hmem
          (String.le_antisymm (hrecordLeast first hmem code lost) (hleast record hrecord _ hlost))
        have hcode := Option.some_inj.mp (lost.answer.symm.trans hlost.answer)
        rw [hname, hcode]

theorem Looked.sublist {records : List Record} (hlooked : Looked backend records loss? asked) :
    asked.Sublist records := by
  cases hlooked with
  | healthy alive => exact List.filter_sublist
  | lost alive lost =>
      exact List.filter_sublist.append (List.singleton_sublist.mpr List.mem_cons_self)

/-- The displays that are asked about are the active ones with a device, up to the first that
is lost. -/
theorem Looked.mem_asked_iff (hlooked : Looked backend registry.records loss? asked) :
    record ∈ asked ↔ record ∈ registry.records ∧ (record.answer? backend).isSome = true ∧
      ∀ other ∈ registry.records, ∀ code, other.Lost backend code → record.uuid ≤ other.uuid := by
  have hsorted := registry.sorted
  generalize registry.records = records at *
  cases hlooked with
  | healthy alive =>
      rw [List.mem_filter]
      refine and_congr_right fun hmem => (and_iff_left ?_).symm
      exact fun other hother code hlost => absurd hlost (alive other hother code)
  | @lost earlier later first code alive lost =>
      have hmem : first ∈ earlier ++ first :: later := List.mem_append_right _ List.mem_cons_self
      have hleast : ∀ other ∈ earlier ++ first :: later, ∀ code, other.Lost backend code →
          first.uuid ≤ other.uuid :=
        fun other hother code => uuid_le_of_lost hsorted alive hother
      -- the records that are asked lie before the first that is lost, or are it
      obtain ⟨-, hrest, hearlier⟩ := List.pairwise_append.mp hsorted
      rw [List.mem_append, List.mem_filter, List.mem_singleton]
      constructor
      · rintro (⟨hrecord, hasked⟩ | rfl)
        · refine ⟨List.mem_append_left _ hrecord, hasked, fun other hother code hlost => ?_⟩
          have hlt := hearlier record hrecord first List.mem_cons_self
          exact String.le_trans (String.not_lt.mp (String.lt_asymm hlt))
            (hleast other hother code hlost)
        · exact ⟨hmem, by simp [lost.answer], hleast⟩
      · rintro ⟨hrecord, hasked, hbefore⟩
        rcases List.mem_append.mp hrecord with hrecord | hrecord
        · exact .inl ⟨hrecord, hasked⟩
        · rcases List.mem_cons.mp hrecord with rfl | hlater
          · exact .inr rfl
          · -- what lies behind the first that is lost has a greater UUID
            have hlt := (List.pairwise_cons.mp hrest).1 record hlater
            exact absurd hlt (String.not_lt.mpr (hbefore first hmem code lost))

end

/-- A watchdog that runs reports what a look finds.  A look changes no record; the reaction to
a loss may. -/
theorem scan_of_running {manager : Manager} {reaction : Reaction}
    (hrunning : manager.watchdog = .running reaction) :
    let look := findLoss manager.registry.records manager.host.driver
    manager.scan.1 = look.1 ∧
      (look.1 = none ∨ reaction ≠ .closeDriver →
        manager.scan.2.registry = manager.registry ∧ manager.scan.2.host.driver = look.2) := by
  intro look
  have hscan : manager.scan = (look.1, match look.1 with
      | none => manager.withDriver look.2
      | some _ => react { manager.withDriver look.2 with watchdog := .finished } reaction) := by
    simp only [scan, hrunning]
    split <;> rename_i hlook <;> simp only [look, hlook]
  rw [hscan]
  -- of the reactions to a loss, only closing the driver reaches the records
  refine ⟨rfl, fun hkept => ?_⟩
  cases hlook : look.1 with
  | none => exact ⟨rfl, rfl⟩
  | some loss =>
      have hreaction := hkept.resolve_left (by simp [hlook])
      cases reaction with
      | report => exact ⟨rfl, rfl⟩
      | markFailed => exact ⟨rfl, rfl⟩
      | closeDriver => exact absurd rfl hreaction

/-- Whatever displays a manager has, and whatever their devices answer:

* a look reports no loss exactly if every active display with a device answers a number that
  is not negative;
* it reports a loss exactly if that is the name and the answer of the display with the least
  UUID among those that are lost;
* it asks, in the order of the UUIDs and once each, the active displays with a device up to
  the one that is lost first, and makes no other call;
* the watchdog, when it runs, reports what the look finds, and the records stay as they are,
  unless a loss is to close the driver. -/
theorem first_loss_reported (manager : Manager) :
    let records := manager.registry.records
    let driver := manager.host.driver
    let look := findLoss records driver
    (look.1 = none ↔
        ∀ record ∈ records, ∀ code, record.answer? driver.backend = some code → 0 ≤ code) ∧
      (∀ loss, look.1 = some loss ↔ ∃ record ∈ records, record.Lost driver.backend loss.code ∧
        record.name = loss.name ∧
          ∀ other ∈ records, ∀ code, other.Lost driver.backend code → record.uuid ≤ other.uuid) ∧
      (∃ asked : List Record, asked.Pairwise (fun first second => first.uuid < second.uuid) ∧
        (∀ record, record ∈ asked ↔
          record ∈ records ∧ (record.answer? driver.backend).isSome = true ∧
            ∀ other ∈ records, ∀ code, other.Lost driver.backend code →
              record.uuid ≤ other.uuid) ∧
        (∀ record ∈ asked, record.question.length = 1) ∧
        look.2 = driver.afterAsking asked) ∧
      ∀ reaction, manager.watchdog = .running reaction →
        manager.scan.1 = look.1 ∧
          (look.1 = none ∨ reaction ≠ .closeDriver →
            manager.scan.2.registry = manager.registry ∧
              manager.scan.2.host.driver = look.2) := by
  intro records driver look
  obtain ⟨asked, hlooked, hdriver⟩ := looked_findLoss records driver
  refine ⟨hlooked.eq_none_iff, fun loss => hlooked.eq_some_iff,
    ⟨asked, manager.registry.sorted.sublist hlooked.sublist, fun record => hlooked.mem_asked_iff,
      fun record hmem => ?_, hdriver⟩, fun reaction hrunning => ?_⟩
  · exact Record.length_question (hlooked.mem_asked_iff.mp hmem).2.1
  · exact scan_of_running hrunning

/-- Of an inactive display, a passthrough display and three active ones with devices, a look
asks the first two of these, and the second is lost. -/
theorem first_loss_reported_third :
    let record (uuid : String) (active : Bool) (slot? : Option Int32) : Record :=
      ⟨⟨"VIRTUAL-" ++ uuid, uuid, "client", "screen", 1920, 1080, 60000, active⟩,
        slot?.map fun slot => ⟨⟨⟨4096 + slot.toInt64.toUInt64⟩, slot, true⟩, none⟩⟩
    let registry := [record "a" false (some 0), record "b" true none, record "c" true (some 1),
      record "d" true (some 2), record "e" true (some 3)].foldl
        (fun registry record => (registry.insert record).2) .empty
    let backend := Backend.scripted
      (.ofScript { Script.empty with liveness := [(0, -1), (1, 7), (2, -19), (3, -5)] })
    let manager : Manager := ⟨.standard, ⟨⟨fun _ => none⟩, .given, .fresh backend, 0⟩, .ready,
      .present, registry, none, .running .report⟩
    manager.watchdog = .running .report ∧
      manager.scan.1 = some ⟨"VIRTUAL-d", -19⟩ ∧
      manager.scan.2.registry = manager.registry ∧
      manager.scan.2.host.driver.trace =
        [.onHandle ⟨4097⟩ (.frame .eventReady), .onHandle ⟨4098⟩ (.frame .eventReady)] := by
  intro record registry backend manager
  obtain ⟨-, -, -, hscan⟩ := first_loss_reported manager
  obtain ⟨hreport, hkept⟩ := hscan .report rfl
  obtain ⟨hregistry, hdriver⟩ := hkept (.inr (by decide))
  refine ⟨rfl, hreport.trans (by decide +kernel), hregistry, ?_⟩
  rw [hdriver]
  decide +kernel

end Manager

end VirtualMonitor
