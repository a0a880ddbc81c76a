import Mathlib.Data.List.DropRight
import VirtualMonitor.Proofs.Manager.Accounting

/-!
# The watchdog of a session

A session reaches from one closing of the driver to the next.  `history` lists the
steps of a run, each with the manager that it finds, and `currentSession` keeps those
since the driver was closed last.

The steps of a session determine its watchdog (`Phase`).  There is none before the
first subscription; then it runs, for that subscriber; and once it has reported a loss
it is finished.  `Phase.next` carries this through one step, `phase_run` through whole
runs.

* `watchdog_fires_once`: in a session at most one watchdog is started and at most one
  loss reported, to the first subscriber; a finished watchdog does not look again, a
  look asks open handles only, and what it reports is the loss of a display that has a
  device.
-/

namespace VirtualMonitor.Manager

/-! ## Starting a watchdog -/

theorem startWatchdog_of_absent {manager : Manager} (reaction : Reaction)
    (habsent : manager.watchdog = .absent) :
    manager.startWatchdog reaction = (true, { manager with watchdog := .running reaction }) := by
  rw [startWatchdog, habsent]

/-- A watchdog that runs, or has run, lets no other one start. -/
theorem startWatchdog_of_ne_absent {manager : Manager} (reaction : Reaction)
    (hpresent : manager.watchdog ≠ .absent) : manager.startWatchdog reaction = (false, manager) := by
  unfold startWatchdog
  split
  · rename_i habsent
    exact absurd habsent hpresent
  · rfl
  · rfl

/-! ## Steps -/

/-- One step of a run: an operation and the manager that it finds. -/
structure Step where
  before : Manager
  operation : Operation

namespace Step

def answer (step : Step) : Answer := (step.before.perform step.operation).1

def after (step : Step) : Manager := (step.before.perform step.operation).2

/-- The loss that is reported to a subscriber. -/
def loss? (step : Step) : Option Loss :=
  match step.answer with
  | .loss loss? => loss?
  | _ => none

def reports (step : Step) : Bool := step.loss?.isSome

/-- What a subscriber will do about a loss; one who waits for the report does nothing. -/
def reaction? (step : Step) : Option Reaction :=
  match step.operation with
  | .subscribe .channel => some .report
  | .subscribe (.callback reaction) => some reaction
  | _ => none

/-- Whether there is a watchdog now and there was none before. -/
def starts (step : Step) : Bool :=
  step.before.watchdog == .absent && step.after.watchdog != .absent

/-- Whether the driver is closed, on demand or in reaction to a loss. -/
def closes (step : Step) : Bool :=
  match step.operation with
  | .closeDriver => true
  | .scan => step.reports && step.before.watchdog == .running .closeDriver
  | _ => false

variable {step : Step}

theorem loss?_of_ne_scan (hne : step.operation ≠ .scan) : step.loss? = none := by
  obtain ⟨manager, operation⟩ := step
  cases operation with
  | scan => exact absurd rfl hne
  | subscribe subscription => cases subscription <;> rfl
  | _ => rfl

theorem starts_of_watchdog_eq (hsame : step.after.watchdog = step.before.watchdog) :
    step.starts = false := by
  rw [starts, hsame]
  cases step.before.watchdog <;> rfl

/-- Only subscriptions, looks and closing touch the watchdog. -/
theorem watchdog_after_of_kept (hclose : step.operation ≠ .closeDriver)
    (hscan : step.operation ≠ .scan) (hnone : step.reaction? = none) :
    step.after.watchdog = step.before.watchdog := by
  obtain ⟨manager, operation⟩ := step
  cases hkind : operation.isLifecycle with
  | false =>
      obtain ⟨host, registry, hperform⟩ := perform_of_not_isLifecycle hkind manager
      rw [after, hperform]
  | true =>
      cases operation with
      | openDriver => simp only [after, perform, openDriver]; split <;> rfl
      | closeDriver => exact absurd rfl hclose
      | markFailed => rfl
      | preferAdapter name => rfl
      | subscribe subscription => cases subscription <;> cases hnone
      | scan => exact absurd rfl hscan
      | _ => cases hkind

/-- A subscription tries to start a watchdog. -/
theorem after_of_reaction? {reaction : Reaction} (hreaction : step.reaction? = some reaction) :
    step.after = (step.before.startWatchdog reaction).2 := by
  obtain ⟨manager, operation⟩ := step
  cases operation with
  | subscribe subscription =>
      cases subscription <;> obtain rfl := Option.some_inj.mp hreaction <;> rfl
  | _ => cases hreaction

theorem closes_of_reaction? {reaction : Reaction} (hreaction : step.reaction? = some reaction) :
    step.closes = false ∧ step.operation ≠ .scan := by
  obtain ⟨manager, operation⟩ := step
  cases operation with
  | subscribe subscription => exact ⟨rfl, nofun⟩
  | _ => cases hreaction

/-- A receiver is given out when there is no watchdog yet. -/
theorem answer_of_channel (hchannel : step.operation = .subscribe .channel) :
    step.answer = .flag (step.before.watchdog == .absent) := by
  obtain ⟨manager, operation⟩ := step
  obtain rfl := hchannel
  change Answer.flag (manager.startWatchdog .report).1 = .flag (manager.watchdog == .absent)
  by_cases habsent : manager.watchdog = .absent
  · rw [startWatchdog_of_absent .report habsent, habsent]
    rfl
  · rw [startWatchdog_of_ne_absent .report habsent, beq_eq_false_iff_ne.mpr habsent]

end Step

/-! ## What a look finds -/

/-- A loss is that of an active display whose device gives a negative answer. -/
theorem findLoss_eq_some {records : List Record} {driver : Driver} {loss : Loss}
    (hloss : (findLoss records driver).1 = some loss) :
    loss.code < 0 ∧ ∃ record ∈ records, record.name = loss.name ∧ record.display.active = true ∧
      ∃ hardware, record.hardware? = some hardware ∧
        driver.backend.alive hardware.connection.handle = loss.code := by
  induction records generalizing driver with
  | nil => cases hloss
  | cons record records ih =>
      unfold findLoss at hloss
      split at hloss
      · rename_i hardware hactive hhardware
        split at hloss
        rename_i code after halive
        have hcode : driver.backend.alive hardware.connection.handle = code :=
          congrArg Prod.fst halive
        -- asking does not change what the driver answers later
        have hbackend : after.backend = driver.backend := (congrArg (·.2.backend) halive).symm
        split at hloss
        · rename_i hnegative
          obtain rfl := Option.some_inj.mp hloss
          exact ⟨hnegative, record, List.mem_cons_self, rfl, hactive, hardware, hhardware, hcode⟩
        · obtain ⟨hnegative, other, hother, hfound⟩ := ih hloss
          rw [hbackend] at hfound
          exact ⟨hnegative, other, List.mem_cons_of_mem _ hother, hfound⟩
      · obtain ⟨hnegative, other, hother, hfound⟩ := ih hloss
        exact ⟨hnegative, other, List.mem_cons_of_mem _ hother, hfound⟩

/-- What is reported was found by a running watchdog. -/
theorem Step.loss?_eq_some {step : Step} {loss : Loss} (hloss : step.loss? = some loss) :
    step.operation = .scan ∧ (∃ reaction, step.before.watchdog = .running reaction) ∧
      (findLoss step.before.registry.records step.before.host.driver).1 = some loss := by
  have hscan : step.operation = .scan := by
    by_contra hne
    rw [loss?_of_ne_scan hne] at hloss
    cases hloss
  obtain ⟨manager, operation⟩ := step
  obtain rfl := hscan
  have hscanned := manager.scanned_scan
  have hanswer : manager.scan.1 = some loss := hloss
  generalize manager.scan = outcome at hscanned hanswer
  cases hscanned with
  | idle still => cases hanswer
  | healthy running => cases hanswer
  | @lost reaction found running hfound =>
      obtain rfl := Option.some_inj.mp hanswer
      exact ⟨rfl, ⟨reaction, running⟩, hfound⟩

/-- A look only adds to the trace. -/
theorem trace_findLoss (records : List Record) (driver : Driver) :
    driver.trace <+: (findLoss records driver).2.trace := by
  induction records generalizing driver with
  | nil => exact List.prefix_rfl
  | cons record records ih =>
      unfold findLoss
      split
      · rename_i hardware _ _
        have hasked : driver.trace <+: (hardware.connection.alive driver).2.trace :=
          List.prefix_append _ _
        split
        rename_i code after halive
        rw [halive] at hasked
        split
        · exact hasked
        · exact hasked.trans (ih after)
      · exact ih driver

theorem trace_release (record : Record) (driver : Driver) :
    driver.trace <+: (record.release driver).trace := by
  unfold Record.release
  split
  · rw [Connection.trace_release, List.append_assoc]
    exact List.prefix_append _ _
  · exact List.prefix_rfl

theorem trace_releaseAll (registry : Registry) (driver : Driver) :
    driver.trace <+: (registry.releaseAll driver).trace := by
  unfold Registry.releaseAll
  induction registry.records generalizing driver with
  | nil => exact List.prefix_rfl
  | cons record records ih => exact (trace_release record driver).trans (ih _)

theorem trace_scan (manager : Manager) :
    manager.host.driver.trace <+: manager.scan.2.host.driver.trace := by
  have hlooked := trace_findLoss manager.registry.records manager.host.driver
  have hscanned := manager.scanned_scan
  generalize manager.scan = outcome at hscanned ⊢
  cases hscanned with
  | idle still => exact List.prefix_rfl
  | healthy running => exact hlooked
  | @lost reaction loss running found =>
      cases reaction with
      | report => exact hlooked
      | markFailed => exact hlooked
      | closeDriver => exact hlooked.trans (trace_releaseAll _ _)

/-! ## The watchdog that a session has -/

/-- What the steps of a session say about its watchdog. -/
structure Phase (session : List Step) (watchdog : Watchdog) : Prop where
  absent_iff : watchdog = .absent ↔ session.findSome? Step.reaction? = none
  /-- The watchdog runs for the first subscriber. -/
  subscribed : ∀ reaction, watchdog = .running reaction →
    session.findSome? Step.reaction? = some reaction
  started : session.countP Step.starts = if watchdog = .absent then 0 else 1
  reported : session.countP Step.reports = if watchdog = .finished then 1 else 0

namespace Phase

variable {session : List Step} {step : Step}

theorem nil : Phase [] .absent where
  absent_iff := by simp
  subscribed := by simp
  started := rfl
  reported := rfl

/-- A step that reports nothing and leaves the watchdog as it is; whoever subscribes in
it is not the first. -/
theorem kept (hphase : Phase session step.before.watchdog)
    (hsame : step.after.watchdog = step.before.watchdog) (hloss : step.loss? = none)
    (hreaction : step.reaction? = none ∨ step.before.watchdog ≠ .absent) :
    Phase (session ++ [step]) step.after.watchdog := by
  have hstarts : step.starts = false := Step.starts_of_watchdog_eq hsame
  have hreports : step.reports = false := by simp [Step.reports, hloss]
  have hfirst : (session ++ [step]).findSome? Step.reaction? =
      session.findSome? Step.reaction? := by
    rcases hreaction with hnone | hpresent
    · simp [hnone]
    · have hsome : session.findSome? Step.reaction? ≠ none := fun hnone =>
        hpresent (hphase.absent_iff.mpr hnone)
      obtain ⟨reaction, hreaction⟩ := Option.ne_none_iff_exists'.mp hsome
      simp [hreaction]
  rw [hsame]
  exact
    { absent_iff := by rw [hfirst, hphase.absent_iff]
      subscribed := by simpa only [hfirst] using hphase.subscribed
      started := by simp [hstarts, hphase.started]
      reported := by simp [hreports, hphase.reported] }

/-- The first subscription starts the watchdog, and no other one does. -/
theorem subscription {reaction : Reaction} (hphase : Phase session step.before.watchdog)
    (hreaction : step.reaction? = some reaction) :
    Phase (session ++ [step]) step.after.watchdog := by
  have hloss : step.loss? = none := Step.loss?_of_ne_scan (Step.closes_of_reaction? hreaction).2
  have hafter := Step.after_of_reaction? hreaction
  by_cases habsent : step.before.watchdog = .absent
  · rw [startWatchdog_of_absent reaction habsent] at hafter
    have hwatchdog : step.after.watchdog = .running reaction := by rw [hafter]
    have hfirst : (session ++ [step]).findSome? Step.reaction? = some reaction := by
      simp [hphase.absent_iff.mp habsent, hreaction]
    have hstarts : step.starts = true := by
      rw [Step.starts, habsent, hwatchdog]
      rfl
    have hreports : step.reports = false := by simp [Step.reports, hloss]
    rw [hwatchdog]
    exact
      { absent_iff := by simp [hfirst]
        subscribed := by
          rintro other hother
          rw [hfirst, Watchdog.running.inj hother]
        started := by simp [hstarts, hphase.started, habsent]
        reported := by simp [hreports, hphase.reported, habsent] }
  · rw [startWatchdog_of_ne_absent reaction habsent] at hafter
    exact hphase.kept (by rw [hafter]) hloss (.inr habsent)

/-- A look leaves the watchdog as it is, or finishes it with a report. -/
theorem look (hphase : Phase session step.before.watchdog) (hscan : step.operation = .scan)
    (hopen : step.closes = false) : Phase (session ++ [step]) step.after.watchdog := by
  obtain ⟨manager, operation⟩ := step
  obtain rfl := hscan
  have hscanned := manager.scanned_scan
  have hloss : Step.loss? ⟨manager, .scan⟩ = manager.scan.1 := rfl
  have hafter : Step.after ⟨manager, .scan⟩ = manager.scan.2 := rfl
  -- only a look that finds a loss ends the phase, and only once
  generalize manager.scan = outcome at hscanned hloss hafter
  cases hscanned with
  | idle still => exact hphase.kept (by rw [hafter]) hloss (.inl rfl)
  | healthy running => exact hphase.kept (by rw [hafter]; rfl) hloss (.inl rfl)
  | @lost reaction loss running found =>
      have hreports : Step.reports ⟨manager, .scan⟩ = true := by simp [Step.reports, hloss]
      have hwatchdog : (Step.after ⟨manager, .scan⟩).watchdog = .finished := by
        rw [hafter]
        cases reaction with
        | report => rfl
        | markFailed => rfl
        | closeDriver => simp [Step.closes, hreports, running] at hopen
      have hstarts : Step.starts ⟨manager, .scan⟩ = false := by simp [Step.starts, running]
      have hfirst := hphase.subscribed reaction running
      rw [hwatchdog]
      exact
        { absent_iff := by simp [hfirst]
          subscribed := by simp
          started := by simp [hstarts, hphase.started, running]
          reported := by simp [hreports, hphase.reported, running] }

/-- Every step in which the driver is not closed continues the session. -/
theorem next (hphase : Phase session step.before.watchdog) (hopen : step.closes = false) :
    Phase (session ++ [step]) step.after.watchdog := by
  cases hreaction : step.reaction? with
  | some reaction => exact hphase.subscription hreaction
  | none =>
      by_cases hscan : step.operation = .scan
      · exact hphase.look hscan hopen
      · have hclose : step.operation ≠ .closeDriver := by
          intro hclose
          simp [Step.closes, hclose] at hopen
        exact hphase.kept (Step.watchdog_after_of_kept hclose hscan hreaction)
          (Step.loss?_of_ne_scan hscan) (.inl hreaction)

theorem countP_reports_le (hphase : Phase session step.before.watchdog) :
    (session ++ [step]).countP Step.reports ≤ 1 := by
  rw [List.countP_append, List.countP_singleton, hphase.reported]
  cases hloss : step.loss? with
  | none => simp only [Step.reports, hloss]; split <;> decide
  | some loss =>
      obtain ⟨-, ⟨reaction, hrunning⟩, -⟩ := Step.loss?_eq_some hloss
      simp [Step.reports, hloss, hrunning]

theorem countP_starts_le (hphase : Phase session step.before.watchdog) :
    (session ++ [step]).countP Step.starts ≤ 1 := by
  rw [List.countP_append, List.countP_singleton, hphase.started]
  by_cases habsent : step.before.watchdog = .absent
  · rw [if_pos habsent]
    split <;> decide
  · simp [Step.starts, habsent]

/-- There is no watchdog exactly as long as none was started. -/
theorem absent_iff_not_started {watchdog : Watchdog} (hphase : Phase session watchdog) :
    (watchdog == .absent) = !session.any Step.starts := by
  by_cases habsent : watchdog = .absent
  · have hnone : session.countP Step.starts = 0 := by rw [hphase.started, if_pos habsent]
    have hany : session.any Step.starts = false := by
      simpa using List.countP_eq_zero.mp hnone
    simp [habsent, hany]
  · have hone : session.countP Step.starts = 1 := by rw [hphase.started, if_neg habsent]
    have hany : session.any Step.starts = true := by
      rw [List.any_eq_true]
      exact List.countP_pos_iff.mp (by omega)
    simp [habsent, hany]

/-- Before the start of a watchdog, and after its report, none is running. -/
theorem ne_running {watchdog : Watchdog} (hphase : Phase session watchdog)
    (hidle : session.any Step.reports = true ∨ session.any Step.starts = false)
    (reaction : Reaction) : watchdog ≠ .running reaction := by
  rintro rfl
  have hreported : session.countP Step.reports = 0 := hphase.reported
  have hstarted : session.countP Step.starts = 1 := hphase.started
  rcases hidle with hreports | hstarts
  · have hpos := List.countP_pos_iff.mpr (List.any_eq_true.mp hreports)
    omega
  · have hzero : session.countP Step.starts = 0 := List.countP_eq_zero.mpr (by simpa using hstarts)
    omega

end Phase

/-! ## Sessions of a run -/

def history (manager : Manager) : List Operation → List Step
  | [] => []
  | operation :: operations =>
    ⟨manager, operation⟩ :: (manager.perform operation).2.history operations

/-- The steps since the driver was closed last. -/
def currentSession (steps : List Step) : List Step := steps.rtakeWhile fun step => !step.closes

theorem history_concat (manager : Manager) (operations : List Operation)
    (operation : Operation) :
    manager.history (operations ++ [operation]) =
      manager.history operations ++ [⟨(manager.run operations).2, operation⟩] := by
  induction operations generalizing manager with
  | nil => rfl
  | cons first operations ih =>
      exact congrArg (_ :: ·) (ih (manager.perform first).2)

theorem watchdog_after_of_closes {step : Step} (hcloses : step.closes = true) :
    step.after.watchdog = .absent := by
  obtain ⟨manager, operation⟩ := step
  cases operation with
  | closeDriver => rfl
  | scan =>
      obtain ⟨hreports, hwatchdog⟩ := Bool.and_eq_true_iff.mp hcloses
      have hrunning : manager.watchdog = .running .closeDriver := eq_of_beq hwatchdog
      have hscanned := manager.scanned_scan
      have hsome : manager.scan.1.isSome = true := hreports
      have hafter : Step.after ⟨manager, .scan⟩ = manager.scan.2 := rfl
      generalize manager.scan = outcome at hscanned hsome hafter
      cases hscanned with
      | idle still => cases hsome
      | healthy running => cases hsome
      | @lost reaction loss running found =>
          obtain rfl := Watchdog.running.inj (hrunning.symm.trans running)
          rw [hafter]
          rfl
  | _ => cases hcloses

/-- After every run the watchdog is what its session says. -/
theorem phase_run (config : Config) (host : Host) (operations : List Operation) :
    Phase (currentSession ((new config host).history operations))
      ((new config host).run operations).2.watchdog := by
  induction operations using List.reverseRecOn with
  | nil => exact .nil
  | append_singleton operations operation ih =>
      rw [history_concat, run_append]
      set step : Step := ⟨((new config host).run operations).2, operation⟩
      change Phase _ step.after.watchdog
      -- a step that closes the driver starts a new session, any other goes on with the old one
      cases hcloses : step.closes with
      | true =>
          rw [currentSession, List.rtakeWhile_concat_neg _ _ _ (by simp [hcloses]),
            watchdog_after_of_closes hcloses]
          exact .nil
      | false =>
          rw [currentSession, List.rtakeWhile_concat_pos _ _ _ (by simp [hcloses])]
          exact ih.next hcloses

/-- Take any step of any run, in which the watchdog may look whenever it runs, and the
session that the step belongs to.

At most one loss is reported in a session, and at most one watchdog is started.  It
reports to the first who subscribed in the session; a later subscription changes nothing
at all, so nothing can reach whoever made it.  A receiver is given out exactly when no
watchdog was started in the session before.  After a report, or as long as no watchdog
was started since the driver was closed, a look makes no call.  Whatever a look asks, it
asks on a handle that is open at that moment.  A report carries a negative code and the
name of a display that has a device while the watchdog looks. -/
theorem watchdog_fires_once (config : Config) (files : Files) (source : DriverSource)
    (backend : Backend) (probes : Nat) (operations : List Operation) (operation : Operation) :
    let start := new config ⟨files, source, .fresh backend, probes⟩
    let step : Step := ⟨(start.run operations).2, operation⟩
    let session := currentSession (start.history operations)
    (session ++ [step]).countP Step.reports ≤ 1 ∧
      (session ++ [step]).countP Step.starts ≤ 1 ∧
      (∀ loss, step.loss? = some loss → ∃ reaction,
        step.before.watchdog = .running reaction ∧
          session.findSome? Step.reaction? = some reaction) ∧
      (session.findSome? Step.reaction? ≠ none → step.reaction? ≠ none →
        step.after = step.before) ∧
      (operation = .subscribe .channel →
        step.answer = .flag !session.any Step.starts) ∧
      (operation = .scan →
        session.any Step.reports = true ∨ session.any Step.starts = false →
          step.loss? = none ∧ step.after = step.before) ∧
      (operation = .scan → ∃ calls,
        step.after.host.driver.trace = step.before.host.driver.trace ++ calls ∧
          ∀ earlier handle request later, calls = earlier ++ .onHandle handle request :: later →
            handle ∈ Trace.openHandles (step.before.host.driver.trace ++ earlier)) ∧
      (∀ loss, step.loss? = some loss → loss.code < 0 ∧
        ∃ record ∈ step.before.registry.records,
          record.name = loss.name ∧ record.hardware?.isSome) := by
  intro start step session
  -- all but the handles and the code follows from the phase that the session has reached
  have hphase : Phase session step.before.watchdog := phase_run config _ operations
  refine ⟨hphase.countP_reports_le, hphase.countP_starts_le, ?_, ?_, ?_, ?_, ?_, ?_⟩
  · intro loss hloss
    obtain ⟨-, ⟨reaction, hrunning⟩, -⟩ := Step.loss?_eq_some hloss
    exact ⟨reaction, hrunning, hphase.subscribed reaction hrunning⟩
  · intro hfirst hsubscribes
    obtain ⟨reaction, hreaction⟩ := Option.ne_none_iff_exists'.mp hsubscribes
    have hpresent : step.before.watchdog ≠ .absent := fun habsent =>
      hfirst (hphase.absent_iff.mp habsent)
    rw [Step.after_of_reaction? hreaction, startWatchdog_of_ne_absent reaction hpresent]
  · intro hchannel
    rw [← hphase.absent_iff_not_started]
    exact Step.answer_of_channel hchannel
  · rintro rfl hidle
    have hscan : step.before.scan = (none, step.before) :=
      scan_of_not_running (hphase.ne_running hidle)
    exact ⟨congrArg Prod.fst hscan, congrArg Prod.snd hscan⟩
  · rintro rfl
    have hbefore : Holds step.before.registry.records step.before.host.driver :=
      holds_run config files source backend probes operations
    have hafter : Holds step.after.registry.records step.after.host.driver :=
      hbefore.effect (step.before.effect_perform .scan)
    obtain ⟨calls, hcalls⟩ := trace_scan step.before
    have htrace : step.after.host.driver.trace = step.before.host.driver.trace ++ calls :=
      hcalls.symm
    refine ⟨calls, htrace, ?_⟩
    rintro earlier handle request later rfl
    -- the trace stays disciplined, and a disciplined trace makes requests on open handles only
    refine hafter.leaves.disciplined _ (.onHandle handle request) later ?_
    rw [htrace, List.append_assoc]
  · intro loss hloss
    obtain ⟨-, -, hfound⟩ := Step.loss?_eq_some hloss
    obtain ⟨hnegative, record, hrecord, hname, -, hardware, hhardware, -⟩ :=
      findLoss_eq_some hfound
    exact ⟨hnegative, record, hrecord, hname, Option.isSome_of_eq_some hhardware⟩

/-- One waits for the report and another leaves a reaction behind.  When the device is
gone, the report goes to the first, and the next look makes no call. -/
theorem watchdog_fires_once_to_receiver :
    let request : DisplayRequest :=
      ⟨⟨Vector.replicate 32 0⟩, "client", "screen", 1920, 1080, 60000⟩
    let operations : List Operation := [.openDriver, .create request, .subscribe .channel,
      .subscribe (.callback .closeDriver), .setMemory ⟨[.available], [], [(0, -19)]⟩]
    let start := new .standard ⟨⟨fun _ => some (.file [])⟩, .given,
      .fresh (.memory (.ofSlots [.available])), 0⟩
    let look : Step := ⟨(start.run operations).2, .scan⟩
    let nextLook : Step := ⟨(start.run (operations ++ [.scan])).2, .scan⟩
    look.loss? = some ⟨"VIRTUAL-00000000", -19⟩ ∧
      (currentSession (start.history operations)).findSome? Step.reaction? = some .report ∧
      nextLook.loss? = none ∧ nextLook.after = nextLook.before := by
  intro request operations start look nextLook
  have hlook := watchdog_fires_once .standard ⟨fun _ => some (.file [])⟩ .given
    (.memory (.ofSlots [.available])) 0 operations .scan
  have hnext := watchdog_fires_once .standard ⟨fun _ => some (.file [])⟩ .given
    (.memory (.ofSlots [.available])) 0 (operations ++ [.scan]) .scan
  have hloss : look.loss? = some ⟨"VIRTUAL-00000000", -19⟩ := by decide +kernel
  have hrunning : look.before.watchdog = .running .report := by decide +kernel
  obtain ⟨reaction, hreaction, hfirst⟩ := hlook.2.2.1 _ hloss
  obtain rfl := Watchdog.running.inj (hrunning.symm.trans hreaction)
  exact ⟨hloss, hfirst, hnext.2.2.2.2.2.1 rfl (.inl (by decide +kernel))⟩

end VirtualMonitor.Manager
