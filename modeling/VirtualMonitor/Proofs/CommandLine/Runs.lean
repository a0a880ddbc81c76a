import VirtualMonitor.Proofs.CommandLine.Checks
import VirtualMonitor.Proofs.CommandLine.Keeping
import VirtualMonitor.Proofs.Edid.Dump

/-!
# Whole runs of the command line

* `checks_then_tidies`: a command line that fails a check does nothing but report the first
  check that it fails, in the words of `IsReport`; creating a display leaves a tidy trace,
  whichever way it ends;
* `edid_dump_agrees_with_create`: the EDID that is dumped for a mode is the one that
  creating a display of the mode plugs in.
-/

namespace VirtualMonitor.CommandLine

open Manager

/-! ## What is reported -/

inductive IsReason : Text.NumeralError → String → Prop
  | empty : IsReason .empty "cannot parse integer from empty string"
  | invalidDigit : IsReason .invalidDigit "invalid digit found in string"
  | tooLarge : IsReason .tooLarge "number too large to fit in target type"

/-- What failed, and why, where a reason is given. -/
inductive Describes : Failure → String → Option String → Prop
  | usage : Describes .usage
      "usage: vdisplayctl probe | edid WxH[@HZ] | create WxH[@HZ] [SECONDS]" none
  | badRefresh (text : String) {cause : Text.NumeralError} {reason : String}
      (hreason : IsReason cause reason) :
      Describes (.badRefresh text cause) ("Bad refresh rate '" ++ text ++ "'") (some reason)
  | badMode (text : String) :
      Describes (.badMode text) ("Bad mode '" ++ text ++ "', expected WIDTHxHEIGHT") none
  | badWidth (text : String) {cause : Text.NumeralError} {reason : String}
      (hreason : IsReason cause reason) :
      Describes (.badWidth text cause) ("Bad width '" ++ text ++ "'") (some reason)
  | badHeight (text : String) {cause : Text.NumeralError} {reason : String}
      (hreason : IsReason cause reason) :
      Describes (.badHeight text cause) ("Bad height '" ++ text ++ "'") (some reason)
  | refreshTooLarge (hertz : UInt32) : Describes (.refreshTooLarge hertz)
      ("Refresh rate " ++ hertz.toNat.repr ++ " Hz is too large") none
  | badDuration (text : String) {cause : Text.NumeralError} {reason : String}
      (hreason : IsReason cause reason) :
      Describes (.badDuration text cause) ("Bad duration '" ++ text ++ "'") (some reason)
  | creationFailed (reason : String) :
      Describes (.creationFailed reason) "Failed to create virtual display" (some reason)
  | removalFailed (reason : String) :
      Describes (.removalFailed reason) "Failed to remove virtual display" (some reason)
  | displayLost (name : String) (code : Int32) : Describes (.displayLost name code)
      ("Display " ++ name ++ " lost (code " ++ code.toInt.repr ++ ")") none

/-- What is written about a failure.  A reason stands on its own line, below what failed. -/
inductive IsReport (failure : Failure) : String → Prop
  | plain {heading : String} (hdescribes : Describes failure heading none) :
      IsReport failure ("Error: " ++ heading ++ "\n")
  | caused {heading reason : String} (hdescribes : Describes failure heading (some reason)) :
      IsReport failure ("Error: " ++ heading ++ "\n\nCaused by:\n    " ++ reason ++ "\n")

theorem isReason_message (cause : Text.NumeralError) : IsReason cause cause.message := by
  cases cause with
  | empty => exact .empty
  | invalidDigit => exact .invalidDigit
  | tooLarge => exact .tooLarge

theorem describes_message (failure : Failure) : Describes failure failure.message failure.cause? := by
  cases failure with
  | usage => exact .usage
  | badRefresh text cause => exact .badRefresh text (isReason_message cause)
  | badMode text => exact .badMode text
  | badWidth text cause => exact .badWidth text (isReason_message cause)
  | badHeight text cause => exact .badHeight text (isReason_message cause)
  | refreshTooLarge hertz => exact .refreshTooLarge hertz
  | badDuration text cause => exact .badDuration text (isReason_message cause)
  | creationFailed reason => exact .creationFailed reason
  | removalFailed reason => exact .removalFailed reason
  | displayLost name code => exact .displayLost name code

theorem isReport_report (failure : Failure) : IsReport failure failure.report := by
  have hdescribes := describes_message failure
  unfold Failure.report
  cases hcause : failure.cause? with
  | none =>
      rw [hcause] at hdescribes
      rw [String.append_empty]
      exact .plain hdescribes
  | some reason =>
      rw [hcause] at hdescribes
      dsimp only
      rw [← String.append_assoc]
      exact .caused hdescribes

/-! ## Runs -/

/-- A display is created only at a rate that fits. -/
theorem fits_of_parse {arguments : List String} {mode : Mode} {seconds : UInt64}
    (hparse : parse arguments = .ok (.create mode seconds)) :
    (millihertz? mode.hertz).isSome = true := by
  unfold parse at hparse
  split at hparse
  · cases hparse
  · rename_i text
    cases hmode : parseMode text with
    | error fault =>
        rw [hmode] at hparse
        cases hparse
    | ok mode =>
        rw [hmode] at hparse
        cases hparse
  · exact fits_of_parseCreate hparse
  · exact fits_of_parseCreate hparse
  · cases hparse

theorem run_of_parse {arguments : List String} {command : Command} (uuid : Uuid)
    (manager : Manager) (hparse : parse arguments = .ok command) :
    run arguments uuid manager = command.run uuid manager := by
  rw [run, hparse]

/-- A command line is checked before anything is done.  If it fails a check, it is turned away
with the first that it fails, and the run reports that one, writes nothing, makes no call and
changes nothing.

Otherwise it is a command; and if that creates a display, then whatever passes and
whichever way the run ends, all that was done to devices is one visit at most: a device was
opened, a monitor plugged in, pulled out again, and the handle closed.  Nothing is left
open or plugged in, and the run fails if and only if it ends because of a loss. -/
theorem checks_then_tidies (config : Config) (files : Files) (source : DriverSource)
    (backend : Backend) (probes : Nat) (uuid : Uuid) (arguments : List String) :
    let manager := new config ⟨files, source, .fresh backend, probes⟩
    (∀ fault, firstFault? arguments = some fault →
      parse arguments = .error fault ∧ IsReport fault fault.report ∧
        run arguments uuid manager = (⟨1, "", fault.report⟩, manager) ∧
        manager.drop.trace = []) ∧
      (firstFault? arguments = none → parse arguments = .ok (commandOf arguments)) ∧
      ∀ mode seconds, parse arguments = .ok (.create mode seconds) →
        (∃ loss?, CanEnd mode uuid manager loss? (run arguments uuid manager)) ∧
          ∀ loss? ended, CanEnd mode uuid manager loss? ended →
            ended.1.code = (if loss?.isSome then 1 else 0) ∧
              Trace.Tidy mode ended.2.drop.trace ∧
              Trace.openHandles ended.2.drop.trace = [] ∧
              ∀ handle, Trace.plugged? handle ended.2.drop.trace = none := by
  intro manager
  refine ⟨?_, ?_, ?_⟩
  · intro fault hfault
    -- a run that parses to a fault is its report, whatever the manager
    have hparse : parse arguments = .error fault := by
      rw [parse_eq, hfault]
      rfl
    refine ⟨hparse, isReport_report fault, ?_, rfl⟩
    rw [run, hparse]
    rfl
  · intro hsound
    rw [parse_eq, hsound]
    rfl
  · intro mode seconds hparse
    have hfits := fits_of_parse hparse
    refine ⟨?_, ?_⟩
    · rw [run_of_parse uuid manager hparse]
      exact canEnd_keep mode seconds uuid manager
    · -- what is left open and plugged in follows from the one visit
      intro loss? ended hend
      obtain ⟨hcode, htidy⟩ := tidy_of_canEnd config files source backend probes uuid hfits hend
      exact ⟨hcode, htidy, htidy.openHandles_eq_nil, htidy.plugged?_eq_none⟩

/-- Of four bad numerals the rate is reported; and a display whose device is found gone is
given up all the same. -/
theorem checks_then_tidies_lost :
    let uuid : Uuid := ⟨Vector.replicate 32 0⟩
    let manager := new .standard ⟨⟨fun _ => some (.file [])⟩, .given,
      .fresh (.memory ((MemoryDriver.ofSlots [.available]).setAlive 0 (-5))), 0⟩
    let lost := run ["create", "800x600"] uuid manager
    let report := "Error: Bad refresh rate 'fast'\n\nCaused by:\n    invalid digit found in string\n"
    parse ["create", "widexhigh@fast", "soon"] = .error (.badRefresh "fast" .invalidDigit) ∧
      run ["create", "widexhigh@fast", "soon"] uuid manager = (⟨1, "", report⟩, manager) ∧
      lost.1.code = 1 ∧ Trace.Tidy ⟨800, 600, 60⟩ lost.2.drop.trace := by
  intro uuid manager lost report
  obtain ⟨hfaults, -, -⟩ := checks_then_tidies .standard ⟨fun _ => some (.file [])⟩ .given
    (.memory ((MemoryDriver.ofSlots [.available]).setAlive 0 (-5))) 0 uuid
    ["create", "widexhigh@fast", "soon"]
  obtain ⟨-, -, hcreates⟩ := checks_then_tidies .standard ⟨fun _ => some (.file [])⟩ .given
    (.memory ((MemoryDriver.ofSlots [.available]).setAlive 0 (-5))) 0 uuid
    ["create", "800x600"]
  have hparse := @parse_create "800x600" ⟨800, 600, 60⟩ none rfl (by decide) nofun
  obtain ⟨⟨loss?, hend⟩, hends⟩ := hcreates ⟨800, 600, 60⟩ defaultSeconds hparse
  -- the run creates the display and ends with the loss that the first look finds
  obtain ⟨-, htidy, -⟩ := hends loss? lost hend
  obtain ⟨hfault, -, hrun, -⟩ := hfaults (.badRefresh "fast" .invalidDigit) (by decide +kernel)
  have hreport : (Failure.badRefresh "fast" .invalidDigit).report = report := by decide +kernel
  rw [hreport] at hrun
  exact ⟨hfault, hrun, by decide +kernel, htidy⟩

/-- For every mode that is read from a text, dumping its EDID succeeds and makes no call.
The dump has eight lines of sixteen bytes and an empty one for every 128 bytes of the EDID,
and reading it back gives exactly these bytes.

If the rate fits, a display of the mode is created, for any good duration; and whatever
passes and whichever way the run ends, if a device was opened, then a monitor was plugged in
once, and its EDID consists of the very same bytes. -/
theorem edid_dump_agrees_with_create (config : Config) (files : Files) (source : DriverSource)
    (backend : Backend) (probes : Nat) (uuid : Uuid) {text : String}
    {mode : Mode} (hmode : parseMode text = .ok mode) :
    let manager := new config ⟨files, source, .fresh backend, probes⟩
    let edid := (Edid.ofMode mode).bytes
    (∃ output count, run ["edid", text] uuid manager = (⟨0, output, ""⟩, manager) ∧
      edid.length = 128 * count ∧ Edid.IsDump count output.toList ∧
        Edid.readDump? output.toList = some edid) ∧
      (mode.hertz.toNat ≤ 4294967 →
        (∀ seconds? : Option String, (∀ seconds ∈ seconds?, durationFault? seconds = none) →
          ∃ loss?, CanEnd mode uuid manager loss?
            (run ("create" :: text :: seconds?.toList) uuid manager)) ∧
        ∀ loss? ended, CanEnd mode uuid manager loss? ended →
          ∀ slot handle, .openDevice slot (some handle) ∈ ended.2.drop.trace →
            ended.2.drop.trace.filterMap Call.edid? = [edid]) := by
  intro manager edid
  have hwhole := Edid.whole_ofMode mode
  refine ⟨⟨(Edid.ofMode mode).dump, (Edid.ofMode mode).blocks.length, ?_, ?_, ?_, ?_⟩, ?_⟩
  · have hparse : parse ["edid", text] = .ok (.edid mode) := by
      rw [parse, hmode]
      rfl
    rw [run_of_parse uuid manager hparse]
    rfl
  · exact Edid.length_bytes hwhole
  · exact Edid.isDump_dump hwhole
  · exact Edid.readDump?_dump hwhole
  · intro hfits
    refine ⟨?_, ?_⟩
    · intro seconds? hseconds
      have hparse := parse_create hmode hfits hseconds
      rw [run_of_parse uuid manager hparse]
      exact canEnd_keep mode _ uuid manager
    · intro loss? ended hend slot handle hopened
      -- the bound on the rate is the one that `create` checks
      have hthousand := fits_of_parse (@parse_create text mode none hmode hfits nofun)
      obtain ⟨-, htidy⟩ :=
        tidy_of_canEnd config files source backend probes uuid hthousand hend
      exact htidy.filterMap_edid?_eq hopened

/-- The memory driver has one slot. -/
theorem edid_dump_agrees_with_create_full_hd :
    let uuid : Uuid := ⟨Vector.replicate 32 0⟩
    let manager := new .standard ⟨⟨fun _ => some (.file [])⟩, .given,
      .fresh (.memory (.ofSlots [.available])), 0⟩
    let edid := (Edid.ofMode ⟨1920, 1080, 75⟩).bytes
    let dumped := run ["edid", "1920x1080@75"] uuid manager
    let created := run ["create", "1920x1080@75", "3"] uuid manager
    Edid.readDump? dumped.1.output.toList = some edid ∧
      created.2.drop.trace.filterMap Call.edid? = [edid] := by
  intro uuid manager edid dumped created
  have hmode : parseMode "1920x1080@75" = .ok ⟨1920, 1080, 75⟩ := rfl
  obtain ⟨⟨output, count, hdumped, -, -, hread⟩, hcreate⟩ := edid_dump_agrees_with_create .standard
    ⟨fun _ => some (.file [])⟩ .given (.memory (.ofSlots [.available])) 0 uuid hmode
  obtain ⟨hruns, hends⟩ := hcreate (by decide)
  obtain ⟨loss?, hend⟩ := hruns (some "3") (by decide)
  refine ⟨?_, hends loss? created hend 0 ⟨1⟩ (by decide +kernel)⟩
  have houtput : dumped.1.output = output := congrArg (fun run => run.1.output) hdumped
  rw [houtput]
  exact hread

end VirtualMonitor.CommandLine
