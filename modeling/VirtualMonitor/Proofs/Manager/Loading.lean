import VirtualMonitor.Manager.Basic

/-!
# The first loadable candidate decides

Binding a library can end in four ways (`Ending`): there are no candidates, none of them can
be loaded, or the first that can be has all entry points or lacks some.  Every row of
candidates ends in one of them, and each determines both the outcome and what is asked on
the way.

* `first_loadable_decides`: the first candidate that can be loaded decides; it is bound if
  and only if it exports every entry point, and no later one is tried.
-/

namespace VirtualMonitor.Library

/-! ## What decides -/

/-- The candidates start with some that cannot be loaded and with `path`, which can be;
`missing` is missing from it. -/
structure FirstLoadable (missing? : String → Option (List String)) (candidates passed : List String)
    (path : String) (missing : List String) : Prop where
  first : passed ++ [path] <+: candidates
  unloadable : ∀ candidate ∈ passed, missing? candidate = none
  loadable : missing? path = some missing

/-- The entry points start with some that are there and with `entryPoint`, which is not. -/
structure FirstMissing (missing exported : List String) (entryPoint : String) : Prop where
  first : exported ++ [entryPoint] <+: entryPoints
  present : ∀ earlier ∈ exported, earlier ∉ missing
  absent : entryPoint ∈ missing

section

variable {missing? : String → Option (List String)}
  {candidates passed missing exported : List String} {path entryPoint : String} {failed : Bool}

/-! ## What is asked on the way -/

theorem resolveAll_of_present {names : List String} (hpresent : ∀ name ∈ names, name ∉ missing) :
    resolveAll missing names = (.ok names, names.map .resolve) := by
  induction names with
  | nil => rfl
  | cons name names ih =>
      obtain ⟨hname, hnames⟩ := List.forall_mem_cons.mp hpresent
      rw [resolveAll, if_neg hname, ih hnames]
      rfl

theorem resolveAll_of_missing {later : List String} (hpresent : ∀ name ∈ exported, name ∉ missing)
    (habsent : entryPoint ∈ missing) :
    resolveAll missing (exported ++ entryPoint :: later) =
      (.error (.unresolved entryPoint), (exported ++ [entryPoint]).map .resolve) := by
  induction exported with
  | nil => simp [resolveAll, habsent]
  | cons name exported ih =>
      obtain ⟨hname, hexported⟩ := List.forall_mem_cons.mp hpresent
      rw [List.cons_append, resolveAll, if_neg hname, ih hexported]
      rfl

/-- Candidates that cannot be loaded are tried and passed over. -/
theorem tryCandidates_append {rest : List String}
    (hunloadable : ∀ candidate ∈ passed, missing? candidate = none) :
    tryCandidates missing? failed (passed ++ rest) =
      let (outcome, asked) := tryCandidates missing? (failed || !passed.isEmpty) rest
      (outcome, passed.map .load ++ asked) := by
  induction passed generalizing failed with
  | nil => simp
  | cons candidate passed ih =>
      obtain ⟨hcandidate, hpassed⟩ := List.forall_mem_cons.mp hunloadable
      simp [tryCandidates, hcandidate, ih hpassed]

theorem tryCandidates_of_unloadable
    (hunloadable : ∀ candidate ∈ candidates, missing? candidate = none) :
    tryCandidates missing? failed candidates =
      (.error (if failed || !candidates.isEmpty then .noneLoadable else .noCandidates),
        candidates.map .load) := by
  rw [← List.append_nil candidates, tryCandidates_append hunloadable]
  simp [tryCandidates]

theorem tryCandidates_of_firstLoadable
    (hdecides : FirstLoadable missing? candidates passed path missing) :
    tryCandidates missing? failed candidates =
      ((bindLoaded missing path).1,
        (passed ++ [path]).map .load ++ (bindLoaded missing path).2) := by
  obtain ⟨later, rfl⟩ := hdecides.first
  rw [List.append_assoc, tryCandidates_append hdecides.unloadable]
  simp [tryCandidates, hdecides.loadable]

theorem bindLoaded_of_exports (path : String)
    (hexports : ∀ entryPoint ∈ entryPoints, entryPoint ∉ missing) :
    bindLoaded missing path =
      (.ok ⟨path, entryPoints⟩, entryPoints.map .resolve ++ [.version]) := by
  rw [bindLoaded, resolveAll_of_present hexports]

theorem bindLoaded_of_firstMissing (path : String)
    (hlacks : FirstMissing missing exported entryPoint) :
    bindLoaded missing path =
      (.error (.unresolved entryPoint), (exported ++ [entryPoint]).map .resolve) := by
  obtain ⟨later, hlater⟩ := hlacks.first
  rw [bindLoaded, ← hlater, List.append_assoc, List.singleton_append,
    resolveAll_of_missing hlacks.present hlacks.absent]

theorem loadWith_of_unloadable
    (hunloadable : ∀ candidate ∈ candidates, missing? candidate = none) :
    loadWith missing? candidates =
      (.error (if candidates.isEmpty then .noCandidates else .noneLoadable),
        candidates.map .load) := by
  rw [loadWith, tryCandidates_of_unloadable hunloadable]
  cases candidates <;> rfl

theorem loadWith_of_exports (hdecides : FirstLoadable missing? candidates passed path missing)
    (hexports : ∀ entryPoint ∈ entryPoints, entryPoint ∉ missing) :
    loadWith missing? candidates = (.ok ⟨path, entryPoints⟩,
      (passed ++ [path]).map .load ++ entryPoints.map .resolve ++ [.version]) := by
  rw [loadWith, tryCandidates_of_firstLoadable hdecides, bindLoaded_of_exports path hexports,
    List.append_assoc]

theorem loadWith_of_firstMissing
    (hdecides : FirstLoadable missing? candidates passed path missing)
    (hlacks : FirstMissing missing exported entryPoint) :
    loadWith missing? candidates = (.error (.unresolved entryPoint),
      (passed ++ [path]).map .load ++ (exported ++ [entryPoint]).map .resolve) := by
  rw [loadWith, tryCandidates_of_firstLoadable hdecides, bindLoaded_of_firstMissing path hlacks]

/-! ## The four endings -/

/-- How a row of candidates ends: with what outcome, and after which questions. -/
inductive Ending (missing? : String → Option (List String)) (candidates : List String) :
    Except LoadError Bound × List Question → Prop
  | unconfigured (empty : candidates = []) : Ending missing? candidates (.error .noCandidates, [])
  | unloadable (nonempty : candidates ≠ [])
      (fails : ∀ candidate ∈ candidates, missing? candidate = none) :
      Ending missing? candidates (.error .noneLoadable, candidates.map .load)
  | complete {passed : List String} {path : String} {missing : List String}
      (decides : FirstLoadable missing? candidates passed path missing)
      (exports : ∀ entryPoint ∈ entryPoints, entryPoint ∉ missing) :
      Ending missing? candidates (.ok ⟨path, entryPoints⟩,
        (passed ++ [path]).map .load ++ entryPoints.map .resolve ++ [.version])
  | incomplete {passed : List String} {path : String} {missing exported : List String}
      {entryPoint : String} (decides : FirstLoadable missing? candidates passed path missing)
      (lacks : FirstMissing missing exported entryPoint) :
      Ending missing? candidates (.error (.unresolved entryPoint),
        (passed ++ [path]).map .load ++ (exported ++ [entryPoint]).map .resolve)

/-- A list has no element of a kind, or a first one. -/
private theorem none_or_first {α : Type} (kind : α → Bool) (list : List α) :
    (∀ element ∈ list, kind element = false) ∨
      ∃ earlier first, earlier ++ [first] <+: list ∧ (∀ element ∈ earlier, kind element = false) ∧
        kind first = true := by
  cases hfind : list.find? kind with
  | none =>
      refine .inl fun element helement => ?_
      simpa using List.find?_eq_none.mp hfind element helement
  | some first =>
      obtain ⟨hfirst, earlier, later, rfl, hearlier⟩ := List.find?_eq_some_iff_append.mp hfind
      refine .inr ⟨earlier, first, ⟨later, by simp⟩, fun element helement => ?_, hfirst⟩
      simpa using hearlier element helement

theorem ending (missing? : String → Option (List String)) (candidates : List String) :
    Ending missing? candidates (loadWith missing? candidates) := by
  rcases none_or_first (fun candidate => (missing? candidate).isSome) candidates with
    hnone | ⟨passed, path, hfirst, hpassed, hpath⟩
  · have hunloadable : ∀ candidate ∈ candidates, missing? candidate = none :=
      fun candidate hmem => by simpa using hnone candidate hmem
    rw [loadWith_of_unloadable hunloadable]
    cases candidates with
    | nil => exact .unconfigured rfl
    | cons candidate rest => exact .unloadable (List.cons_ne_nil candidate rest) hunloadable
  · -- the first candidate that can be loaded decides; it remains to see what is missing from it
    obtain ⟨missing, hmissing⟩ := Option.isSome_iff_exists.mp hpath
    have hdecides : FirstLoadable missing? candidates passed path missing :=
      ⟨hfirst, fun candidate hmem => by simpa using hpassed candidate hmem, hmissing⟩
    -- the same question of its entry points: none is missing, or a first one is
    rcases none_or_first (fun entryPoint => decide (entryPoint ∈ missing)) entryPoints with
      hexports | ⟨exported, entryPoint, hentry, hexported, habsent⟩
    · have hexports : ∀ entryPoint ∈ entryPoints, entryPoint ∉ missing :=
        fun entryPoint hmem => by simpa using hexports entryPoint hmem
      rw [loadWith_of_exports hdecides hexports]
      exact .complete hdecides hexports
    · have hlacks : FirstMissing missing exported entryPoint :=
        ⟨hentry, fun earlier hmem => by simpa using hexported earlier hmem, by simpa using habsent⟩
      rw [loadWith_of_firstMissing hdecides hlacks]
      exact .incomplete hdecides hlacks

/-- An outcome comes about only in the ending that has it. -/
theorem ending_of_outcome {outcome : Except LoadError Bound}
    (hload : (loadWith missing? candidates).1 = outcome) :
    ∃ asked, Ending missing? candidates (outcome, asked) := by
  subst hload
  exact ⟨(loadWith missing? candidates).2, ending missing? candidates⟩

theorem loadWith_eq_ok_iff {bound : Bound} :
    (loadWith missing? candidates).1 = .ok bound ↔
      bound.resolved = entryPoints ∧ ∃ passed missing,
        FirstLoadable missing? candidates passed bound.path missing ∧
          ∀ entryPoint ∈ entryPoints, entryPoint ∉ missing := by
  constructor
  · intro hload
    obtain ⟨asked, hending⟩ := ending_of_outcome hload
    cases hending with
    | complete decides exports => exact ⟨rfl, _, _, decides, exports⟩
  · rintro ⟨hresolved, passed, missing, hdecides, hexports⟩
    rw [loadWith_of_exports hdecides hexports, ← hresolved]

theorem loadWith_eq_unresolved_iff :
    (loadWith missing? candidates).1 = .error (.unresolved entryPoint) ↔
      ∃ passed path missing exported, FirstLoadable missing? candidates passed path missing ∧
        FirstMissing missing exported entryPoint := by
  constructor
  · intro hload
    obtain ⟨asked, hending⟩ := ending_of_outcome hload
    cases hending with
    | incomplete decides lacks => exact ⟨_, _, _, _, decides, lacks⟩
  · rintro ⟨passed, path, missing, exported, hdecides, hlacks⟩
    rw [loadWith_of_firstMissing hdecides hlacks]

theorem loadWith_eq_noneLoadable_iff :
    (loadWith missing? candidates).1 = .error .noneLoadable ↔
      candidates ≠ [] ∧ ∀ candidate ∈ candidates, missing? candidate = none := by
  constructor
  · intro hload
    obtain ⟨asked, hending⟩ := ending_of_outcome hload
    cases hending with
    | unloadable nonempty fails => exact ⟨nonempty, fails⟩
  · rintro ⟨hsome, hnone⟩
    rw [loadWith_of_unloadable hnone, if_neg (by simpa using hsome)]

theorem loadWith_eq_noCandidates_iff :
    (loadWith missing? candidates).1 = .error .noCandidates ↔ candidates = [] := by
  constructor
  · intro hload
    obtain ⟨asked, hending⟩ := ending_of_outcome hload
    cases hending with
    | unconfigured empty => exact empty
  · rintro rfl
    rfl

theorem probe?_eq_some_iff {bound : Bound} :
    probe? missing? candidates = some bound ↔ (loadWith missing? candidates).1 = .ok bound := by
  unfold probe?
  cases (loadWith missing? candidates).1 with
  | ok found => simp [Except.toOption]
  | error error => simp [Except.toOption]

end

/-- Looking for a driver in libraries makes no call; one that is found starts anew. -/
theorem probe_loader (lookup : Files → String → Option (List String)) (candidates : List String)
    (files : Files) (driver : Driver) (probes : Nat) :
    let found := (⟨files, .loader lookup, driver, probes⟩ : Host).probe candidates
    found.1 = (probe? (lookup files) candidates).isSome ∧
      found.2.driver.trace = driver.trace ∧
      found.2.driver.backend = if found.1 then driver.backend.reload else driver.backend := by
  intro found
  -- only a driver that is found is reloaded
  cases hprobe : probe? (lookup files) candidates with
  | some bound =>
      have hfound :
          found = (true, ⟨files, .loader lookup, driver.withBackend .reload, probes + 1⟩) := by
        simp only [found, Host.probe, hprobe]
      rw [hfound]
      exact ⟨rfl, rfl, rfl⟩
  | none =>
      have hfound : found = (false, ⟨files, .loader lookup, driver, probes + 1⟩) := by
        simp only [found, Host.probe, hprobe]
      rw [hfound]
      exact ⟨rfl, rfl, rfl⟩

/-- For all candidates, whatever can be loaded and whatever is missing from it:

* a library is bound exactly if some candidate can be loaded and the first that can be
  exports every entry point; its path is that candidate, and all entry points are resolved;
* if that one lacks entry points, the failure names the first that is missing, in the order
  in which they are resolved;
* if there are candidates and none can be loaded, the failure says so, and it is another one
  if there are no candidates;
* the candidates are loaded up to the first that can be and no further, its entry points are
  resolved up to the first that is missing, and the driver is asked for its version, and for
  nothing else, exactly if none is;
* probing gives a driver exactly if one is bound, and so does a manager's looking for one
  among libraries; the trace stays as it is, and so does a driver that is not found. -/
theorem first_loadable_decides (missing? : String → Option (List String))
    (candidates : List String) :
    let loaded := loadWith missing? candidates
    entryPoints = ["evdi_check_device", "evdi_open", "evdi_add_device", "evdi_close",
        "evdi_connect", "evdi_disconnect", "evdi_grab_pixels", "evdi_register_buffer",
        "evdi_unregister_buffer", "evdi_request_update", "evdi_handle_events",
        "evdi_get_event_ready", "evdi_get_lib_version"] ∧
      (∀ bound, loaded.1 = .ok bound ↔ bound.resolved = entryPoints ∧ ∃ passed missing,
        FirstLoadable missing? candidates passed bound.path missing ∧
          ∀ entryPoint ∈ entryPoints, entryPoint ∉ missing) ∧
      (∀ entryPoint, loaded.1 = .error (.unresolved entryPoint) ↔
        ∃ passed path missing exported, FirstLoadable missing? candidates passed path missing ∧
          FirstMissing missing exported entryPoint) ∧
      (loaded.1 = .error .noneLoadable ↔
        candidates ≠ [] ∧ ∀ candidate ∈ candidates, missing? candidate = none) ∧
      (loaded.1 = .error .noCandidates ↔ candidates = []) ∧
      LoadError.noneLoadable.message = "No EVDI library could be loaded" ∧
      LoadError.noCandidates.message = "No EVDI library candidates configured" ∧
      (∀ entryPoint,
        (LoadError.unresolved entryPoint).message = "Failed to resolve " ++ entryPoint) ∧
      (∀ passed path missing, FirstLoadable missing? candidates passed path missing →
        (∀ entryPoint ∈ entryPoints, entryPoint ∉ missing) →
          loaded.2 = (passed ++ [path]).map .load ++ entryPoints.map .resolve ++ [.version]) ∧
      (∀ passed path missing exported entryPoint,
        FirstLoadable missing? candidates passed path missing →
          FirstMissing missing exported entryPoint →
            loaded.2 = (passed ++ [path]).map .load ++ (exported ++ [entryPoint]).map .resolve) ∧
      ((∀ candidate ∈ candidates, missing? candidate = none) →
        loaded.2 = candidates.map .load) ∧
      (∀ bound, probe? missing? candidates = some bound ↔ loaded.1 = .ok bound) ∧
      ∀ (lookup : Files → String → Option (List String)) (files : Files),
        lookup files = missing? → ∀ driver probes,
          let found := (⟨files, .loader lookup, driver, probes⟩ : Host).probe candidates
          (found.1 = true ↔ ∃ bound, loaded.1 = .ok bound) ∧
            found.2.driver.trace = driver.trace ∧
            found.2.driver.backend =
              if found.1 then driver.backend.reload else driver.backend := by
  intro loaded
  refine ⟨rfl, fun bound => loadWith_eq_ok_iff, fun entryPoint => loadWith_eq_unresolved_iff,
    loadWith_eq_noneLoadable_iff, loadWith_eq_noCandidates_iff, rfl, rfl, fun entryPoint => rfl,
    ?_, ?_, ?_, fun bound => probe?_eq_some_iff, ?_⟩
  · -- the three shapes of the trace, one for each way in which the row can end
    intro passed path missing hdecides hexports
    exact congrArg Prod.snd (loadWith_of_exports hdecides hexports)
  · intro passed path missing exported entryPoint hdecides hlacks
    exact congrArg Prod.snd (loadWith_of_firstMissing hdecides hlacks)
  · intro hunloadable
    exact congrArg Prod.snd (loadWith_of_unloadable hunloadable)
  · rintro lookup files rfl driver probes found
    -- a host whose lookup answers as `missing?` does for its files asks the same questions
    obtain ⟨hfound, htrace, hbackend⟩ := probe_loader lookup candidates files driver probes
    refine ⟨?_, htrace, hbackend⟩
    rw [show found.1 = _ from hfound, Option.isSome_iff_exists]
    exact exists_congr fun bound => probe?_eq_some_iff

/-- Of the standard candidates the second is the first that can be loaded, and the third would
lack an entry point.  The second is bound as long as it has every entry point; without two of
them binding fails at the one that is resolved first. -/
theorem first_loadable_decides_second :
    let candidates := Config.standard.libraryCandidates
    let offering (missing : List String) (candidate : String) : Option (List String) :=
      if candidate = "libevdi.so" then some missing
      else if candidate = "/usr/lib/libevdi.so.1" then some ["evdi_close"] else none
    (loadWith (offering []) candidates).1 = .ok ⟨"libevdi.so", entryPoints⟩ ∧
      (loadWith (offering []) candidates).2 =
        [.load "libevdi.so.1", .load "libevdi.so"] ++ entryPoints.map .resolve ++ [.version] ∧
      (loadWith (offering ["evdi_close", "evdi_open"]) candidates).1 =
        .error (.unresolved "evdi_open") ∧
      (loadWith (offering ["evdi_close", "evdi_open"]) candidates).2 =
        [.load "libevdi.so.1", .load "libevdi.so", .resolve "evdi_check_device",
          .resolve "evdi_open"] := by
  intro candidates offering
  have hdecides : ∀ missing,
      FirstLoadable (offering missing) candidates ["libevdi.so.1"] "libevdi.so" missing :=
    fun missing => ⟨⟨_, rfl⟩, by simp [offering], by simp [offering]⟩
  have hexports : ∀ entryPoint ∈ entryPoints, entryPoint ∉ ([] : List String) :=
    fun entryPoint _ => List.not_mem_nil
  have hlacks :
      FirstMissing ["evdi_close", "evdi_open"] ["evdi_check_device"] "evdi_open" :=
    ⟨⟨_, rfl⟩, by decide, by decide⟩
  obtain ⟨-, hbound, -, -, -, -, -, -, hasked, -⟩ :=
    first_loadable_decides (offering []) candidates
  obtain ⟨-, -, hunresolved, -, -, -, -, -, -, hstopped, -⟩ :=
    first_loadable_decides (offering ["evdi_close", "evdi_open"]) candidates
  exact ⟨(hbound _).mpr ⟨rfl, _, _, hdecides [], hexports⟩, hasked _ _ _ (hdecides []) hexports,
    (hunresolved _).mpr ⟨_, _, _, _, hdecides _, hlacks⟩, hstopped _ _ _ _ _ (hdecides _) hlacks⟩

end VirtualMonitor.Library
