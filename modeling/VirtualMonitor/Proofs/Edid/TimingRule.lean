import VirtualMonitor.Proofs.Edid.TimingFields

/-!
# What the timing of a mode depends on

Four sizes have a fixed timing; for any other size only the clock of the timing follows the
rate.  Either way the sync pulse and the porch before it are short against the blanking, and
stay so in the fields of a detailed timing, although the horizontal blanking has a field of
12 bits and porch and sync have 10: a quarter of what is left of the blanking in 12 bits is
what is left of its quarter in 10.

* `sync_inside_blanking`: in the preferred timing of every EDID, as a host reads it, the sync
  pulse ends before the blanking does.
-/

namespace VirtualMonitor

namespace Timing

/-! ## Fixed and estimated timings -/

/-- Some sizes have a fixed timing. -/
def IsFixed (width height : UInt32) : Prop := (fixed.lookup (width, height)).isSome

instance (width height : UInt32) : Decidable (IsFixed width height) :=
  inferInstanceAs (Decidable (_ = true))

theorem isFixed_iff (width height : UInt32) : IsFixed width height ↔
    (width, height) ∈ [((3840 : UInt32), (2160 : UInt32)), (2560, 1440), (1920, 1080),
      (1280, 720)] := by
  rw [IsFixed, List.lookup_isSome_iff]
  simp [fixed]

theorem ofMode_of_not_isFixed {mode : Mode} (hfixed : ¬IsFixed mode.width mode.height) :
    ofMode mode = estimate mode := by
  rw [ofMode, Option.not_isSome_iff_eq_none.mp hfixed, Option.getD_none]

theorem ofMode_of_isFixed {width height : UInt32} (hfixed : IsFixed width height)
    (hertz other : UInt32) : ofMode ⟨width, height, hertz⟩ = ofMode ⟨width, height, other⟩ := by
  obtain ⟨timing, htiming⟩ := Option.isSome_iff_exists.mp hfixed
  simp only [ofMode, htiming, Option.getD_some]

theorem ofMode_mem_fixed {mode : Mode} (hfixed : IsFixed mode.width mode.height) :
    ((mode.width, mode.height), ofMode mode) ∈ fixed := by
  obtain ⟨timing, htiming⟩ := Option.isSome_iff_exists.mp hfixed
  obtain ⟨before, behind, htable, -⟩ := List.lookup_eq_some_iff.mp htiming
  rw [ofMode, htiming, Option.getD_some, htable]
  exact List.mem_append_right _ List.mem_cons_self

theorem ofMode_congr_hertz {width height hertz other : UInt32}
    (hrate : Mode.effectiveHertz ⟨width, height, hertz⟩ =
      Mode.effectiveHertz ⟨width, height, other⟩) :
    ofMode ⟨width, height, hertz⟩ = ofMode ⟨width, height, other⟩ := by
  simp only [ofMode, estimate, estimatedClock, estimatedBlank, linePeriod, hrate]

/-- Of the rate only the clock takes notice. -/
theorem ofMode_reclocked (width height hertz other : UInt32) :
    ofMode ⟨width, height, hertz⟩ =
      { ofMode ⟨width, height, other⟩ with
        pixelClock := (ofMode ⟨width, height, hertz⟩).pixelClock } := by
  by_cases hfixed : IsFixed width height
  · rw [ofMode_of_isFixed hfixed hertz other]
  · rw [@ofMode_of_not_isFixed ⟨width, height, hertz⟩ hfixed,
      @ofMode_of_not_isFixed ⟨width, height, other⟩ hfixed]
    rfl

end Timing

namespace DetailedTiming

/-! ## The sync pulse -/

/-- Sync pulses that start a porch after the picture and end before the blanking does. -/
structure SyncInside (timing : DetailedTiming) : Prop where
  horizontal : timing.hFront.toNat + timing.hSync.toNat ≤ timing.hBlank.toNat
  vertical : timing.vFront.toNat + timing.vSync.toNat ≤ timing.vBlank.toNat

theorem quarter_mod (length : Nat) : length / 4 % 1024 = length % 4096 / 4 := by
  omega

/-- The pulses of an estimated timing, cut to their fields: porch and sync are still a quarter
of the blanking each. -/
theorem syncInside_of_not_isFixed {mode : Mode}
    (hfixed : ¬Timing.IsFixed mode.width mode.height) : (ofMode mode).narrowed.SyncInside := by
  have htiming : Timing.ofMode mode = Timing.estimate mode := Timing.ofMode_of_not_isFixed hfixed
  -- porch and pulse are cut to a quarter of what the cut blanking is
  have hquarter : (Timing.estimatedBlank mode / 4 % 1024).toNat =
      (Timing.estimatedBlank mode % 4096).toNat / 4 :=
    calc (Timing.estimatedBlank mode / 4 % 1024).toNat
        = (Timing.estimatedBlank mode).toNat / 4 % 1024 := by
          rw [UInt32.toNat_mod, UInt32.toNat_div]
          rfl
      _ = (Timing.estimatedBlank mode).toNat % 4096 / 4 := quarter_mod _
      _ = (Timing.estimatedBlank mode % 4096).toNat / 4 := by
          rw [UInt32.toNat_mod]
          rfl
  constructor
  · show ((Timing.ofMode mode).hFront % 1024).toNat + ((Timing.ofMode mode).hSync % 1024).toNat ≤
      ((Timing.ofMode mode).hBlank % 4096).toNat
    rw [htiming]
    show (Timing.estimatedBlank mode / 4 % 1024).toNat +
      (Timing.estimatedBlank mode / 4 % 1024).toNat ≤ (Timing.estimatedBlank mode % 4096).toNat
    rw [hquarter]
    omega
  · show ((Timing.ofMode mode).vFront % 64).toNat + ((Timing.ofMode mode).vSync % 64).toNat ≤
      ((Timing.ofMode mode).vBlank % 4096).toNat
    rw [htiming]
    show ((3 : UInt32) % 64).toNat + ((5 : UInt32) % 64).toNat ≤ ((45 : UInt32) % 4096).toNat
    decide

/-- The table was made with this in mind. -/
theorem syncInside_of_isFixed {mode : Mode} (hfixed : Timing.IsFixed mode.width mode.height) :
    (ofMode mode).narrowed.SyncInside := by
  have htable : ∀ entry ∈ Timing.fixed,
      (entry.2.hFront % 1024).toNat + (entry.2.hSync % 1024).toNat ≤
          (entry.2.hBlank % 4096).toNat ∧
        (entry.2.vFront % 64).toNat + (entry.2.vSync % 64).toNat ≤
          (entry.2.vBlank % 4096).toNat := by
    decide
  obtain ⟨hhorizontal, hvertical⟩ := htable _ (Timing.ofMode_mem_fixed hfixed)
  exact ⟨hhorizontal, hvertical⟩

/-- Whatever mode an EDID is made for, a host can read its preferred timing, and both sync
pulses lie inside the blanking that it states: porch and pulse together are no longer. -/
theorem sync_inside_blanking (mode : Mode) :
    ∃ read, decode? (Edid.field 54 18 (Edid.ofMode mode).bytes) = some read ∧
      read.hFront.toNat + read.hSync.toNat ≤ read.hBlank.toNat ∧
      read.vFront.toNat + read.vSync.toNat ≤ read.vBlank.toNat := by
  refine ⟨(ofMode mode).narrowed, ?_, ?_⟩
  · rw [Edid.field_timing, decode?_encode]
  · have hinside : (ofMode mode).narrowed.SyncInside := by
      by_cases hfixed : Timing.IsFixed mode.width mode.height
      · exact syncInside_of_isFixed hfixed
      · exact syncInside_of_not_isFixed hfixed
    exact ⟨hinside.horizontal, hinside.vertical⟩

end DetailedTiming

end VirtualMonitor
