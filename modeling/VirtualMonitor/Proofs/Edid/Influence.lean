import VirtualMonitor.Proofs.Edid.TimingRule

/-!
# Which bytes of an EDID a request influences

Two EDIDs are compared place by place.  `AgreesOutside` lists the places where two rows of
bytes may differ, and the list of a concatenation is made of the lists of its parts, so the
layout of a block gives the places of the block.

```text
0 … 53     identification              the same for every mode
54, 55     clock of the timing         size and rate
56 … 71    the rest of the timing      size
72 … 125   descriptors                 the same for every mode
126        count of extensions         size
127        checksum                    whatever changed before
128 …      extension block             whether the picture is wide
```

* `requests_confined`: what two requests with nothing, with the size, or with the width in
  common must have in common in their EDIDs.
-/

namespace VirtualMonitor.Edid

/-! ## Agreement outside some places -/

/-- Two rows of one length that can differ at the given places only. -/
structure AgreesOutside (places : List Nat) (first second : List UInt8) : Prop where
  length : first.length = second.length
  agree : ∀ index, index ∉ places → first[index]? = second[index]?

namespace AgreesOutside

variable {places others : List Nat} {first second third fourth : List UInt8}

theorem refl (bytes : List UInt8) : AgreesOutside [] bytes bytes := ⟨rfl, fun _ _ => rfl⟩

/-- Rows of one length differ at their own places only. -/
theorem anywhere (count : Nat) (hfirst : first.length = count) (hsecond : second.length = count) :
    AgreesOutside (List.range count) first second := by
  refine ⟨hfirst.trans hsecond.symm, fun index hindex => ?_⟩
  have hout : count ≤ index := Nat.le_of_not_lt fun hlt => hindex (List.mem_range.mpr hlt)
  rw [List.getElem?_eq_none (hfirst ▸ hout), List.getElem?_eq_none (hsecond ▸ hout)]

/-- The places of the second part are counted from its start. -/
theorem append (hfirst : AgreesOutside places first second)
    (hthird : AgreesOutside others third fourth) :
    AgreesOutside (places ++ others.map (first.length + ·)) (first ++ third)
      (second ++ fourth) := by
  refine ⟨by rw [List.length_append, List.length_append, hfirst.length, hthird.length], ?_⟩
  intro index hindex
  rw [List.mem_append, not_or] at hindex
  obtain ⟨hplace, hother⟩ := hindex
  by_cases hlt : index < first.length
  · rw [List.getElem?_append_left hlt, List.getElem?_append_left (hfirst.length ▸ hlt)]
    exact hfirst.agree index hplace
  · have hge : first.length ≤ index := Nat.le_of_not_lt hlt
    rw [List.getElem?_append_right hge, List.getElem?_append_right (hfirst.length ▸ hge),
      ← hfirst.length]
    apply hthird.agree
    intro hshifted
    exact hother (List.mem_map.mpr ⟨_, hshifted, by omega⟩)

theorem mono (hagrees : AgreesOutside places first second) (hsubset : places ⊆ others) :
    AgreesOutside others first second :=
  ⟨hagrees.length, fun index hindex => hagrees.agree index fun hplace => hindex (hsubset hplace)⟩

/-- A change in the body of a block also changes its checksum. -/
theorem sealBlock (hagrees : AgreesOutside places first second) :
    AgreesOutside (places ++ [first.length]) (sealBlock first) (sealBlock second) := by
  have hsum : AgreesOutside [0] [0 - total first] [0 - total second] := anywhere 1 rfl rfl
  have hsealed := hagrees.append hsum
  rwa [List.map_singleton, Nat.add_zero] at hsealed

end AgreesOutside

/-! ## The parts of a base block -/

/-- The body of a base block, as far as the sizes of its parts go. -/
theorem agreesOutside_baseBlock {places counts : List Nat} {first second : Mode}
    {extensions others : UInt8}
    (htiming : AgreesOutside places (DetailedTiming.ofMode first).encode
      (DetailedTiming.ofMode second).encode)
    (hcount : AgreesOutside counts [extensions] [others]) :
    AgreesOutside (places.map (54 + ·) ++ counts.map (126 + ·) ++ [127])
      (baseBlock first extensions) (baseBlock second others) := by
  have hbody := (((AgreesOutside.refl preamble).append htiming).append
    (AgreesOutside.refl (nameDescriptor ++ rangeDescriptor ++ fillerDescriptor))).append hcount
  have hsealed := hbody.sealBlock
  simp only [List.length_append, length_preamble, DetailedTiming.length_encode,
    length_nameDescriptor, length_rangeDescriptor, length_fillerDescriptor, List.nil_append,
    List.map_nil, List.append_nil, List.length_singleton] at hsealed
  exact hsealed

/-- Whatever two modes are, their base blocks agree outside the timing, the count of extensions
and the checksum. -/
theorem agreesOutside_baseBlock_of_any (first second : Mode) (extensions others : UInt8) :
    AgreesOutside (List.range' 54 18 ++ [126, 127]) (baseBlock first extensions)
      (baseBlock second others) := by
  have htiming : AgreesOutside (List.range 18) (DetailedTiming.ofMode first).encode
      (DetailedTiming.ofMode second).encode := AgreesOutside.anywhere 18 rfl rfl
  have hcount : AgreesOutside [0] [extensions] [others] := AgreesOutside.anywhere 1 rfl rfl
  exact (agreesOutside_baseBlock htiming hcount).mono (by decide)

/-! ## Two rates for one size -/

section Rates

variable (width height hertz other : UInt32)

/-- Two detailed timings that differ in their clocks. -/
theorem agreesOutside_encode (timing : DetailedTiming) (clock : UInt32) :
    AgreesOutside [0, 1] { timing with pixelClock := clock }.encode timing.encode := by
  have hclock : AgreesOutside [0, 1] [clock.toUInt8, (clock >>> 8).toUInt8]
      [timing.pixelClock.toUInt8, (timing.pixelClock >>> 8).toUInt8] :=
    AgreesOutside.anywhere 2 rfl rfl
  exact hclock.append (AgreesOutside.refl (timing.encode.drop 2))

/-- Of the rate only the clock takes notice. -/
theorem reclocked : DetailedTiming.ofMode ⟨width, height, hertz⟩ =
    { DetailedTiming.ofMode ⟨width, height, other⟩ with
      pixelClock := (DetailedTiming.ofMode ⟨width, height, hertz⟩).pixelClock } := by
  unfold DetailedTiming.ofMode
  rw [Timing.ofMode_reclocked width height hertz other]

theorem agreesOutside_encode_of_size :
    AgreesOutside [0, 1] (DetailedTiming.ofMode ⟨width, height, hertz⟩).encode
      (DetailedTiming.ofMode ⟨width, height, other⟩).encode := by
  rw [reclocked width height hertz other]
  exact agreesOutside_encode _ _

/-- The timing of a mode is all that its rate changes. -/
theorem ofMode_congr {width height hertz other : UInt32}
    (htiming : Timing.ofMode ⟨width, height, hertz⟩ = Timing.ofMode ⟨width, height, other⟩) :
    ofMode ⟨width, height, hertz⟩ = ofMode ⟨width, height, other⟩ := by
  have hstated : DetailedTiming.ofMode ⟨width, height, hertz⟩ =
      DetailedTiming.ofMode ⟨width, height, other⟩ := by
    simp only [DetailedTiming.ofMode, htiming]
  simp only [ofMode, baseBlock, hstated]

theorem agreesOutside_bytes_of_size :
    AgreesOutside [54, 55, 127] (ofMode ⟨width, height, hertz⟩).bytes
      (ofMode ⟨width, height, other⟩).bytes := by
  have hextension : (ofMode ⟨width, height, hertz⟩).extension? =
      (ofMode ⟨width, height, other⟩).extension? := by
    unfold ofMode
    split <;> rfl
  rw [bytes_ofMode, bytes_ofMode, hextension]
  have hbase := agreesOutside_baseBlock
    (agreesOutside_encode_of_size width height hertz other)
    (AgreesOutside.refl [extensionCount width height])
  exact (hbase.append (AgreesOutside.refl _)).mono (by simp)

end Rates

/-! ## The checksum -/

/-- The byte at a place of the EDID of a mode. -/
def byteOf (mode : Mode) (place : Nat) : UInt8 := (ofMode mode).bytes.getD place 0

theorem byteOf_clock (mode : Mode) :
    byteOf mode 54 = (DetailedTiming.ofMode mode).pixelClock.toUInt8 ∧
      byteOf mode 55 = ((DetailedTiming.ofMode mode).pixelClock >>> 8).toUInt8 := by
  have htiming (index : Nat) (hindex : index < 18) :
      byteOf mode (54 + index) = (DetailedTiming.ofMode mode).encode.getD index 0 := by
    rw [byteOf, List.getD_eq_getElem?_getD, List.getD_eq_getElem?_getD,
      getElem?_of_field (field_timing mode) index hindex]
  exact ⟨htiming 0 (by decide), htiming 1 (by decide)⟩

/-- Everything in the body of a base block but the clock of its timing. -/
def steady (width height : UInt32) (timing : DetailedTiming) : UInt8 :=
  total preamble + total (timing.encode.drop 2) +
    total (nameDescriptor ++ rangeDescriptor ++ fillerDescriptor) + extensionCount width height

theorem steady_reclocked (width height clock : UInt32) (timing : DetailedTiming) :
    steady width height { timing with pixelClock := clock } = steady width height timing := rfl

theorem byteOf_checksum (mode : Mode) :
    byteOf mode 127 = 0 - (byteOf mode 54 + byteOf mode 55 +
      steady mode.width mode.height (DetailedTiming.ofMode mode)) := by
  obtain ⟨hlow, hhigh⟩ := byteOf_clock mode
  let body := preamble ++ (DetailedTiming.ofMode mode).encode ++
    (nameDescriptor ++ rangeDescriptor ++ fillerDescriptor) ++
      [extensionCount mode.width mode.height]
  have hlength : body.length = 127 := by simp [body, DetailedTiming.length]
  have hlast : byteOf mode 127 = 0 - total body := by
    rw [byteOf, bytes_ofMode, baseBlock]
    show ((body ++ [0 - total body]) ++ _).getD 127 0 = _
    rw [List.getD_eq_getElem?_getD, List.append_assoc,
      List.getElem?_append_right (by rw [hlength]), hlength]
    rfl
  -- the clock is the first two bytes of the timing, which are taken out of the sum
  have hclock : total (DetailedTiming.ofMode mode).encode =
      byteOf mode 54 + (byteOf mode 55 + total ((DetailedTiming.ofMode mode).encode.drop 2)) := by
    rw [hlow, hhigh]
    rfl
  rw [hlast, total_append, total_append, total_append, hclock, steady, total_cons, total_nil]
  grind

/-- Two EDIDs for one size: the checksum takes back what the clock brings in. -/
theorem byteOf_checksum_of_size (width height hertz other : UInt32) :
    byteOf ⟨width, height, other⟩ 127 - byteOf ⟨width, height, hertz⟩ 127 =
      -((byteOf ⟨width, height, other⟩ 54 - byteOf ⟨width, height, hertz⟩ 54) +
        (byteOf ⟨width, height, other⟩ 55 - byteOf ⟨width, height, hertz⟩ 55)) := by
  have hsteady : steady width height (DetailedTiming.ofMode ⟨width, height, hertz⟩) =
      steady width height (DetailedTiming.ofMode ⟨width, height, other⟩) := by
    rw [reclocked width height hertz other, steady_reclocked]
  rw [byteOf_checksum ⟨width, height, hertz⟩, byteOf_checksum ⟨width, height, other⟩, hsteady]
  grind

/-! ## Extension blocks -/

theorem extensionBlock_congr {width other : UInt32} (hwide : 3840 ≤ width ↔ 3840 ≤ other) :
    extensionBlock width = extensionBlock other := by
  simp only [extensionBlock, extensionTiming, hwide]

theorem hasExtension_iff (mode : Mode) :
    (ofMode mode).hasExtension = true ↔ NeedsExtension mode.width mode.height := by
  unfold ofMode
  split
  next hneeds => simp [hasExtension, hneeds]
  next hneeds => simp [hasExtension, hneeds]

/-! ## Two requests -/

/-- What two EDIDs have in common, whatever the requests are.

* Outside the preferred timing, the count of extensions and the checksum the base blocks are
  the same.
* For one size, the EDIDs have one length and differ at most in the two bytes of the clock and
  in the checksum, which takes back what the clock brings in.  They do not differ at all for
  the four sizes with a fixed timing, nor at rates of 0 and 60.
* Two extension blocks are the same if both pictures are wide or neither is. -/
theorem requests_confined (first second : Mode) :
    (∀ index < 128, index ∉ List.range' 54 18 → index ≠ 126 → index ≠ 127 →
      (ofMode first).bytes[index]? = (ofMode second).bytes[index]?) ∧
    (first.width = second.width → first.height = second.height →
      (ofMode first).bytes.length = (ofMode second).bytes.length ∧
      (∀ index, index ∉ [54, 55, 127] →
        (ofMode first).bytes[index]? = (ofMode second).bytes[index]?) ∧
      byteOf second 127 - byteOf first 127 =
        -((byteOf second 54 - byteOf first 54) + (byteOf second 55 - byteOf first 55)) ∧
      ((first.width, first.height) ∈ [((3840 : UInt32), (2160 : UInt32)), (2560, 1440),
          (1920, 1080), (1280, 720)] →
        (ofMode first).bytes = (ofMode second).bytes) ∧
      (first.hertz = 0 → second.hertz = 60 → (ofMode first).bytes = (ofMode second).bytes)) ∧
    ((ofMode first).hasExtension = true → (ofMode second).hasExtension = true →
      (3840 ≤ first.width ↔ 3840 ≤ second.width) →
      field 128 128 (ofMode first).bytes = field 128 128 (ofMode second).bytes) := by
  refine ⟨?_, ?_, ?_⟩
  · intro index hbase htiming hcount hsum
    -- the place lies in the base block, so only that block has to be compared
    have hlength (mode : Mode) : index < (baseBlock mode
        (extensionCount mode.width mode.height)).length := by
      rw [length_baseBlock]
      exact hbase
    rw [bytes_ofMode, bytes_ofMode, List.getElem?_append_left (hlength first),
      List.getElem?_append_left (hlength second)]
    apply (agreesOutside_baseBlock_of_any first second _ _).agree
    intro hplace
    rcases List.mem_append.mp hplace with hplace | hplace
    · exact htiming hplace
    · rcases List.mem_pair.mp hplace with rfl | rfl
      · exact hcount rfl
      · exact hsum rfl
  · obtain ⟨width, height, hertz⟩ := first
    obtain ⟨otherWidth, otherHeight, other⟩ := second
    rintro (rfl : width = otherWidth) (rfl : height = otherHeight)
    -- of one size, the two requests differ in the clock and what is summed over it
    have hagrees := agreesOutside_bytes_of_size width height hertz other
    refine ⟨hagrees.length, hagrees.agree, byteOf_checksum_of_size width height hertz other,
      ?_, ?_⟩
    · intro hsize
      have hfixed := (Timing.isFixed_iff width height).mpr hsize
      rw [ofMode_congr (Timing.ofMode_of_isFixed hfixed hertz other)]
    · rintro (rfl : hertz = 0) (rfl : other = 60)
      -- no refresh rate and 60 Hz are one rate to the timing
      have hrate : Mode.effectiveHertz ⟨width, height, 0⟩ =
          Mode.effectiveHertz ⟨width, height, 60⟩ := rfl
      rw [ofMode_congr (Timing.ofMode_congr_hertz hrate)]
  · intro hfirst hsecond hwide
    have hfield (mode : Mode) (hextension : (ofMode mode).hasExtension = true) :
        field 128 128 (ofMode mode).bytes = extensionBlock mode.width :=
      field_extension ((hasExtension_iff mode).mp hextension)
    rw [hfield first hfirst, hfield second hsecond, extensionBlock_congr hwide]

/-- A size without a fixed timing at two rates, and two pictures that need an extension block
but are not wide. -/
theorem requests_confined_rates :
    (ofMode ⟨800, 600, 60⟩).bytes[53]? = (ofMode ⟨640, 480, 75⟩).bytes[53]? ∧
      (ofMode ⟨800, 600, 60⟩).bytes[56]? = (ofMode ⟨800, 600, 75⟩).bytes[56]? ∧
      byteOf ⟨800, 600, 75⟩ 127 - byteOf ⟨800, 600, 60⟩ 127 =
        -((byteOf ⟨800, 600, 75⟩ 54 - byteOf ⟨800, 600, 60⟩ 54) +
          (byteOf ⟨800, 600, 75⟩ 55 - byteOf ⟨800, 600, 60⟩ 55)) ∧
      (ofMode ⟨2560, 1440, 0⟩).hasExtension = true ∧
      (ofMode ⟨1920, 1200, 75⟩).hasExtension = true ∧
      field 128 128 (ofMode ⟨2560, 1440, 0⟩).bytes =
        field 128 128 (ofMode ⟨1920, 1200, 75⟩).bytes := by
  have hextended (mode : Mode) (hneeds : NeedsExtension mode.width mode.height) :
      (ofMode mode).hasExtension = true := (hasExtension_iff mode).mpr hneeds
  obtain ⟨hbase, -, -⟩ := requests_confined ⟨800, 600, 60⟩ ⟨640, 480, 75⟩
  obtain ⟨-, hrates, -⟩ := requests_confined ⟨800, 600, 60⟩ ⟨800, 600, 75⟩
  obtain ⟨-, -, hblocks⟩ := requests_confined ⟨2560, 1440, 0⟩ ⟨1920, 1200, 75⟩
  obtain ⟨-, hagree, hsum, -, -⟩ := hrates rfl rfl
  have hfirst := hextended ⟨2560, 1440, 0⟩ (by decide)
  have hsecond := hextended ⟨1920, 1200, 75⟩ (by decide)
  exact ⟨hbase 53 (by decide) (by decide) (by decide) (by decide), hagree 56 (by decide), hsum,
    hfirst, hsecond, hblocks hfirst hsecond (by decide)⟩

end VirtualMonitor.Edid
