import VirtualMonitor.Proofs.Manager.Passthrough
import VirtualMonitor.Proofs.Text.Utf8
import VirtualMonitor.Proofs.Text.Word

/-!
# What shows that a kernel module is loaded

A module is loaded if its directory exists, or if a listing names it (`Lists`): the listing is
text from its first byte to its last, and the whole first word of one of its lines is the name
of the module.

* `isLoaded_iff`: `isLoaded` finds the module exactly on this evidence.
* `hardwareEnabled_openDriver_iff`: a driver that was not ready is opened with real monitors
  exactly if there is a driver and its module shows.
* `hardware_enabled_on_evidence`: both, with what is no evidence.
-/

namespace VirtualMonitor

/-! ## Evidence -/

/-- What a path holds is read if it is text, all of it. -/
theorem Files.readText?_eq_some_iff {files : Files} {path text : String} :
    files.readText? path = some text ↔ files.find? path = some (.file (Text.utf8 text)) := by
  unfold Files.readText?
  split
  next contents hfind =>
    rw [hfind, Text.ofUtf8?_eq_some_iff, Option.some_inj, FileTree.file.injEq]
  next hfind =>
    constructor
    · nofun
    · intro htext
      exact absurd htext (hfind _)

namespace KernelModule

/-- The listing at a path is text that has a line whose first word is `name`. -/
def Lists (files : Files) (listingPath name : String) : Prop :=
  ∃ text line, files.find? listingPath = some (.file (Text.utf8 text)) ∧
    Text.IsLine text.toList line ∧ Text.IsFirstWord line name.toList

/-- There is evidence that a module is loaded: its directory, or the listing. -/
def Evident (files : Files) (name listingPath systemPath : String) : Prop :=
  files.pathExists systemPath = true ∨ Lists files listingPath name

variable {files : Files} {name listingPath systemPath : String}

theorem isListed_iff {listing : String} :
    isListed name listing = true ↔
      ∃ line, Text.IsLine listing.toList line ∧ Text.IsFirstWord line name.toList := by
  simp only [isListed, List.any_eq_true, beq_iff_eq, Text.mem_lines_iff,
    Text.firstWord?_eq_some_iff]

theorem isLoaded_iff :
    isLoaded files name listingPath systemPath = true ↔
      Evident files name listingPath systemPath := by
  have hlists : (files.readText? listingPath).any (isListed name) = true ↔
      Lists files listingPath name := by
    simp only [Option.any_eq_true, Files.readText?_eq_some_iff, isListed_iff, Lists,
      ← exists_and_left]
  rw [isLoaded, Bool.or_eq_true, hlists, Evident, or_comm]

/-- A module that the listing does not name is loaded only if its directory exists. -/
theorem isLoaded_of_not_lists (hlists : ¬Lists files listingPath name) :
    isLoaded files name listingPath systemPath = files.pathExists systemPath := by
  rw [Bool.eq_iff_iff, isLoaded_iff, Evident, or_iff_left hlists]

/-! ## What is no evidence -/

/-- A name in a listing is a word: it is not empty, and it has no blank. -/
theorem Lists.ne_nil_and_not_isBlank (hlists : Lists files listingPath name) :
    name.toList ≠ [] ∧ ∀ character ∈ name.toList, Text.isBlank character = false := by
  obtain ⟨_, _, -, -, _, _, -, -, hne, hletters, -⟩ := hlists
  exact ⟨hne, hletters⟩

/-- Other first words say nothing of a module, whatever the rest of their lines is. -/
theorem not_lists_of_ne {text : String}
    (hfind : files.find? listingPath = some (.file (Text.utf8 text)))
    (hothers : ∀ line word, Text.IsLine text.toList line → Text.IsFirstWord line word →
      word ≠ name.toList) : ¬Lists files listingPath name := by
  rintro ⟨other, line, hother, hline, hword⟩
  rw [hfind, Option.some_inj, FileTree.file.injEq] at hother
  obtain rfl := Text.utf8_injective hother
  exact hothers line _ hline hword rfl

theorem not_lists_of_not_utf8 {contents : List UInt8}
    (hfind : files.find? listingPath = some (.file contents))
    (hbytes : ∀ text, contents ≠ Text.utf8 text) : ¬Lists files listingPath name := by
  rintro ⟨text, line, htext, -, -⟩
  rw [hfind, Option.some_inj, FileTree.file.injEq] at htext
  exact hbytes text htext

end KernelModule

/-! ## Opening the driver -/

theorem Host.files_probe (candidates : List String) (host : Host) :
    (host.probe candidates).2.files = host.files := by
  unfold Host.probe
  split
  · rfl
  · rfl
  · split <;> rfl

/-- Real monitors need a driver and evidence of its module. -/
theorem Manager.hardwareEnabled_openDriver_iff {manager : Manager} (hstate : manager.state ≠ .ready) :
    manager.openDriver.hardwareEnabled = true ↔
      (manager.host.probe manager.config.libraryCandidates).1 = true ∧
        KernelModule.Evident manager.host.files manager.config.moduleName
          manager.config.moduleListing manager.config.moduleDirectory := by
  have henabled : manager.openDriver.hardwareEnabled = manager.findsDriver := by
    rw [Manager.openDriver_of_state_ne hstate, Manager.hardwareEnabled]
    cases manager.findsDriver <;> rfl
  rw [henabled, Manager.findsDriver, Bool.and_eq_true, Host.moduleLoaded, Host.files_probe,
    KernelModule.isLoaded_iff]

namespace KernelModule

/-- A module is loaded exactly if its directory exists or the listing names it.

The listing says nothing if all first words are others, also when the name starts such a word
or stands further on in a line; if the name is empty or has a blank; if the bytes are no text;
and if a single byte that is not below `0x80` stands anywhere in a text.

A driver that is not ready becomes ready by opening it, and real monitors are enabled then
exactly if a driver is found and its module is evident. -/
theorem hardware_enabled_on_evidence (files : Files) (name listingPath systemPath : String) :
    (isLoaded files name listingPath systemPath = true ↔
      Evident files name listingPath systemPath) ∧
    (∀ text, files.find? listingPath = some (.file (Text.utf8 text)) →
      (∀ line word, Text.IsLine text.toList line → Text.IsFirstWord line word →
        word ≠ name.toList) →
      isLoaded files name listingPath systemPath = files.pathExists systemPath) ∧
    ((name.toList = [] ∨ ∃ character ∈ name.toList, Text.isBlank character = true) →
      isLoaded files name listingPath systemPath = files.pathExists systemPath) ∧
    (∀ contents, files.find? listingPath = some (.file contents) →
      (∀ text, contents ≠ Text.utf8 text) →
      isLoaded files name listingPath systemPath = files.pathExists systemPath) ∧
    (∀ (before after : String) (byte : UInt8), 0x80 ≤ byte.toNat →
      files.find? listingPath = some (.file (Text.utf8 before ++ byte :: Text.utf8 after)) →
      isLoaded files name listingPath systemPath = files.pathExists systemPath) ∧
    ∀ manager : Manager, manager.state ≠ .ready →
      manager.openDriver.state = .ready ∧
      (manager.openDriver.hardwareEnabled = true ↔
        (manager.host.probe manager.config.libraryCandidates).1 = true ∧
          Evident manager.host.files manager.config.moduleName manager.config.moduleListing
            manager.config.moduleDirectory) := by
  refine ⟨isLoaded_iff, ?_, ?_, ?_, ?_, ?_⟩
  · intro text hfind hothers
    exact isLoaded_of_not_lists (not_lists_of_ne hfind hothers)
  · -- a line's first word is never empty and has no blank in it
    intro hname
    apply isLoaded_of_not_lists
    intro hlists
    obtain ⟨hne, hletters⟩ := hlists.ne_nil_and_not_isBlank
    rcases hname with hnil | ⟨character, hmem, hblank⟩
    · exact hne hnil
    · rw [hletters character hmem] at hblank
      cases hblank
  · intro contents hfind hbytes
    exact isLoaded_of_not_lists (not_lists_of_not_utf8 hfind hbytes)
  · -- a byte from 0x80 on between two texts leaves no text at all
    intro before after byte hbyte hfind
    apply isLoaded_of_not_lists
    exact not_lists_of_not_utf8 hfind fun text =>
      (Text.utf8_ne_of_stray hbyte before after text).symm
  · intro manager hstate
    exact ⟨manager.state_openDriver, Manager.hardwareEnabled_openDriver_iff hstate⟩

/-- The name stands in a later column, as the start of a longer word, and behind a wide blank
on the last line, which nothing ends.  A part of a word is not listed, nor is the empty name;
with a stray byte in front of the last line nothing is. -/
theorem hardware_enabled_on_evidence_last_line :
    let text := "snd evdi 4096\r\n\n evdi_helper 8192\n\u2003evdi\u00a081920"
    let filesWith (contents : List UInt8) : Files :=
      ⟨fun path => if path = "/proc/modules" then some (.file contents) else none⟩
    let files := filesWith (Text.utf8 text)
    let spoiled := filesWith (Text.utf8 "snd evdi 4096\n" ++ 0xFF :: Text.utf8 "\nevdi 81920")
    let manager : Manager :=
      { Manager.new .standard ⟨files, .given, .fresh (.memory (.ofSlots [.available])), 0⟩ with
        state := .watchdogFailed }
    manager.state ≠ .ready ∧ manager.openDriver.state = .ready ∧
      manager.openDriver.hardwareEnabled = true ∧
      isLoaded files "evdi_help" "/proc/modules" "/sys/module/evdi" = false ∧
      isLoaded files "" "/proc/modules" "/sys/module/evdi" = false ∧
      isLoaded spoiled "evdi" "/proc/modules" "/sys/module/evdi" = false := by
  intro text filesWith files spoiled manager
  have hevident : Evident files "evdi" "/proc/modules" "/sys/module/evdi" :=
    .inr ⟨text, "\u2003evdi\u00a081920".toList, rfl, Text.mem_lines_iff.mp (by decide +kernel),
      Text.firstWord?_eq_some_iff.mp (by decide +kernel)⟩
  have hwords : ∀ line ∈ Text.lines text.toList,
      Text.firstWord? line ≠ some "evdi_help".toList := by decide +kernel
  obtain ⟨-, hothers, -, -, -, hopen⟩ :=
    hardware_enabled_on_evidence files "evdi_help" "/proc/modules" "/sys/module/evdi"
  obtain ⟨-, -, hempty, -, -, -⟩ :=
    hardware_enabled_on_evidence files "" "/proc/modules" "/sys/module/evdi"
  obtain ⟨-, -, -, -, hstray, -⟩ :=
    hardware_enabled_on_evidence spoiled "evdi" "/proc/modules" "/sys/module/evdi"
  obtain ⟨hready, henabled⟩ := hopen manager nofun
  refine ⟨nofun, hready, henabled.mpr ⟨rfl, hevident⟩, hothers text rfl ?_, hempty (.inl rfl),
    hstray "snd evdi 4096\n" "\nevdi 81920" 0xFF (by decide) rfl⟩
  rintro line _ hline hword rfl
  exact hwords line (Text.mem_lines_iff.mpr hline) (Text.firstWord?_eq_some_iff.mpr hword)

end KernelModule

end VirtualMonitor
