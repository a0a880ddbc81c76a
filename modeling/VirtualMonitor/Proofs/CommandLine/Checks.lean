import VirtualMonitor.CommandLine.Run

/-!
# The checks of a command line

Every check looks at its own part of a command line, whatever the other checks find:
the size in front of the first at sign, the rate behind it, the width in front of the
first cross of the size, the height behind it.  `checks` lists them in the order in
which they count.

* `parseMode_eq`: a text that passes the checks of a mode is read as the numbers in its
  parts, and any other is turned away by the first check that it fails;
* `parse_eq`: the same for a whole command line, with the command that it stands for.
-/

namespace VirtualMonitor.CommandLine

/-! ### The parts of a mode -/

def isCross (character : Char) : Bool := character == 'x' || character == 'X'

/-- What stands in front of the first at sign. -/
def sizePart (mode : String) : List Char :=
  mode.toList.takeWhile fun character => !(character == '@')

/-- What stands behind the first at sign, if there is one. -/
def ratePart? (mode : String) : Option (List Char) :=
  (mode.toList.dropWhile fun character => !(character == '@')).tail?

/-- What stands in front of the first cross of the size. -/
def widthPart (mode : String) : List Char :=
  (sizePart mode).takeWhile fun character => !isCross character

/-- What stands behind the first cross of the size. -/
def heightPart (mode : String) : List Char :=
  ((sizePart mode).dropWhile fun character => !isCross character).tail

def number (text : List Char) : UInt32 :=
  UInt32.ofNat ((Text.readNumeral (UInt32.size - 1) text).toOption.getD 0)

def hertz (mode : String) : UInt32 := (ratePart? mode).elim defaultHertz number

/-! ### The checks -/

/-- The failure of a text that is no numeral, or stands for a number above the bound. -/
def numeralFault? (bound : Nat) (failure : Text.NumeralError → Failure) (text : List Char) :
    Option Failure :=
  match Text.readNumeral bound text with
  | .ok _ => none
  | .error cause => some (failure cause)

def refreshFault? (mode : String) : Option Failure :=
  (ratePart? mode).bind fun rate =>
    numeralFault? (UInt32.size - 1) (.badRefresh (String.ofList rate)) rate

def shapeFault? (mode : String) : Option Failure :=
  if (sizePart mode).any isCross then none else some (.badMode mode)

def widthFault? (mode : String) : Option Failure :=
  numeralFault? (UInt32.size - 1) (.badWidth (String.ofList (widthPart mode))) (widthPart mode)

def heightFault? (mode : String) : Option Failure :=
  numeralFault? (UInt32.size - 1) (.badHeight (String.ofList (heightPart mode))) (heightPart mode)

/-- A rate is too large when a thousand times it does not fit a word. -/
def rateFault? (mode : String) : Option Failure :=
  if (hertz mode).toNat ≤ 4294967 then none else some (.refreshTooLarge (hertz mode))

def durationFault? (seconds : String) : Option Failure :=
  numeralFault? (UInt64.size - 1) (.badDuration seconds) seconds.toList

def modeChecks (mode : String) : List (Option Failure) :=
  [refreshFault? mode, shapeFault? mode, widthFault? mode, heightFault? mode]

/-- What each check of a command line reports, in the order in which they count. -/
def checks : List String → List (Option Failure)
  | ["probe"] => []
  | ["edid", mode] => modeChecks mode
  | ["create", mode] => modeChecks mode ++ [rateFault? mode]
  | ["create", mode, seconds] => modeChecks mode ++ [rateFault? mode, durationFault? seconds]
  | _ => [some .usage]

/-- The report of the first check that is not passed. -/
def firstFault? (arguments : List String) : Option Failure := (checks arguments).findSome? id

/-! ### Verdicts -/

/-- A value, unless a check has failed. -/
def verdict {α : Type} (fault? : Option Failure) (value : α) : Except Failure α :=
  match fault? with
  | some fault => .error fault
  | none => .ok value

/-- What is done with a checked value is checked next. -/
theorem verdict_bind {α β : Type} {fault? further? : Option Failure} {value : α} {result : β}
    {next : α → Except Failure β} (hnext : next value = verdict further? result) :
    verdict fault? value >>= next = verdict (fault?.or further?) result := by
  cases fault? with
  | some fault => rfl
  | none => exact hnext

theorem eq_of_verdict_eq_ok {α : Type} {fault? : Option Failure} {value other : α}
    (hverdict : verdict fault? value = .ok other) : fault? = none ∧ value = other := by
  cases fault? with
  | some fault => cases hverdict
  | none => exact ⟨rfl, Except.ok.inj hverdict⟩

theorem findSome?_id_cons (fault? : Option Failure) (checks : List (Option Failure)) :
    (fault? :: checks).findSome? id = fault?.or (checks.findSome? id) := by
  cases fault? <;> rfl

/-! ### Reading a mode -/

/-- A text is cut at its first mark. -/
theorem cutAt?_eq (mark : Char → Bool) (text : List Char) :
    cutAt? mark text = (text.dropWhile fun character => !mark character).tail?.map fun behind =>
      (text.takeWhile fun character => !mark character, behind) := by
  induction text with
  | nil => rfl
  | cons character rest ih =>
      rw [cutAt?]
      cases hmark : mark character with
      | true => simp [hmark]
      | false => simp [hmark, ih, Function.comp_def]

/-- There is something to cut at if and only if there is a mark. -/
theorem tail?_dropWhile_isSome (mark : Char → Bool) (text : List Char) :
    (text.dropWhile fun character => !mark character).tail?.isSome = text.any mark := by
  induction text with
  | nil => rfl
  | cons character rest ih =>
      cases hmark : mark character with
      | true => simp [hmark]
      | false => simpa [hmark] using ih

theorem word?_eq (failure : Text.NumeralError → Failure) (text : List Char) :
    word? failure text =
      verdict (numeralFault? (UInt32.size - 1) failure text) (number text) := by
  unfold word? numeralFault? number
  cases Text.readNumeral (UInt32.size - 1) text <;> rfl

theorem splitRefresh_eq (mode : String) :
    splitRefresh mode.toList = verdict (refreshFault? mode) (sizePart mode, hertz mode) := by
  have hcut : cutAt? (· == '@') mode.toList =
      (ratePart? mode).map fun rate => (sizePart mode, rate) := cutAt?_eq _ _
  unfold splitRefresh refreshFault? hertz
  rw [hcut]
  cases hrate : ratePart? mode with
  | none =>
      -- without an at sign the whole text is the size
      have hdropped : (mode.toList.dropWhile fun character => !(character == '@')) = [] := by
        cases hbehind : mode.toList.dropWhile fun character => !(character == '@') with
        | nil => rfl
        | cons mark rate =>
            rw [ratePart?, hbehind] at hrate
            cases hrate
      have hsize : sizePart mode = mode.toList := by
        have hwhole := List.takeWhile_append_dropWhile (p := fun character => !(character == '@'))
          (l := mode.toList)
        rwa [hdropped, List.append_nil] at hwhole
      rw [hsize]
      rfl
  | some rate =>
      simp only [Option.map_some, Option.bind_some, Option.elim_some, word?_eq]
      cases numeralFault? (UInt32.size - 1) (.badRefresh (String.ofList rate)) rate <;> rfl

def modeOf (mode : String) : Mode := ⟨number (widthPart mode), number (heightPart mode), hertz mode⟩

/-- A mode is turned away by the first check that it fails. -/
theorem parseMode_eq (mode : String) :
    parseMode mode = verdict ((modeChecks mode).findSome? id) (modeOf mode) := by
  have hcut : cutAt? (fun character => character == 'x' || character == 'X') (sizePart mode) =
      ((sizePart mode).dropWhile fun character => !isCross character).tail?.map fun height =>
        (widthPart mode, height) := cutAt?_eq _ _
  have hany := tail?_dropWhile_isSome isCross (sizePart mode)
  unfold parseMode modeChecks
  rw [splitRefresh_eq, findSome?_id_cons]
  apply verdict_bind
  dsimp only
  rw [hcut, findSome?_id_cons]
  -- without a cross there is no size, and the checks behind the shape do not count
  cases hcross : (sizePart mode).dropWhile fun character => !isCross character with
  | nil =>
      have hshape : shapeFault? mode = some (.badMode mode) := by
        rw [shapeFault?, ← hany, hcross]
        rfl
      rw [hshape]
      rfl
  | cons cross height =>
      have hshape : shapeFault? mode = none := by
        rw [shapeFault?, ← hany, hcross]
        rfl
      have hheight : height = heightPart mode := by
        rw [heightPart, hcross]
        rfl
      subst hheight
      simp only [List.tail?, Option.map_some, hshape, Option.none_or]
      rw [word?_eq, findSome?_id_cons]
      apply verdict_bind
      rw [word?_eq, findSome?_id_cons]
      exact verdict_bind rfl

/-! ### Reading a command line -/

theorem millihertz?_isNone_hertz (mode : String) :
    (millihertz? (hertz mode)).isNone = (rateFault? mode).isSome := by
  have hfits : (hertz mode).toNat * 1000 < UInt32.size ↔ (hertz mode).toNat ≤ 4294967 := by
    have hsize : UInt32.size = 4294967296 := rfl
    omega
  simp only [millihertz?, rateFault?, hfits]
  split <;> rfl

def secondsOf (seconds : String) : UInt64 :=
  UInt64.ofNat ((Text.readNumeral (UInt64.size - 1) seconds.toList).toOption.getD 0)

theorem parseDuration_eq (seconds : String) :
    parseDuration seconds = verdict (durationFault? seconds) (secondsOf seconds) := by
  unfold parseDuration durationFault? numeralFault? secondsOf
  cases Text.readNumeral (UInt64.size - 1) seconds.toList <;> rfl

/-- Before a display is created, the size of the rate is checked after the mode, and the
duration, if one is given, after both. -/
theorem parseCreate_eq (mode : String) (seconds? : Option String) :
    parseCreate mode seconds? =
      verdict (((modeChecks mode).findSome? id).or
          ((rateFault? mode).or (seconds?.bind durationFault?)))
        (.create (modeOf mode) (seconds?.elim defaultSeconds secondsOf)) := by
  have hrate : (millihertz? (modeOf mode).hertz).isNone = (rateFault? mode).isSome :=
    millihertz?_isNone_hertz mode
  unfold parseCreate
  rw [parseMode_eq]
  apply verdict_bind
  rw [hrate]
  cases hfault : rateFault? mode with
  | some fault =>
      -- the one fault that this check reports names the rate of the mode
      have htoo : fault = .refreshTooLarge (modeOf mode).hertz := by
        unfold rateFault? at hfault
        split at hfault <;> cases hfault
        rfl
      rw [htoo]
      rfl
  | none =>
      cases seconds? with
      | none => rfl
      | some seconds =>
          simp only [parseDuration_eq, Option.bind_some, Option.none_or]
          cases durationFault? seconds <;> rfl

/-- A display is created only at a rate that fits. -/
theorem fits_of_parseCreate {mode : String} {seconds? : Option String} {wanted : Mode}
    {seconds : UInt64} (hcreate : parseCreate mode seconds? = .ok (.create wanted seconds)) :
    (millihertz? wanted.hertz).isSome = true := by
  rw [parseCreate_eq] at hcreate
  obtain ⟨hsound, hcommand⟩ := eq_of_verdict_eq_ok hcreate
  obtain ⟨-, hrest⟩ := Option.or_eq_none_iff.mp hsound
  have hfits := millihertz?_isNone_hertz mode
  rw [(Option.or_eq_none_iff.mp hrest).1, Option.isSome_none, Option.isNone_eq_false_iff] at hfits
  cases hcommand
  exact hfits

/-- A mode at a rate that fits is created for any good duration. -/
theorem parse_create {text : String} {mode : Mode} {seconds? : Option String}
    (hmode : parseMode text = .ok mode) (hfits : mode.hertz.toNat ≤ 4294967)
    (hseconds : ∀ seconds ∈ seconds?, durationFault? seconds = none) :
    parse ("create" :: text :: seconds?.toList) =
      .ok (.create mode (seconds?.elim defaultSeconds secondsOf)) := by
  rw [parseMode_eq] at hmode
  obtain ⟨hsound, rfl⟩ := eq_of_verdict_eq_ok hmode
  have hrate : rateFault? text = none := if_pos hfits
  have hduration : seconds?.bind durationFault? = none := by
    cases seconds? with
    | none => rfl
    | some seconds => exact hseconds seconds rfl
  have hparse : parse ("create" :: text :: seconds?.toList) = parseCreate text seconds? := by
    cases seconds? <;> rfl
  rw [hparse, parseCreate_eq, hsound, hrate, hduration]
  rfl

def commandOf : List String → Command
  | ["edid", mode] => .edid (modeOf mode)
  | ["create", mode] => .create (modeOf mode) defaultSeconds
  | ["create", mode, seconds] => .create (modeOf mode) (secondsOf seconds)
  | _ => .probe

/-- A command line is turned away by the first check that it fails. -/
theorem parse_eq (arguments : List String) :
    parse arguments = verdict (firstFault? arguments) (commandOf arguments) := by
  -- the shapes of a command line; for each the list of checks is that of its parser
  fun_cases parse arguments
  case case1 => rfl
  case case2 mode =>
    simp only [firstFault?, checks, parseMode_eq, commandOf]
    cases (modeChecks mode).findSome? id <;> rfl
  case case3 mode =>
    simp only [firstFault?, checks, parseCreate_eq, commandOf, List.findSome?_append,
      findSome?_id_cons]
    rfl
  case case4 mode seconds =>
    simp only [firstFault?, checks, parseCreate_eq, commandOf, List.findSome?_append,
      findSome?_id_cons, List.findSome?_nil, Option.or_none]
    rfl
  case case5 hprobe hedid hcreate hkeep =>
    rw [firstFault?, checks]
    · rfl
    · exact hprobe
    · exact hedid
    · exact hcreate
    · exact hkeep

end VirtualMonitor.CommandLine
