import Mathlib.Data.List.TakeWhile
import VirtualMonitor.Text.Word

/-!
# The lines of a text and their first words

`IsLine` says how a line can end: at a line feed, at a carriage return and a line feed, or
with the text.  `IsFirstWord` says what is skipped and where a word stops.  Neither reads a
text from left to right, as `lines` and `firstWord?` do.

* `mem_lines_iff`: `lines` gives the lines of a text.
* `firstWord?_eq_some_iff`: `firstWord?` gives the first word of a line, so that a line has
  one at most (`IsFirstWord.unique`).
-/

namespace VirtualMonitor.Text

/-! ## Lines -/

/-- A line of a text.  A carriage return belongs to the end of its line only if a line feed
follows it. -/
inductive IsLine : List Char → List Char → Prop where
  | last {line : List Char} : '\n' ∉ line → line ≠ [] → IsLine line line
  | feed {line rest : List Char} :
      '\n' ∉ line → line.getLast? ≠ some '\r' → IsLine (line ++ '\n' :: rest) line
  | returnFeed {line rest : List Char} : '\n' ∉ line → IsLine (line ++ '\r' :: '\n' :: rest) line
  | later {before rest line : List Char} :
      '\n' ∉ before → IsLine rest line → IsLine (before ++ '\n' :: rest) line

variable {piece rest text line word : List Char}

/-- A text is cut at its first line feed in one way. -/
private theorem cut_unique {other others : List Char} (hpiece : '\n' ∉ piece) (hother : '\n' ∉ other)
    (heq : piece ++ '\n' :: rest = other ++ '\n' :: others) : piece = other ∧ rest = others := by
  have hpieces := congrArg (List.splitOn '\n') heq
  rw [List.splitOn_append_cons_self, List.splitOn_append_cons_self,
    List.splitOn_eq_singleton hpiece, List.splitOn_eq_singleton hother] at hpieces
  obtain rfl : piece = other := List.head_eq_of_cons_eq hpieces
  exact ⟨rfl, List.tail_eq_of_cons_eq (List.append_cancel_left heq)⟩

private theorem dropReturn_concat (line : List Char) : dropReturn (line ++ ['\r']) = line := by
  rw [dropReturn, if_pos List.getLast?_concat, List.dropLast_concat]

theorem lines_of_notMem (htext : '\n' ∉ text) (hne : text ≠ []) : lines text = [text] := by
  simp [lines, List.splitOn_eq_singleton htext, hne]

theorem lines_append (hpiece : '\n' ∉ piece) (rest : List Char) :
    lines (piece ++ '\n' :: rest) = dropReturn piece :: lines rest := by
  have hne := List.splitOn_ne_nil '\n' rest
  simp only [lines, List.splitOn_append_cons_self, List.splitOn_eq_singleton hpiece,
    List.cons_append, List.nil_append, List.dropLast_cons_of_ne_nil hne,
    List.getLast?_cons_of_ne_nil hne, List.map_cons]

/-- The lines of a text are the one before its first line feed and those of what follows. -/
theorem isLine_append_iff (hpiece : '\n' ∉ piece) :
    IsLine (piece ++ '\n' :: rest) line ↔ line = dropReturn piece ∨ IsLine rest line := by
  constructor
  · generalize htext : piece ++ '\n' :: rest = text
    intro hline
    cases hline with
    | last hnone => exact absurd (htext ▸ by simp) hnone
    | feed hnone hlast =>
        obtain ⟨rfl, -⟩ := cut_unique hpiece hnone htext
        exact .inl (if_neg hlast).symm
    -- the piece ends in the carriage return, which is dropped
    | @returnFeed line others hnone =>
        have hcut : piece ++ '\n' :: rest = (line ++ ['\r']) ++ '\n' :: others := by
          rw [htext, List.append_assoc]
          rfl
        obtain ⟨rfl, -⟩ := cut_unique hpiece (by simpa using hnone) hcut
        exact .inl (dropReturn_concat line).symm
    | later hnone hline =>
        obtain ⟨-, rfl⟩ := cut_unique hpiece hnone htext
        exact .inr hline
  · rintro (rfl | hline)
    · by_cases hlast : piece.getLast? = some '\r'
      · obtain ⟨front, rfl⟩ := List.getLast?_eq_some_iff.mp hlast
        rw [dropReturn_concat, List.append_assoc]
        exact .returnFeed fun hfeed => hpiece (List.mem_append_left _ hfeed)
      · rw [dropReturn, if_neg hlast]
        exact .feed hpiece hlast
    · exact .later hpiece hline

theorem mem_lines_iff {text line : List Char} : line ∈ lines text ↔ IsLine text line := by
  by_cases hfeed : '\n' ∈ text
  · -- take the first line off and go on with the rest, which is shorter
    obtain ⟨piece, rest, rfl, hpiece⟩ := List.eq_append_cons_of_mem hfeed
    rw [lines_append hpiece, isLine_append_iff hpiece, List.mem_cons, mem_lines_iff]
  · constructor
    · intro hline
      have hne : text ≠ [] := by
        rintro rfl
        cases hline
      rw [lines_of_notMem hfeed hne, List.mem_singleton] at hline
      subst hline
      exact .last hfeed hne
    · intro hline
      cases hline with
      | last _ hne =>
          rw [lines_of_notMem hfeed hne]
          exact List.mem_singleton_self _
      | feed => simp at hfeed
      | returnFeed => simp at hfeed
      | later => simp at hfeed
termination_by text.length

/-! ## First words -/

/-- The first word of a line: blanks before it, if anything, and a blank or the end of the line
behind it. -/
def IsFirstWord (line word : List Char) : Prop :=
  ∃ blanks rest, line = blanks ++ word ++ rest ∧ (∀ character ∈ blanks, isBlank character = true) ∧
    word ≠ [] ∧ (∀ character ∈ word, isBlank character = false) ∧
    ∀ character ∈ rest.head?, isBlank character = true

theorem isFirstWord_of_firstWord? (hword : firstWord? line = some word) :
    IsFirstWord line word := by
  unfold firstWord? at hword
  dsimp only at hword
  split at hword
  next => cases hword
  next hne =>
    obtain rfl := Option.some.inj hword
    refine ⟨line.takeWhile isBlank,
      (line.dropWhile isBlank).dropWhile fun character => !isBlank character, ?_,
      fun character hblank => List.mem_takeWhile_imp hblank,
      fun hnil => hne (List.isEmpty_iff.mpr hnil), ?_, ?_⟩
    · rw [List.append_assoc, List.takeWhile_append_dropWhile, List.takeWhile_append_dropWhile]
    · intro character hcharacter
      simpa using List.mem_takeWhile_imp hcharacter
    · intro character hcharacter
      have hstop := List.head?_dropWhile_not (fun character => !isBlank character)
        (line.dropWhile isBlank)
      rw [Option.mem_def.mp hcharacter] at hstop
      simpa using hstop

theorem firstWord?_of_isFirstWord (hword : IsFirstWord line word) : firstWord? line = some word := by
  obtain ⟨blanks, rest, rfl, hblanks, hne, hletters, hrest⟩ := hword
  -- the word begins where the blanks end, and ends where the next blank is
  have hstart : (word ++ rest).dropWhile isBlank = word ++ rest := by
    cases word with
    | nil => exact absurd rfl hne
    | cons letter letters =>
        rw [List.cons_append, List.dropWhile_cons, hletters letter List.mem_cons_self]
        rfl
  have hstop : rest.takeWhile (fun character => !isBlank character) = [] := by
    cases rest with
    | nil => rfl
    | cons blank others =>
        rw [List.takeWhile_cons, hrest blank rfl]
        rfl
  have hread : (word ++ rest).takeWhile (fun character => !isBlank character) = word := by
    rw [List.takeWhile_append_of_pos fun character hcharacter => by simp [hletters _ hcharacter],
      hstop, List.append_nil]
  unfold firstWord?
  dsimp only
  rw [List.append_assoc, List.dropWhile_append_of_pos hblanks, hstart, hread,
    if_neg (by simpa using hne)]

theorem firstWord?_eq_some_iff : firstWord? line = some word ↔ IsFirstWord line word :=
  ⟨isFirstWord_of_firstWord?, firstWord?_of_isFirstWord⟩

theorem IsFirstWord.unique {other : List Char} (hword : IsFirstWord line word)
    (hother : IsFirstWord line other) : word = other :=
  Option.some.inj ((firstWord?_of_isFirstWord hword).symm.trans (firstWord?_of_isFirstWord hother))

end VirtualMonitor.Text
