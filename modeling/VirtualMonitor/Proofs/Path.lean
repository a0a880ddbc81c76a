import VirtualMonitor.Path
import VirtualMonitor.Proofs.Text.Order
import VirtualMonitor.Proofs.Text.Utf8

/-!
# Paths into a directory

A path into a directory has the components of the directory, and then the name that was put
there (`components_joinBytes`), whatever the directory is.  The name must be a proper one:
without slashes, neither empty nor a dot, and not two dots.  The components of a path are bytes,
so this is said of rows of bytes; `joinBytes` is `join` for them (`utf8_join`).

* `finalName?_joinBytes`: the path ends in the name.
* `precedes_join_iff`: paths into one directory stand in the order of their names.  Paths are
  compared component by component (`Precedes`), so this is not the order of their texts.
-/

namespace VirtualMonitor.Path

/-- A name that stands for an entry of a directory. -/
structure IsEntry (name : List UInt8) : Prop where
  slash_notMem : slash ∉ name
  not_idle : isIdle name = false
  ne_dotDot : name ≠ dotDot

/-! ## Paths that need not be text -/

def joinBytes (directory name : List UInt8) : List UInt8 :=
  if name.head? = some slash then name
  else if directory.isEmpty || directory.getLast? = some slash then directory ++ name
  else directory ++ slash :: name

theorem utf8EncodeChar_slash : String.utf8EncodeChar '/' = [slash] := rfl

theorem utf8_join (directory name : String) :
    Text.utf8 (join directory name) = joinBytes (Text.utf8 directory) (Text.utf8 name) := by
  have hempty : (Text.utf8 directory).isEmpty = directory.isEmpty := by
    rw [Bool.eq_iff_iff, List.isEmpty_iff, String.isEmpty_iff, Text.utf8_eq_nil_iff]
  have hslash : Text.utf8 "/" = [slash] := rfl
  unfold join joinBytes
  simp only [Text.head?_utf8_eq_some_iff utf8EncodeChar_slash,
    Text.getLast?_utf8_eq_some_iff utf8EncodeChar_slash, hempty]
  split_ifs
  · rfl
  · rw [Text.utf8_append]
  · rw [Text.utf8_append, Text.utf8_append, hslash, List.append_assoc, List.singleton_append]

/-! ## The components of a path into a directory -/

theorem components_append_slash {name : List UInt8} (hname : slash ∉ name)
    (front : List UInt8) : components (front ++ slash :: name) = components front ++ [name] := by
  unfold components
  rw [List.splitOn_append_cons_self, List.splitOn_eq_singleton hname]

/-- A path into a directory has one component more than the directory, or the name takes the
place of an empty one that the directory ends in. -/
theorem components_joinBytes (directory : List UInt8) {name : List UInt8} (hname : IsEntry name) :
    ∃ front, components (joinBytes directory name) = front ++ [name] ∧
      (components directory = front ∨ components directory = front ++ [[]]) := by
  have hstart : name.head? ≠ some slash := fun hhead =>
    hname.slash_notMem (List.mem_of_head? hhead)
  unfold joinBytes
  rw [if_neg hstart]
  split
  next hends =>
    rcases (Bool.or_eq_true _ _).mp hends with hempty | hslash
    · rw [List.isEmpty_iff.mp hempty]
      exact ⟨[], List.splitOn_eq_singleton hname.slash_notMem, .inr rfl⟩
    · obtain ⟨front, rfl⟩ := List.getLast?_eq_some_iff.mp (of_decide_eq_true hslash)
      rw [List.append_assoc]
      exact ⟨components front, components_append_slash hname.slash_notMem front,
        .inr (components_append_slash List.not_mem_nil front)⟩
  next => exact ⟨_, components_append_slash hname.slash_notMem _, .inl rfl⟩

/-- A path into a directory ends in the name of the entry. -/
theorem finalName?_joinBytes (directory : List UInt8) {name : List UInt8} (hname : IsEntry name) :
    finalName? (joinBytes directory name) = some name := by
  obtain ⟨front, hcomponents, -⟩ := components_joinBytes directory hname
  have hkept : [name].filter (fun component => !isIdle component) = [name] := by
    simp [hname.not_idle]
  unfold finalName?
  rw [hcomponents, List.filter_append, hkept, List.getLast?_concat]
  exact if_neg hname.ne_dotDot

/-! ## The order of paths -/

/-- The place of a component among others: a dot, then two dots, then names. -/
def kind (component : List UInt8) : UInt8 :=
  if component = dot then 1 else if component = dotDot then 2 else 3

/-- What paths are ordered by: the root, which comes before everything else, and then the
components that count, each by its kind and then by its bytes. -/
def orderKey (path : String) : List (List UInt8) :=
  (if path.toList.head? = some '/' then [[0]] else []) ++
    (essence path).map fun component => kind component :: component

def Precedes (first second : String) : Prop := orderKey first < orderKey second

instance (first second : String) : Decidable (Precedes first second) :=
  inferInstanceAs (Decidable (orderKey first < orderKey second))

theorem essence_join (directory : String) {name : String} (hname : IsEntry (Text.utf8 name)) :
    essence (join directory name) = essence directory ++ [Text.utf8 name] := by
  obtain ⟨front, hcomponents, hdirectory⟩ := components_joinBytes (Text.utf8 directory) hname
  have hidle := hname.not_idle
  have hne : Text.utf8 name ≠ [] := by
    intro hnil
    rw [hnil] at hidle
    cases hidle
  unfold essence
  rw [utf8_join, hcomponents]
  -- only the first component counts when it is a dot, so it is told apart from the others
  rcases hdirectory with hsame | hended
  · have hfront : front ≠ [] := by
      rw [← hsame]
      exact List.splitOn_ne_nil slash (Text.utf8 directory)
    obtain ⟨first, rest, rfl⟩ := List.exists_cons_of_ne_nil hfront
    rw [hsame]
    simp [hidle]
  · have hempty : isIdle [] = true := rfl
    rw [hended]
    cases front with
    | nil => simp [hne]
    | cons first rest => simp [hidle, hempty]

theorem head?_join (directory : String) {name : String} (hname : IsEntry (Text.utf8 name)) :
    (join directory name).toList.head? = some '/' ↔ directory.toList.head? = some '/' := by
  have hstart : name.toList.head? ≠ some '/' := fun hhead =>
    hname.slash_notMem (List.mem_of_head?
      ((Text.head?_utf8_eq_some_iff utf8EncodeChar_slash).mpr hhead))
  unfold join
  rw [if_neg hstart]
  by_cases hempty : directory = ""
  · subst hempty
    simp [hstart]
  · have hne : directory.toList ≠ [] := fun hnil => hempty (String.toList_eq_nil_iff.mp hnil)
    split <;> simp [List.head?_append_of_ne_nil _ hne]

theorem orderKey_join (directory : String) {name : String} (hname : IsEntry (Text.utf8 name)) :
    orderKey (join directory name) = orderKey directory ++ [3 :: Text.utf8 name] := by
  have hdot : Text.utf8 name ≠ dot := by
    intro hdot
    have hidle := hname.not_idle
    rw [hdot] at hidle
    cases hidle
  have hkind : kind (Text.utf8 name) = 3 := by
    rw [kind, if_neg hdot, if_neg hname.ne_dotDot]
  unfold orderKey
  simp only [head?_join directory hname, essence_join directory hname, List.map_append,
    List.map_cons, List.map_nil, hkind, List.append_assoc]

private theorem append_lt_append_iff (front first second : List (List UInt8)) :
    front ++ first < front ++ second ↔ first < second := by
  induction front with
  | nil => rfl
  | cons component front ih => simp [ih]

theorem precedes_join_iff (directory : String) {first second : String}
    (hfirst : IsEntry (Text.utf8 first)) (hsecond : IsEntry (Text.utf8 second)) :
    Precedes (join directory first) (join directory second) ↔ first < second := by
  rw [Precedes, orderKey_join directory hfirst, orderKey_join directory hsecond,
    append_lt_append_iff, ← Text.utf8_lt_utf8_iff]
  simp [List.cons_lt_cons_iff]

end VirtualMonitor.Path
