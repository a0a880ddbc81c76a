import VirtualMonitor.Text.Utf8

/-!
# Paths

A path is a text, or more generally a row of bytes, whose components are set
apart by slashes.  Empty components and dots say nothing; two dots lead back to
the parent.  A path that starts with a slash starts at the root.
-/

namespace VirtualMonitor.Path

/-- The path of `name` inside a directory: one slash between them, unless the
directory is empty or ends in a slash already.  A name that starts at the root
stands for itself. -/
def join (directory name : String) : String :=
  if name.toList.head? = some '/' then name
  else if directory.isEmpty || directory.toList.getLast? = some '/' then directory ++ name
  else directory ++ "/" ++ name

def slash : UInt8 := 0x2F

def components (path : List UInt8) : List (List UInt8) := path.splitOn slash

def dot : List UInt8 := [0x2E]

def dotDot : List UInt8 := [0x2E, 0x2E]

def isIdle (component : List UInt8) : Bool := component.isEmpty || component == dot

/-- The name a path ends in, whatever slashes and dots follow it.  A path that
ends at a parent, or names nothing, has none. -/
def finalName? (path : List UInt8) : Option (List UInt8) :=
  match ((components path).filter fun component => !isIdle component).getLast? with
  | some component => if component = dotDot then none else some component
  | none => none

/-! ## Sameness -/

/-- The components that make a path what it is: all but the idle ones, and a dot
at the very start. -/
def essence (path : String) : List (List UInt8) :=
  match components (Text.utf8 path) with
  | [] => []
  | first :: rest =>
    [first].filter (fun component => !component.isEmpty) ++
      rest.filter (fun component => !isIdle component)

/-- Two paths are the same when both start at the root or neither does and they
have the same essence, however many slashes and dots stand between. -/
def Same (first second : String) : Prop :=
  (first.toList.head? == some '/') = (second.toList.head? == some '/') ∧
    essence first = essence second

instance (first second : String) : Decidable (Same first second) :=
  inferInstanceAs (Decidable (_ ∧ _))

end VirtualMonitor.Path
