import VirtualMonitor.Path

/-!
# Files

The display layer asks little of a file system: what a path leads to, whether it
can be opened, what it holds.  `Files` is that view.  A node may be an ordinary
file, a shared library, a graphics card with its connectors, or a directory with
all that is in it, and `Files.ofTree` is the view of such a directory as the root,
where absolute paths start, with a working directory in it, where all others do.
-/

namespace VirtualMonitor

structure Connector where
  /-- The kind of plug, as the kernel numbers it. -/
  kind : UInt32
  /-- Tells connectors of one kind apart. -/
  number : UInt32
  connected : Bool
  deriving DecidableEq

/-- A file or directory with all that is in it. -/
inductive FileTree where
  | file (contents : List UInt8)
  /-- A shared library that exports every entry point of a driver but `missing`. -/
  | library (missing : List String)
  | card (connectors : List Connector)
  | directory (entries : List (List UInt8 × FileTree))

structure Files where
  find? : String → Option FileTree

namespace FileTree

/-- Follows components downwards; `above` holds the directories passed, the
nearest first.  Only a directory can be passed through, and the topmost one is
its own parent. -/
def follow : List FileTree → FileTree → List (List UInt8) → Option FileTree
  | _, node, [] => some node
  | above, .directory entries, component :: rest =>
    if Path.isIdle component then
      follow above (.directory entries) rest
    else if component = Path.dotDot then
      match above with
      | [] => follow [] (.directory entries) rest
      | parent :: further => follow further parent rest
    else
      match entries.lookup component with
      | some child => follow (.directory entries :: above) child rest
      | none => none
  | _, _, _ :: _ => none

end FileTree

namespace Files

/-- The greatest number of bytes in a path that leads anywhere. -/
def longestPath : Nat := 4095

/-- What paths lead to in the tree below `root`, seen from the directory that the
components `working` lead to.  The empty path leads nowhere, and so does one that is
too long or holds the zero character. -/
def ofTree (root : FileTree) (working : List (List UInt8)) : Files where
  find? path :=
    let bytes := Text.utf8 path
    if bytes.isEmpty || longestPath < bytes.length || bytes.contains 0 then none
    else
      let start := if bytes.head? = some Path.slash then [] else working
      FileTree.follow [] root (start ++ Path.components bytes)

def pathExists (files : Files) (path : String) : Bool := (files.find? path).isSome

/-- Whether a path can be opened for reading and writing; a directory cannot. -/
def canOpen (files : Files) (path : String) : Bool :=
  match files.find? path with
  | some (.directory _) => false
  | some _ => true
  | none => false

def readText? (files : Files) (path : String) : Option String :=
  match files.find? path with
  | some (.file contents) => Text.ofUtf8? contents
  | _ => none

def names? (files : Files) (path : String) : Option (List (List UInt8)) :=
  match files.find? path with
  | some (.directory entries) => some (entries.map Prod.fst)
  | _ => none

end Files

end VirtualMonitor
