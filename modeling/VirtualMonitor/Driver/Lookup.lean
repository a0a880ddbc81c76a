import VirtualMonitor.FileTree
import VirtualMonitor.Driver.Library

/-!
# Looking up libraries among files

`Library.loadWith` takes any system that loads libraries.  This is one, for a machine of
which nothing but the files is known; programs run with it, and nothing that is proved of
libraries or of managers depends on it.

A candidate is the name of a library up to a zero character, which may be left
out.  A name with a slash is a path, a name without one is looked up among the
system's libraries, and the empty name means the running program itself.  Neither
the program nor a library of the system is a driver.

Behind a dollar sign a path may have a placeholder, which stands for a place of the
system: `$LIB` or `${LIB}`, and so on.  Such a path leads to the system, and there
is no driver either.
-/

namespace VirtualMonitor.Library

/-- The name that a candidate gives; a zero character anywhere but at its end
spoils it. -/
def nameOf? (candidate : String) : Option String :=
  let characters := candidate.toList
  let name :=
    if characters.getLast? = some (Char.ofNat 0) then characters.dropLast else characters
  if name.contains (Char.ofNat 0) then none else some (String.ofList name)

/-! ## Placeholders -/

def placeholders : List String := ["ORIGIN", "PLATFORM", "LIB"]

/-- Whether a text starts with a word that no letter, digit or underscore goes on
from. -/
def startsWithWord (word text : List Char) : Bool :=
  word.isPrefixOf text &&
    !(text.drop word.length).head?.any fun next => next.isAlphanum || next == '_'

/-- Whether the text behind a dollar sign starts with the name of a placeholder,
bare or in braces. -/
def startsWithPlaceholder (text : List Char) : Bool :=
  placeholders.any fun name =>
    startsWithWord name.toList text ||
      ('\x7b' :: name.toList ++ ['\x7d']).isPrefixOf text

def hasPlaceholder : List Char → Bool
  | [] => false
  | character :: rest =>
    (character == '$' && startsWithPlaceholder rest) || hasPlaceholder rest

/-! ## Looking up candidates -/

/-- The libraries that every system has. -/
def systemLibraries : List String :=
  ["libc.so.6", "libm.so.6", "libdl.so.2", "libpthread.so.0", "librt.so.1", "libutil.so.1",
    "libresolv.so.2", "libgcc_s.so.1"]

/-- The entry points that are missing from the library of a name, if there is
such a library. -/
def missingFromNamed? (files : Files) (name : String) : Option (List String) :=
  if name.isEmpty || systemLibraries.contains name then some entryPoints
  else if name.toList.contains '/' && !hasPlaceholder name.toList then
    match files.find? name with
    | some (.library missing) => some missing
    | _ => none
  else none

/-- The entry points that are missing from a candidate, if it can be loaded. -/
def missingFrom? (files : Files) (candidate : String) : Option (List String) :=
  (nameOf? candidate).bind (missingFromNamed? files)

/-- Binds a library that is looked up among files; gives its path. -/
def load (files : Files) (candidates : List String) : Except LoadError String :=
  (loadWith (missingFrom? files) candidates).1.map Bound.path

end VirtualMonitor.Library
