import VirtualMonitor.FileTree
import VirtualMonitor.Text.Word

/-!
# Kernel modules

A kernel module is loaded when the module listing has a line whose first word is
its name, or when its directory exists in the system tree.  A listing that
cannot be read, or is not text, lists nothing.
-/

namespace VirtualMonitor.KernelModule

/-- Whether some line of a listing has `name` as its first word. -/
def isListed (name listing : String) : Bool :=
  (Text.lines listing.toList).any fun line => Text.firstWord? line == some name.toList

/-- Whether the module is loaded, by the listing at `listingPath` or by the mere
presence of `systemPath`. -/
def isLoaded (files : Files) (name listingPath systemPath : String) : Bool :=
  ((files.readText? listingPath).any (isListed name)) || files.pathExists systemPath

end VirtualMonitor.KernelModule
