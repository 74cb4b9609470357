/-!
# File paths

A path is a text with slashes. Joining keeps both parts as they are written: nothing is normalised.
-/

namespace CompletionService.Path

/-- The path starts at the root directory. -/
def isAbsolute (path : String) : Bool := path.toList.head? == some '/'

/-- A path below a directory. An absolute second path stands for itself; otherwise one slash comes
between the two, unless the first is empty or ends in one. -/
def join (directory path : String) : String :=
  if isAbsolute path || directory.isEmpty then path
  else if directory.toList.getLast? == some '/' then directory ++ path
  else directory ++ "/" ++ path

end CompletionService.Path
