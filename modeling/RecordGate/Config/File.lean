import RecordGate.Config
import RecordGate.FileTree

/-!
# Configuration files
-/

namespace RecordGate.Config
set_option autoImplicit false

/-- The configuration of a file. -/
def load (tree : FileTree) (path : String) : Except ConfigProblem Config := do
  let text ← (tree.readText path).mapError fun p => ConfigProblem.unreadable path p.message
  parse text

/-- Write a text to a configuration file. -/
def saveText (tree : FileTree) (path text : String) : Except ConfigProblem FileTree :=
  (tree.writeText path text).mapError fun p => .unwritable path p.message

/-- Write a configuration to a file. -/
def save (c : Config) (tree : FileTree) (path : String) : Except ConfigProblem FileTree :=
  saveText tree path c.render

/-- Write the file of the defaults, unless there is something at the path. -/
def saveDefaultIfMissing (tree : FileTree) (path : String) : Except ConfigProblem FileTree :=
  if tree.exists? path then .ok tree else saveText tree path defaultText

end RecordGate.Config
