import SceneScript.Disk.Path
import SceneScript.Text.Quoted

set_option autoImplicit false
set_option relaxedAutoImplicit false

/-!
# File faults

Why a file or directory cannot be reached, read, made or written.
-/

namespace SceneScript

/-- What is in the way. -/
inductive Obstacle
  | missing
  | alreadyExists
  | notDirectory
  | isDirectory
  | nameTooLong
  | nulInName
  | unencodable (name : Unencodable)
  deriving DecidableEq, Repr, Inhabited

namespace Obstacle

/-- The number and the words under which a system reports an obstacle. A name that holds a zero
character or that cannot be written in bytes never reaches the system. -/
def report? : Obstacle -> Option (Nat × String)
  | .missing => some (2, "No such file or directory")
  | .alreadyExists => some (17, "File exists")
  | .notDirectory => some (20, "Not a directory")
  | .isDirectory => some (21, "Is a directory")
  | .nameTooLong => some (36, "File name too long")
  | .nulInName | .unencodable _ => none

end Obstacle

/-- An obstacle at a path. -/
structure Fault where
  obstacle : Obstacle
  path : Path
  deriving DecidableEq, Repr, Inhabited

/-- The wording of a fault. -/
def Fault.message (f : Fault) : String :=
  match f.obstacle, f.obstacle.report? with
  | _, some (number, words) =>
    "[Errno " ++ toString number ++ "] " ++ words ++ ": " ++ Text.quoted f.path.text
  | .unencodable name, none => name.message
  | _, none => "embedded null byte"

end SceneScript
