import SceneScript.Disk.Fault

set_option autoImplicit false
set_option relaxedAutoImplicit false

/-!
# Access to files

The things that a program asks of a file system, whatever the file system is. A file is opened for
writing before anything is written into it, and is empty until then.
-/

namespace SceneScript

/-- What can be asked of a file system, where a file that is open for writing is known by a
`Handle`. -/
structure FileAccess (Handle : Type) (m : Type -> Type) where
  /-- Whether there is a file or directory at a path. -/
  isPresent : Path -> m (Except Fault Bool)
  /-- The bytes of a file. -/
  read : Path -> m (Except Fault ByteArray)
  /-- Makes a directory and those above it, as far as they are missing. -/
  makeDirectories : Path -> m (Except Fault Unit)
  /-- Makes a file, or empties the one that is there, and opens it for writing. -/
  create : Path -> m (Except Fault Handle)
  /-- Writes a content into a file that was just opened. -/
  put : Handle -> ByteArray -> m Unit

end SceneScript
