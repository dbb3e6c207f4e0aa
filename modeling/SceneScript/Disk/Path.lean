import SceneScript.Text.Cut
import SceneScript.Text.Raw

set_option autoImplicit false
set_option relaxedAutoImplicit false

/-!
# Paths

The name of a file or directory as a list of parts. Empty parts and single dots are dropped when a
path is read, while double dots stay, since a part before them need not exist.
-/

namespace SceneScript

/-- A path: how many slashes it starts with, and its parts. -/
structure Path where
  slashes : Nat
  parts : List RawText
  deriving DecidableEq, Repr, Inhabited

namespace Path

/-- The number of slashes that a path keeps at its start. Two slashes are a root of their own; more
than two are one. -/
def rootSlashes (t : RawText) : Nat :=
  match (t.takeWhile (fun c => c == .char '/')).length with
  | 0 => 0
  | 2 => 2
  | _ => 1

/-- Reads a path. -/
def ofText (t : RawText) : Path where
  slashes := rootSlashes t
  parts :=
    (Text.splitWhere (fun c => c == .char '/') t).filter
      (fun part => part != [] && part != [.char '.'])

/-- The parts with slashes between them, after those of the root. A path without parts that is not a
root is the directory one is in, a single dot. -/
def text (p : Path) : RawText :=
  if p.slashes == 0 && p.parts.isEmpty then [.char '.']
  else List.replicate p.slashes (.char '/') ++ List.intercalate [.char '/'] p.parts

/-- The directory that a path names something in. -/
def parent (p : Path) : Path :=
  { p with parts := p.parts.dropLast }

/-- The last part of a path, and nothing for a root or the directory one is in. -/
def name (p : Path) : RawText :=
  p.parts.getLast?.getD []

/-- The name without its extension: what stands before the last dot, if something stands on both
sides of that dot. -/
def stem (p : Path) : RawText :=
  let reversed := p.name.reverse
  match Text.after? (.char '.') reversed with
  | none => p.name
  | some rest =>
    if rest.isEmpty || (Text.before (.char '.') reversed).isEmpty then p.name else rest.reverse

/-- The bytes of a path, by which a system knows it. -/
def bytes (p : Path) : Except Unencodable (List UInt8) :=
  match p.text.unencodable? RawChar.isNameable with
  | some u => .error u
  | none => .ok (p.text.flatMap RawChar.nameBytes)

end Path

end SceneScript
