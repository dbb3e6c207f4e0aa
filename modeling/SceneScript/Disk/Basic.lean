import SceneScript.Disk.Access
import SceneScript.Entries

set_option autoImplicit false
set_option relaxedAutoImplicit false

/-!
# Disks

A file system as a value: the files and directories below a root, and the directory in which the
paths of a program start. Every operation on it gives a new disk.
-/

namespace SceneScript

/-- The name of a file or directory, in bytes. -/
abbrev FileName := List UInt8

/-- The names that lead from the root to a file or directory. -/
abbrev Location := List FileName

/-- A file or a directory. -/
inductive Node
  | file (content : ByteArray)
  | directory

/-- The files and directories below a root. The working directory and those above it exist without
an entry. -/
structure Disk where
  entries : List (Location × Node)
  workingDirectory : Location := []

namespace Disk

/-- The number of bytes that a name may have. -/
def nameLimit : Nat := 255

/-- The number of bytes that a path may have. -/
def pathLimit : Nat := 4095

/-- The byte between the names of a path. -/
def slash : UInt8 := 0x2f

/-- The name of the directory one is in. -/
def hereName : FileName := [0x2e]

/-- The name of the directory above. -/
def aboveName : FileName := [0x2e, 0x2e]

/-- What is at a location. -/
def node? (d : Disk) (l : Location) : Option Node :=
  if l.isPrefixOf d.workingDirectory then some .directory else d.entries.lookup l

/-- Follows names from a location. All but the last one must lead to a directory. -/
def follow (d : Disk) : Location -> List FileName -> Except Obstacle Location
  | l, [] => .ok l
  | l, name :: rest =>
    match d.node? l with
    | none => .error .missing
    | some (.file _) => .error .notDirectory
    | some .directory =>
      if name == aboveName then d.follow l.dropLast rest
      else if nameLimit < name.length then .error .nameTooLong
      else d.follow (l ++ [name]) rest

/-- The names in the bytes of a path. -/
def namesOf (bytes : List UInt8) : List FileName :=
  (Text.splitWhere (fun b => b == slash) bytes).filter
    (fun name => name != [] && name != hereName)

/-- The location that a path leads to, where there may be nothing yet. -/
def locate (d : Disk) (p : Path) : Except Obstacle Location :=
  match p.bytes with
  | .error u => .error (.unencodable u)
  | .ok bytes =>
    if bytes.contains 0 then .error .nulInName
    else if pathLimit < bytes.length then .error .nameTooLong
    else d.follow (if p.slashes == 0 then d.workingDirectory else []) (namesOf bytes)

/-- What a path leads to. -/
def find (d : Disk) (p : Path) : Except Obstacle Node :=
  match d.locate p with
  | .error o => .error o
  | .ok l =>
    match d.node? l with
    | none => .error .missing
    | some node => .ok node

/-- Whether a path leads to a file or directory. Only a name that is too long leaves the question
open. -/
def isPresent (d : Disk) (p : Path) : Except Fault Bool :=
  match d.find p with
  | .ok _ => .ok true
  | .error .nameTooLong => .error ⟨.nameTooLong, p⟩
  | .error _ => .ok false

/-- The bytes of the file that a path leads to. -/
def read (d : Disk) (p : Path) : Except Fault ByteArray :=
  match d.find p with
  | .error o => .error ⟨o, p⟩
  | .ok .directory => .error ⟨.isDirectory, p⟩
  | .ok (.file content) => .ok content

/-- Puts a file or directory at a location. -/
def insert (d : Disk) (l : Location) (node : Node) : Disk :=
  { d with entries := insertEntry l node d.entries }

/-- Makes the file that a path leads to, or empties the one that is there, and says where it is. -/
def create (d : Disk) (p : Path) : Except Fault (Location × Disk) :=
  match d.locate p with
  | .error o => .error ⟨o, p⟩
  | .ok l =>
    match d.node? l with
    | some .directory => .error ⟨.isDirectory, p⟩
    | _ => .ok (l, d.insert l (.file .empty))

/-- Writes a content into the file at a location. -/
def put (d : Disk) (l : Location) (content : ByteArray) : Disk :=
  d.insert l (.file content)

/-- Makes one directory, inside one that exists. -/
def makeDirectory (d : Disk) (p : Path) : Except Obstacle Disk :=
  match d.locate p with
  | .error o => .error o
  | .ok l =>
    match d.node? l with
    | some _ => .error .alreadyExists
    | none => .ok (d.insert l .directory)

/-- Whether a path leads to a directory. -/
def isDirectory (d : Disk) (p : Path) : Bool :=
  match d.find p with
  | .ok .directory => true
  | _ => false

/-- Makes one directory unless it is there already. -/
def ensureDirectory (d : Disk) (p : Path) : Disk × Except Fault Unit :=
  match d.makeDirectory p with
  | .ok e => (e, .ok ())
  | .error o => (d, if d.isDirectory p then .ok () else .error ⟨o, p⟩)

/-- Makes a directory and those above it, as far as they are missing. The parts of the path come
last one first. Directories that were made stay, also if a later one cannot be. -/
def makeDirectoriesUp (d : Disk) (slashes : Nat) : List RawText -> Disk × Except Fault Unit
  | [] => d.ensureDirectory ⟨slashes, []⟩
  | part :: above =>
    let p : Path := ⟨slashes, (part :: above).reverse⟩
    match d.makeDirectory p with
    | .error .missing =>
      match d.makeDirectoriesUp slashes above with
      | (e, .error fault) => (e, .error fault)
      | (e, .ok ()) => e.ensureDirectory p
    | _ => d.ensureDirectory p

/-- Makes a directory and those above it, as far as they are missing. -/
def makeDirectories (d : Disk) (p : Path) : Disk × Except Fault Unit :=
  d.makeDirectoriesUp p.slashes p.parts.reverse

/-- Access to a disk that is passed along. -/
def access : FileAccess Location (StateM Disk) where
  isPresent p := do return (← get).isPresent p
  read p := do return (← get).read p
  makeDirectories p := modifyGet (fun d => ((d.makeDirectories p).2, (d.makeDirectories p).1))
  create p := do
    match (← get).create p with
    | .error fault => return .error fault
    | .ok (l, d) =>
      set d
      return .ok l
  put l content := modify (fun d => d.put l content)

end Disk

end SceneScript
