import SceneScript.CommandLine.Run
import Std.Time.Zoned

set_option autoImplicit false
set_option relaxedAutoImplicit false

/-!
# The command

The command on the files, the clock and the streams of the machine.
-/

namespace SceneScript.Machine

/-- The number under which the system reported an error. -/
def errorNumber? : IO.Error -> Option UInt32
  | .alreadyExists _ n _ => some n
  | .otherError n _ => some n
  | .noFileOrDirectory _ n _ => some n
  | .invalidArgument _ n _ => some n
  | .inappropriateType _ n _ => some n
  | .noSuchThing _ n _ => some n
  | .unsatisfiedConstraints n _ => some n
  | .resourceExhausted _ n _ => some n
  | _ => none

/-- A number without its sign, as some operations report the negative number. -/
def magnitude (n : UInt32) : Nat :=
  if n < 0x80000000 then n.toNat else (0 - n).toNat

/-- The obstacle that the system reported. -/
def obstacle? (e : IO.Error) : Option Obstacle :=
  let known : List Obstacle :=
    [.missing, .alreadyExists, .notDirectory, .isDirectory, .nameTooLong]
  (errorNumber? e).bind (fun n =>
    known.find? (fun o => o.report?.map Prod.fst == some (magnitude n)))

/-- Runs an action on a path, and gives an obstacle in its way as a fault. The machine hands over
arguments that are text, so no other paths come up. -/
def attempt {α : Type} (p : Path) (action : String -> IO α) : IO (Except Fault α) := do
  match p.text.toText with
  | .error u => return .error ⟨.unencodable u, p⟩
  | .ok name =>
    if name.toList.contains (Char.ofNat 0) then return .error ⟨.nulInName, p⟩
    try
      return .ok (← action name)
    catch e =>
      match obstacle? e with
      | some o => return .error ⟨o, p⟩
      | none => throw e

/-- Whether a path leads to a file or directory. -/
def isPresent (p : Path) : IO (Except Fault Bool) := do
  match ← attempt p (fun name => discard (IO.FS.Handle.mk name .read)) with
  | .ok () => return .ok true
  | .error ⟨.nameTooLong, path⟩ => return .error ⟨.nameTooLong, path⟩
  | .error _ => return .ok false

/-- Whether a path leads to a directory, which reads as a list of entries and not as bytes. -/
def isDirectory (p : Path) : IO Bool := do
  match ← attempt p (fun name => discard (IO.FS.readBinFile name)) with
  | .error ⟨.isDirectory, _⟩ => return true
  | _ => return false

/-- Makes one directory unless it is there already. -/
def ensureDirectory (p : Path) : IO (Except Fault Unit) := do
  match ← attempt p (fun name => IO.FS.createDir name) with
  | .ok () => return .ok ()
  | .error fault => if ← isDirectory p then return .ok () else return .error fault

/-- Makes a directory and those above it. The parts of the path come last one first. -/
def makeDirectoriesUp (slashes : Nat) : List RawText -> IO (Except Fault Unit)
  | [] => ensureDirectory ⟨slashes, []⟩
  | part :: above => do
    let p : Path := ⟨slashes, (part :: above).reverse⟩
    match ← attempt p (fun name => IO.FS.createDir name) with
    | .error ⟨.missing, _⟩ =>
      match ← makeDirectoriesUp slashes above with
      | .error fault => return .error fault
      | .ok () => ensureDirectory p
    | .ok () => return .ok ()
    | .error fault => if ← isDirectory p then return .ok () else return .error fault

/-- Access to the files of the machine. -/
def access : FileAccess IO.FS.Handle IO where
  isPresent := isPresent
  read p := attempt p (fun name => IO.FS.readBinFile name)
  makeDirectories p := makeDirectoriesUp p.slashes p.parts.reverse
  create p := attempt p (fun name => IO.FS.Handle.mk name .write)
  put file content := do
    file.write content
    file.flush

/-- The present moment by the clock on the wall. -/
def now : IO Timestamp := do
  let t ← Std.Time.PlainDateTime.now
  return {
    year := t.year.toInt.toNat
    month := t.month.toNat
    day := t.day.toNat
    hour := t.hour.toNat
    minute := t.minute.toNat
    second := t.second.toNat }

end SceneScript.Machine

open SceneScript in
/-- Runs the command under its installed name. -/
def main (arguments : List String) : IO UInt32 := do
  let surroundings : CommandLine.Surroundings :=
    { entry := CommandLine.Entry.installed
      logVariable := (← IO.getEnv "MASORIA_LOG_LEVEL").map RawText.ofString
      now := ← Machine.now }
  let outcome ← CommandLine.run Machine.access surroundings (arguments.map RawText.ofString)
  IO.print outcome.out
  IO.eprint outcome.err
  match outcome.failure with
  | none => pure ()
  | some f => IO.eprintln (f.message?.getD "The input file is not valid UTF-8")
  return UInt32.ofNat outcome.exitCode
