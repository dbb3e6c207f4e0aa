import Mathlib.Tactic.SplitIfs
import SceneScript.Disk.Basic

set_option autoImplicit false
set_option relaxedAutoImplicit false

/-!
# What changes on a disk

Directories are made without touching anything that was there, whether or not all of them can be
made, and a file is made, emptied and written at one location. Main statements:
`extends_makeDirectories`, `writesOnly_of_create` and `WritesOnly.put`.
-/

namespace SceneScript.Disk

variable {d e f : Disk} {p : Path} {l : Location}

/-! Nodes -/

/-- Something is put at a location only if there is no directory; the working directory and those
above it, which have no entries, are thereby out of reach. -/
theorem node?_insert (hl : d.node? l ≠ some .directory) (node : Node) (k : Location) :
    (d.insert l node).node? k = if k = l then some node else d.node? k := by
  have hwd : ¬ l.isPrefixOf d.workingDirectory := by
    intro hprefix
    exact hl (if_pos hprefix)
  show (if k.isPrefixOf d.workingDirectory then some .directory
    else (insertEntry l node d.entries).lookup k) = _
  rw [lookup_insertEntry]
  by_cases hk : k = l
  · subst hk
    rw [if_neg hwd, if_pos rfl, if_pos rfl]
  · rw [if_neg hk, if_neg hk, node?]

/-! Ways -/

/-- The directories of a disk are directories of another one, and paths start in the same place. -/
structure KeepsDirectories (d e : Disk) : Prop where
  workingDirectory : e.workingDirectory = d.workingDirectory
  directories : ∀ l, d.node? l = some .directory → e.node? l = some .directory

theorem KeepsDirectories.follow (h : d.KeepsDirectories e) {names : List FileName} {k : Location}
    (hk : d.follow k names = .ok l) : e.follow k names = .ok l := by
  induction names generalizing k with
  | nil => exact hk
  | cons name names ih =>
    rw [Disk.follow] at hk ⊢
    split at hk
    · cases hk
    · cases hk
    · rename_i hdirectory
      rw [h.directories k hdirectory]
      dsimp only
      split_ifs at hk ⊢
      · exact ih hk
      · exact ih hk

theorem KeepsDirectories.locate (h : d.KeepsDirectories e) (hp : d.locate p = .ok l) :
    e.locate p = .ok l := by
  rw [Disk.locate] at hp ⊢
  rw [h.workingDirectory]
  cases hbytes : p.bytes with
  | error u =>
    rw [hbytes] at hp
    cases hp
  | ok bytes =>
    rw [hbytes] at hp
    dsimp only at hp ⊢
    split_ifs at hp ⊢
    · exact h.follow hp
    · exact h.follow hp

theorem keepsDirectories_insert (hl : d.node? l ≠ some .directory) (node : Node) :
    d.KeepsDirectories (d.insert l node) where
  workingDirectory := rfl
  directories k hk := by
    have hkl : k ≠ l := fun h => hl (h ▸ hk)
    rw [node?_insert hl, if_neg hkl, hk]

/-! Directories -/

/-- Nothing of a disk is changed or removed in another one, and only directories are new there. -/
structure Extends (d e : Disk) : Prop where
  workingDirectory : e.workingDirectory = d.workingDirectory
  nodes : ∀ l, e.node? l = d.node? l ∨ (d.node? l = none ∧ e.node? l = some .directory)

namespace Extends

theorem refl (d : Disk) : d.Extends d where
  workingDirectory := rfl
  nodes _ := .inl rfl

theorem trans (hde : d.Extends e) (hef : e.Extends f) : d.Extends f where
  workingDirectory := hef.workingDirectory.trans hde.workingDirectory
  nodes l := by
    rcases hef.nodes l with hsame | ⟨hnone, hnew⟩
    · rw [hsame]
      exact hde.nodes l
    · rcases hde.nodes l with hsame | ⟨-, hdirectory⟩
      · exact .inr ⟨hsame ▸ hnone, hnew⟩
      · rw [hdirectory] at hnone
        cases hnone

theorem keepsDirectories (h : d.Extends e) : d.KeepsDirectories e where
  workingDirectory := h.workingDirectory
  directories l hl := by
    rcases h.nodes l with hsame | ⟨hnone, -⟩
    · rw [hsame, hl]
    · rw [hl] at hnone
      cases hnone

/-- The files are the same, at the same locations. -/
theorem files (h : d.Extends e) (l : Location) (content : ByteArray) :
    e.node? l = some (.file content) ↔ d.node? l = some (.file content) := by
  rcases h.nodes l with hsame | ⟨hnone, hnew⟩
  · rw [hsame]
  · rw [hnone, hnew]
    simp

end Extends

theorem extends_of_makeDirectory (h : d.makeDirectory p = .ok e) : d.Extends e := by
  rw [makeDirectory] at h
  split at h
  · cases h
  · rename_i l _
    split at h
    · cases h
    · rename_i hnone
      cases h
      have hl : d.node? l ≠ some .directory := by simp [hnone]
      refine ⟨rfl, fun k => ?_⟩
      rw [node?_insert hl]
      split_ifs with hk
      · exact .inr ⟨hk ▸ hnone, rfl⟩
      · exact .inl rfl

theorem extends_ensureDirectory (d : Disk) (p : Path) : d.Extends (d.ensureDirectory p).1 := by
  rw [ensureDirectory]
  split
  · rename_i e hmade
    exact extends_of_makeDirectory hmade
  · exact .refl d

/-- One directory after another is made, from the first missing one down. -/
theorem extends_makeDirectoriesUp (d : Disk) (slashes : Nat) (parts : List RawText) :
    d.Extends (d.makeDirectoriesUp slashes parts).1 := by
  induction parts generalizing d with
  | nil => exact extends_ensureDirectory d _
  | cons part above ih =>
    have habove := ih d
    rw [makeDirectoriesUp]
    split
    · -- those above come first, and stay if a later one cannot be made
      split
      · rename_i e fault hstopped
        rw [hstopped] at habove
        exact habove
      · rename_i e hmade
        rw [hmade] at habove
        exact habove.trans (extends_ensureDirectory e _)
    · exact extends_ensureDirectory d _

theorem extends_makeDirectories (d : Disk) (p : Path) : d.Extends (d.makeDirectories p).1 :=
  extends_makeDirectoriesUp d p.slashes p.parts.reverse

/-! Files -/

/-- A path leads to a file with a content in a disk, where another disk has a file or nothing. All
else is the same in both or a directory that is new. -/
structure WritesOnly (d e : Disk) (p : Path) (content : ByteArray) (l : Location) : Prop where
  located : e.locate p = .ok l
  written : e.node? l = some (.file content)
  replaced : d.node? l ≠ some .directory
  others : ∀ k ≠ l, e.node? k = d.node? k ∨ (d.node? k = none ∧ e.node? k = some .directory)

theorem WritesOnly.read {content : ByteArray} (h : d.WritesOnly e p content l) :
    e.read p = .ok content := by
  rw [Disk.read, find, h.located]
  simp [h.written]

/-- What can be read is there. -/
theorem isPresent_of_read {content : ByteArray} (h : d.read p = .ok content) :
    d.isPresent p = .ok true := by
  rw [read] at h
  rw [isPresent]
  split at h
  · cases h
  · cases h
  · rename_i hfind
    rw [hfind]

/-- A file can be opened at a path: the directories above it can be made, and with them it leads to a
place that is no directory. -/
structure Accepts (d : Disk) (p : Path) : Prop where
  directories : (d.makeDirectories p.parent).2 = .ok ()
  place : ∃ l, (d.makeDirectories p.parent).1.locate p = .ok l ∧
    (d.makeDirectories p.parent).1.node? l ≠ some .directory

/-- A file is made or emptied where the path leads, unless there is a directory. -/
theorem create_eq_ok_iff :
    d.create p = .ok (l, e) ↔
      d.locate p = .ok l ∧ d.node? l ≠ some .directory ∧ d.insert l (.file .empty) = e := by
  rw [create]
  split
  · rename_i o hlocated
    simp [hlocated]
  · rename_i k hlocated
    rw [hlocated]
    split
    · rename_i hdirectory
      refine iff_of_false nofun ?_
      rintro ⟨hk, hl, -⟩
      exact hl (Except.ok.inj hk ▸ hdirectory)
    · rename_i hk
      constructor
      · intro h
        obtain ⟨rfl, rfl⟩ := Prod.mk.inj (Except.ok.inj h)
        exact ⟨rfl, hk, rfl⟩
      · rintro ⟨hl, -, rfl⟩
        rw [Except.ok.inj hl]

theorem accepts_iff (d : Disk) (p : Path) :
    d.Accepts p ↔ (d.makeDirectories p.parent).2 = .ok () ∧
      ∃ opened, (d.makeDirectories p.parent).1.create p = .ok opened := by
  constructor
  · rintro ⟨hmade, l, hlocated, hl⟩
    exact ⟨hmade, _, create_eq_ok_iff.mpr ⟨hlocated, hl, rfl⟩⟩
  · rintro ⟨hmade, ⟨l, e⟩, hcreate⟩
    obtain ⟨hlocated, hl, -⟩ := create_eq_ok_iff.mp hcreate
    exact ⟨hmade, l, hlocated, hl⟩

theorem Extends.writesOnly_of_create (h : d.Extends e) (hcreate : e.create p = .ok (l, f)) :
    d.WritesOnly f p .empty l := by
  obtain ⟨hlocated, hl, rfl⟩ := create_eq_ok_iff.mp hcreate
  refine ⟨(keepsDirectories_insert hl _).locate hlocated, ?_, ?_, ?_⟩
  · rw [node?_insert hl, if_pos rfl]
  · exact fun hdirectory => hl (h.keepsDirectories.directories l hdirectory)
  · intro k hk
    rw [node?_insert hl, if_neg hk]
    exact h.nodes k

/-- What is written into an open file takes the place of what it holds. -/
theorem WritesOnly.put {content : ByteArray} (h : d.WritesOnly e p content l)
    (other : ByteArray) : d.WritesOnly (e.put l other) p other l := by
  have hl : e.node? l ≠ some .directory := by
    rw [h.written]
    exact nofun
  refine ⟨(keepsDirectories_insert hl _).locate h.located, ?_, h.replaced, ?_⟩
  · rw [Disk.put, node?_insert hl, if_pos rfl]
  · intro k hk
    rw [Disk.put, node?_insert hl, if_neg hk]
    exact h.others k hk

/-- Only a file that was empty before is left as it was if the output is emptied. -/
theorem WritesOnly.files_iff {content : ByteArray} (h : d.WritesOnly e p content l) :
    (∀ k found, e.node? k = some (.file found) ↔ d.node? k = some (.file found)) ↔
      d.node? l = some (.file content) := by
  constructor
  · intro hfiles
    exact (hfiles l content).mp h.written
  · intro hl k found
    by_cases hk : k = l
    · rw [hk, h.written, hl]
    · rcases h.others k hk with hsame | ⟨hnone, hnew⟩
      · rw [hsame]
      · rw [hnone, hnew]
        simp

/-! Access -/

theorem run_bind {α β : Type} (action : StateM Disk α) (next : α → StateM Disk β) (d : Disk) :
    (action >>= next).run d = (next (action.run d).1).run (action.run d).2 :=
  rfl

theorem run_isPresent (d : Disk) (p : Path) : (access.isPresent p).run d = (d.isPresent p, d) :=
  rfl

theorem run_read (d : Disk) (p : Path) : (access.read p).run d = (d.read p, d) :=
  rfl

theorem run_makeDirectories (d : Disk) (p : Path) :
    (access.makeDirectories p).run d = ((d.makeDirectories p).2, (d.makeDirectories p).1) :=
  rfl

theorem run_create (d : Disk) (p : Path) :
    (access.create p).run d =
      match d.create p with
      | .error fault => (.error fault, d)
      | .ok (l, e) => (.ok l, e) := by
  rw [access]
  dsimp only
  rw [run_bind]
  show (match d.create p with
    | .error fault => pure (.error fault)
    | .ok (l, e) => do
      set e
      return .ok l : StateM Disk (Except Fault Location)).run d = _
  split <;> rfl

theorem run_put (d : Disk) (l : Location) (content : ByteArray) :
    (access.put l content).run d = ((), d.put l content) :=
  rfl

end SceneScript.Disk
