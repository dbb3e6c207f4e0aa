import Mathlib.Tactic.SplitIfs
import SceneScript.Proofs.Disk.Changes

set_option autoImplicit false
set_option relaxedAutoImplicit false

/-!
# Disks that differ in the content of a file

Two disks may be the same except that a file has one content in the first and another one in the
second. Nothing but reading that file tells them apart, and whatever is done to both leaves two
disks of this kind. Main statements: `SameBut.read`, `SameBut.makeDirectories`, `SameBut.create`
and `SameBut.put`.
-/

namespace SceneScript.Disk

/-- Two disks are the same, except that a file with the content `b` in the first may have the
content `c` in the second. -/
structure SameBut (b c : ByteArray) (d e : Disk) : Prop where
  workingDirectory : e.workingDirectory = d.workingDirectory
  nodes : ∀ l, e.node? l = d.node? l ∨
    (d.node? l = some (.file b) ∧ e.node? l = some (.file c))

variable {b c : ByteArray} {d e : Disk} {l : Location} {p : Path}

/-- A file that is put at one place with the one content or the other. -/
theorem sameBut_insert (hl : d.node? l ≠ some .directory) (b c : ByteArray) :
    SameBut b c (d.insert l (.file b)) (d.insert l (.file c)) where
  workingDirectory := rfl
  nodes k := by
    rw [node?_insert hl, node?_insert hl]
    split_ifs
    · exact .inr ⟨rfl, rfl⟩
    · exact .inl rfl

namespace SameBut

/-! Questions -/

/-- The directories are the same, and so are the ways through them. -/
theorem follow (h : SameBut b c d e) (k : Location) (names : List FileName) :
    e.follow k names = d.follow k names := by
  induction names generalizing k with
  | nil => rfl
  | cons name names ih =>
    rw [Disk.follow, Disk.follow]
    rcases h.nodes k with hsame | ⟨hd, he⟩
    · simp only [hsame, ih]
    · rw [hd, he]

theorem locate (h : SameBut b c d e) (p : Path) : e.locate p = d.locate p := by
  rw [Disk.locate, Disk.locate, h.workingDirectory]
  simp only [h.follow]

theorem find (h : SameBut b c d e) (p : Path) :
    e.find p = d.find p ∨ (d.find p = .ok (.file b) ∧ e.find p = .ok (.file c)) := by
  rw [Disk.find, Disk.find, h.locate]
  cases d.locate p with
  | error o => exact .inl rfl
  | ok l =>
    rcases h.nodes l with hsame | ⟨hd, he⟩
    · simp only [hsame, true_or]
    · simp only [hd, he, and_self, or_true]

theorem isPresent (h : SameBut b c d e) (p : Path) : e.isPresent p = d.isPresent p := by
  rw [Disk.isPresent, Disk.isPresent]
  rcases h.find p with hsame | ⟨hd, he⟩
  · rw [hsame]
  · rw [hd, he]

theorem isDirectory (h : SameBut b c d e) (p : Path) : e.isDirectory p = d.isDirectory p := by
  rw [Disk.isDirectory, Disk.isDirectory]
  rcases h.find p with hsame | ⟨hd, he⟩
  · rw [hsame]
  · rw [hd, he]

/-- What is read is the same, or it is the one content and the other. -/
theorem read (h : SameBut b c d e) (p : Path) :
    e.read p = d.read p ∨ (d.read p = .ok b ∧ e.read p = .ok c) := by
  rw [Disk.read, Disk.read]
  rcases h.find p with hsame | ⟨hd, he⟩
  · exact .inl (by rw [hsame])
  · exact .inr (by rw [hd, he]; exact ⟨rfl, rfl⟩)

/-! Changes -/

theorem node?_eq_directory_iff (h : SameBut b c d e) (l : Location) :
    e.node? l = some .directory ↔ d.node? l = some .directory := by
  rcases h.nodes l with hsame | ⟨hd, he⟩
  · rw [hsame]
  · simp [hd, he]

theorem node?_eq_none_iff (h : SameBut b c d e) (l : Location) :
    e.node? l = none ↔ d.node? l = none := by
  rcases h.nodes l with hsame | ⟨hd, he⟩
  · rw [hsame]
  · simp [hd, he]

theorem insert (h : SameBut b c d e) (hl : d.node? l ≠ some .directory) (node : Node) :
    SameBut b c (d.insert l node) (e.insert l node) where
  workingDirectory := h.workingDirectory
  nodes k := by
    have hl' : e.node? l ≠ some .directory := (not_congr (h.node?_eq_directory_iff l)).mpr hl
    rw [node?_insert hl, node?_insert hl']
    split_ifs
    · exact .inl rfl
    · exact h.nodes k

/-- A directory is made in both or in neither, and then the same is in the way. -/
theorem makeDirectory (h : SameBut b c d e) (p : Path) :
    (∃ o, d.makeDirectory p = .error o ∧ e.makeDirectory p = .error o) ∨
      ∃ d' e', d.makeDirectory p = .ok d' ∧ e.makeDirectory p = .ok e' ∧ SameBut b c d' e' := by
  rw [Disk.makeDirectory, Disk.makeDirectory, h.locate]
  cases d.locate p with
  | error o => exact .inl ⟨o, rfl, rfl⟩
  | ok l =>
    dsimp only
    have hfree := h.node?_eq_none_iff l
    have hinsert := h.insert (l := l)
    cases hd : d.node? l with
    | none =>
      rw [hfree.mpr hd]
      exact .inr ⟨_, _, rfl, rfl, hinsert (by simp [hd]) .directory⟩
    | some node =>
      obtain ⟨other, he⟩ := Option.ne_none_iff_exists'.mp ((not_congr hfree).mpr (by simp [hd]))
      rw [he]
      exact .inl ⟨_, rfl, rfl⟩

theorem ensureDirectory (h : SameBut b c d e) (p : Path) :
    (e.ensureDirectory p).2 = (d.ensureDirectory p).2 ∧
      SameBut b c (d.ensureDirectory p).1 (e.ensureDirectory p).1 := by
  rw [Disk.ensureDirectory, Disk.ensureDirectory, h.isDirectory]
  rcases h.makeDirectory p with ⟨o, hd, he⟩ | ⟨d', e', hd, he, hmade⟩
  · rw [hd, he]
    exact ⟨rfl, h⟩
  · rw [hd, he]
    exact ⟨rfl, hmade⟩

theorem makeDirectoriesUp (h : SameBut b c d e) (slashes : Nat) (parts : List RawText) :
    (e.makeDirectoriesUp slashes parts).2 = (d.makeDirectoriesUp slashes parts).2 ∧
      SameBut b c (d.makeDirectoriesUp slashes parts).1 (e.makeDirectoriesUp slashes parts).1 := by
  induction parts with
  | nil => exact h.ensureDirectory _
  | cons part above ih =>
    have hensure := h.ensureDirectory ⟨slashes, (part :: above).reverse⟩
    rw [Disk.makeDirectoriesUp, Disk.makeDirectoriesUp]
    rcases h.makeDirectory ⟨slashes, (part :: above).reverse⟩ with ⟨o, hd, he⟩ | ⟨_, _, hd, he, -⟩
    · rw [hd, he]
      cases o with
      | missing =>
        -- those above are made first, in both disks as far as in the other
        dsimp only
        revert ih
        generalize d.makeDirectoriesUp slashes above = x, e.makeDirectoriesUp slashes above = y
        rintro ⟨hresult, habove⟩
        obtain ⟨d', made⟩ := x
        obtain ⟨e', _⟩ := y
        cases hresult
        cases made with
        | error fault => exact ⟨rfl, habove⟩
        | ok _ => exact habove.ensureDirectory _
      | alreadyExists | notDirectory | isDirectory | nameTooLong | nulInName | unencodable _ =>
        exact hensure
    · rw [hd, he]
      exact hensure

theorem makeDirectories (h : SameBut b c d e) (p : Path) :
    (e.makeDirectories p).2 = (d.makeDirectories p).2 ∧
      SameBut b c (d.makeDirectories p).1 (e.makeDirectories p).1 :=
  h.makeDirectoriesUp p.slashes p.parts.reverse

/-- A file is opened in both at the same place or in neither. -/
theorem create (h : SameBut b c d e) (p : Path) :
    (∃ fault, d.create p = .error fault ∧ e.create p = .error fault) ∨
      ∃ l d' e', d.create p = .ok (l, d') ∧ e.create p = .ok (l, e') ∧
        d'.node? l ≠ some .directory ∧ SameBut b c d' e' := by
  have hlocate := h.locate p
  cases hd : d.locate p with
  | error o =>
    rw [Disk.create, Disk.create, hlocate, hd]
    exact .inl ⟨_, rfl, rfl⟩
  | ok l =>
    have hdirectory := h.node?_eq_directory_iff l
    by_cases hl : d.node? l = some .directory
    · rw [Disk.create, Disk.create, hlocate, hd]
      dsimp only
      rw [hl, hdirectory.mpr hl]
      exact .inl ⟨_, rfl, rfl⟩
    · refine .inr ⟨l, _, _, create_eq_ok_iff.mpr ⟨hd, hl, rfl⟩,
        create_eq_ok_iff.mpr ⟨hlocate.trans hd, (not_congr hdirectory).mpr hl, rfl⟩, ?_,
        h.insert hl _⟩
      simp [node?_insert hl]

theorem put (h : SameBut b c d e) (hl : d.node? l ≠ some .directory) (content : ByteArray) :
    SameBut b c (d.put l content) (e.put l content) :=
  h.insert hl (.file content)

end SameBut

end SceneScript.Disk
