import Mathlib.Algebra.Order.Field.Rat
import Mathlib.Tactic.NormNum
import SceneScript.Proofs.Text.Cutting
import SceneScript.Script.Indentation

set_option autoImplicit false
set_option relaxedAutoImplicit false

/-!
# Levels of indentation

Which lines are indented, and to which levels. The blanks that a line starts with count, and they
have to be spaces, four for each level. The same is found by measuring: what a line loses when its
leading blanks are dropped is cut off by its length, another blank in it is seen when spaces are
taken off at both ends, and the length is divided by the width of a level. Main statement:
`isIndentedTo_by_leading_run`.
-/

namespace SceneScript

/-- The longest start of a line in which all characters are blank. -/
structure IsLeadingRun (line : String) (run : List Char) : Prop where
  blank : ∀ c ∈ run, Text.isBlank c = true
  longest : ∃ rest, line.toList = run ++ rest ∧ ∀ c ∈ rest.head?, Text.isBlank c = false

/-- Takes a character off at both ends of a text, as often as it stands there. -/
def stripMark (mark : Char) (cs : List Char) : List Char :=
  Text.dropEndWhile (fun c => c == mark) (cs.dropWhile (fun c => c == mark))

/-- As much of the start of a line as the line gets shorter by when its leading blanks are
dropped. -/
def lostStart (line : String) : List Char :=
  line.toList.take (line.toList.length - (line.toList.dropWhile Text.isBlank).length)

/-- The length of what is lost at the start of a line, and nothing if more than spaces is lost. -/
def measuredIndentation? (line : String) : Option Nat :=
  if (stripMark ' ' (lostStart line)).isEmpty then some (lostStart line).length else none

/-- The indentation that is measured is even, and divided by the width of a level it is the level.
The quotient is exact and need not be a whole number. -/
def MeasuresTo (line : String) (level : Int) : Prop :=
  ∃ spaces, measuredIndentation? line = some spaces ∧ spaces % 2 = 0 ∧
    (spaces : ℚ) / indentWidth = level

variable {line : String}

/-! Leading blanks -/

theorem isLeadingRun_iff {run : List Char} :
    IsLeadingRun line run ↔ leadingBlanks line = run := by
  rw [leadingBlanks]
  constructor
  · rintro ⟨hblank, rest, hline, hrest⟩
    have hstop : rest.takeWhile Text.isBlank = [] := by
      cases rest with
      | nil => rfl
      | cons c rest => exact List.takeWhile_cons_of_neg (by simp [hrest c rfl])
    rw [hline, List.takeWhile_append_of_pos hblank, hstop, List.append_nil]
  · rintro rfl
    refine ⟨fun c hc => List.mem_takeWhile_imp hc, line.toList.dropWhile Text.isBlank,
      List.takeWhile_append_dropWhile.symm, ?_⟩
    intro c hc
    have hhead := List.head?_dropWhile_not Text.isBlank line.toList
    rw [hc] at hhead
    simpa using hhead

theorem indentation?_eq_some_iff {n : Nat} :
    indentation? line = some n ↔ leadingBlanks line = List.replicate n ' ' := by
  rw [indentation?]
  constructor
  · intro h
    split at h
    · rename_i hspaces
      obtain rfl := Option.some.inj h
      rw [List.eq_replicate_iff]
      exact ⟨rfl, fun c hc => beq_iff_eq.mp (List.all_eq_true.mp hspaces c hc)⟩
    · cases h
  · intro h
    rw [h]
    simp

theorem isIndentedTo_iff_exists {level : Int} :
    isIndentedTo line level = true ↔
      ∃ spaces, indentation? line = some spaces ∧ (spaces : Int) = 4 * level := by
  rw [isIndentedTo]
  cases indentation? line with
  | none => simp
  | some spaces =>
    simp only [Bool.and_eq_true, beq_iff_eq, indentWidth, Option.some.injEq, exists_eq_left']
    omega

/-- A line is indented to a level if it starts with four spaces for each level and no other
blank. -/
theorem isIndentedTo_iff {level : Int} :
    isIndentedTo line level = true ↔
      ∃ n : Nat, level = n ∧ leadingBlanks line = List.replicate (4 * n) ' ' := by
  simp only [isIndentedTo_iff_exists, indentation?_eq_some_iff]
  constructor
  · rintro ⟨spaces, hblanks, hlevel⟩
    refine ⟨spaces / 4, by omega, ?_⟩
    rw [hblanks]
    congr 1
    omega
  · rintro ⟨n, rfl, hblanks⟩
    exact ⟨4 * n, hblanks, by omega⟩

theorem indentation?_eq_none_iff :
    indentation? line = none ↔ ∃ c ∈ leadingBlanks line, c ≠ ' ' := by
  rw [indentation?]
  constructor
  · intro h
    split at h
    · cases h
    · rename_i hother
      rw [Bool.not_eq_true, List.all_eq_false] at hother
      simpa using hother
  · rintro ⟨c, hc, hne⟩
    rw [if_neg]
    intro hspaces
    exact hne (beq_iff_eq.mp (List.all_eq_true.mp hspaces c hc))

/-! Measuring -/

theorem lostStart_eq (line : String) : lostStart line = leadingBlanks line := by
  have hlength := congrArg List.length
    (List.takeWhile_append_dropWhile (p := Text.isBlank) (l := line.toList))
  rw [List.length_append] at hlength
  rw [lostStart, leadingBlanks, ← hlength, Nat.add_sub_cancel]
  exact (List.prefix_iff_eq_take.mp (List.takeWhile_prefix Text.isBlank)).symm

theorem stripMark_eq_nil_iff {mark : Char} {cs : List Char} :
    stripMark mark cs = [] ↔ ∀ c ∈ cs, c = mark := by
  rw [stripMark, Text.dropEndWhile_eq_rdropWhile, List.rdropWhile_eq_nil_iff]
  constructor
  · intro h c hc
    rw [← List.takeWhile_append_dropWhile (p := fun d => d == mark) (l := cs)] at hc
    rcases List.mem_append.mp hc with hstart | hrest
    · have hmark := List.mem_takeWhile_imp hstart
      simpa using hmark
    · exact beq_iff_eq.mp (h c hrest)
  · intro h c hc
    exact beq_iff_eq.mpr (h c ((List.dropWhile_sublist _).subset hc))

/-- Spaces taken off at both ends leave something just if another blank is somewhere among them. -/
theorem measuredIndentation?_eq (line : String) :
    measuredIndentation? line = indentation? line := by
  rw [measuredIndentation?, indentation?, lostStart_eq]
  have hspaces : (stripMark ' ' (leadingBlanks line)).isEmpty =
      (leadingBlanks line).all (fun c => c == ' ') := by
    rw [Bool.eq_iff_iff, List.isEmpty_iff, stripMark_eq_nil_iff, List.all_eq_true]
    simp only [beq_iff_eq]
  rw [hspaces]

theorem div_indentWidth_eq_iff {spaces : Nat} {level : Int} :
    (spaces : ℚ) / indentWidth = level ↔ (spaces : Int) = 4 * level := by
  have hwidth : (indentWidth : ℚ) ≠ 0 := by norm_num [indentWidth]
  rw [div_eq_iff hwidth, indentWidth, Int.mul_comm]
  norm_cast

/-- A number of spaces that is four for each level is even, so the test for that decides nothing. -/
theorem even_and_div_eq_iff {spaces : Nat} {level : Int} :
    (spaces % 2 = 0 ∧ (spaces : ℚ) / indentWidth = level) ↔ (spaces : Int) = 4 * level := by
  rw [div_indentWidth_eq_iff]
  constructor
  · rintro ⟨-, h⟩
    exact h
  · intro h
    exact ⟨by omega, h⟩

/-- A line is indented to a level if and only if the blanks that it starts with are just four spaces
for each level. It has no indentation if another blank is among them, and else their number. To
measure a line and to divide exactly gives the same, and that the number is even follows. -/
theorem isIndentedTo_by_leading_run (line : String) (level : Int) :
    (∀ run, IsLeadingRun line run ↔ leadingBlanks line = run) ∧
    (isIndentedTo line level = true ↔
      ∃ spaces : Nat, (spaces : Int) = 4 * level ∧
        leadingBlanks line = List.replicate spaces ' ') ∧
    (indentation? line = none ↔ ∃ c ∈ leadingBlanks line, c ≠ ' ') ∧
    (∀ spaces, indentation? line = some spaces ↔
      leadingBlanks line = List.replicate spaces ' ') ∧
    measuredIndentation? line = indentation? line ∧
    (isIndentedTo line level = true ↔ MeasuresTo line level) ∧
    ∀ spaces : Nat,
      (spaces % 2 = 0 ∧ (spaces : ℚ) / indentWidth = level) ↔ (spaces : Int) = 4 * level := by
  refine ⟨fun run => isLeadingRun_iff, ?_, indentation?_eq_none_iff,
    fun spaces => indentation?_eq_some_iff, measuredIndentation?_eq line, ?_,
    fun spaces => even_and_div_eq_iff⟩
  · rw [isIndentedTo_iff_exists]
    simp only [indentation?_eq_some_iff, and_comm]
  · simp only [isIndentedTo_iff_exists, MeasuresTo, measuredIndentation?_eq, even_and_div_eq_iff]

/-- Six spaces are an even number and no level, not even with a fraction cut off. A tab between
spaces leaves a line without an indentation, and a line of blanks alone has one. -/
theorem isIndentedTo_by_leading_run_of_sixSpaces :
    (indentation? "      x" = some 6 ∧ ¬ MeasuresTo "      x" 1 ∧ ¬ MeasuresTo "      x" 2) ∧
      indentation? "  \t x" = none ∧ isIndentedTo "        " 2 = true := by
  have hsix : indentation? "      x" = some 6 := by decide +kernel
  obtain ⟨-, -, -, -, -, hone, -⟩ := isIndentedTo_by_leading_run "      x" 1
  obtain ⟨-, -, -, -, -, htwo, -⟩ := isIndentedTo_by_leading_run "      x" 2
  obtain ⟨-, -, hnone, -⟩ := isIndentedTo_by_leading_run "  \t x" 0
  obtain ⟨-, height, -⟩ := isIndentedTo_by_leading_run "        " 2
  rw [← hone, ← htwo]
  refine ⟨⟨hsix, by decide +kernel, by decide +kernel⟩, hnone.mpr ⟨'\t', ?_⟩, height.mpr ⟨8, ?_⟩⟩
  · decide +kernel
  · decide +kernel

end SceneScript
