import SceneScript.Proofs.Script.Step

set_option autoImplicit false
set_option relaxedAutoImplicit false

/-!
# The lines of a script

Which lines a script has and under which numbers. A script is cut at its line feeds, a piece loses
the carriage returns at its end, and it is a line unless nothing but blanks is left of it. Main
statement: `scriptLines_by_pieces`.
-/

namespace SceneScript

variable {script line : String} {n : Nat}

/-- The numbered lines of a script are those that stand in it under their numbers and hold a
character that is not blank. -/
theorem mem_scriptLines_iff :
    (n, line) ∈ scriptLines script ↔
      Text.StandsAt script.toList n line.toList ∧ ∃ c ∈ line.toList, Text.isBlank c = false := by
  rw [mem_scriptLines, Text.mem_numberedLines_iff, Text.isBlankText, List.all_eq_false]
  simp only [Bool.not_eq_true]

/-- A line stands in a text as the `n`-th piece between line feeds, less the carriage returns at the
end of the piece. -/
theorem standsAt_iff_splitOn {text cs : List Char} :
    Text.StandsAt text n cs ↔
      ∃ i piece, n = i + 1 ∧ (text.splitOn '\n')[i]? = some piece ∧
        cs = piece.rdropWhile (fun c => c == '\r') := by
  rw [Text.standsAt_iff, Text.lines_eq_map_splitOn]
  constructor
  · rintro ⟨i, hn, hi⟩
    rw [List.getElem?_map, Option.map_eq_some_iff] at hi
    obtain ⟨piece, hpiece, rfl⟩ := hi
    exact ⟨i, piece, hn, hpiece, rfl⟩
  · rintro ⟨i, piece, hn, hpiece, rfl⟩
    refine ⟨i, hn, ?_⟩
    rw [List.getElem?_map, hpiece, Option.map_some, Text.chomp, Text.dropEndWhile_eq_rdropWhile]

/-- The lines of a script below another come after those of the other, each with a number that is
higher by one and the line feeds above. Numbers go up from line to line. A line has the number `n`
if and only if it is the `n`-th piece of the script between line feeds, less the carriage returns at
the end of the piece, and holds a character that is not blank; so it stands in the script below
`n - 1` line feeds. -/
theorem scriptLines_by_pieces :
    (∀ script more : String,
      scriptLines (script ++ "\n" ++ more) =
        scriptLines script ++
          (scriptLines more).map (fun l => (l.1 + (1 + script.toList.count '\n'), l.2))) ∧
    (∀ script : String, (scriptLines script).Pairwise (fun l m => l.1 < m.1)) ∧
    ∀ (script : String) (n : Nat) (line : String),
      ((n, line) ∈ scriptLines script ↔
        (∃ i piece, n = i + 1 ∧ (script.toList.splitOn '\n')[i]? = some piece ∧
          line.toList = piece.rdropWhile (fun c => c == '\r')) ∧
        ∃ c ∈ line.toList, Text.isBlank c = false) ∧
      ((n, line) ∈ scriptLines script ↔
        Text.StandsAt script.toList n line.toList ∧
          ∃ c ∈ line.toList, Text.isBlank c = false) := by
  refine ⟨scriptLines_append, pairwise_scriptLines, ?_⟩
  intro script n line
  rw [← standsAt_iff_splitOn]
  exact ⟨mem_scriptLines_iff, mem_scriptLines_iff⟩

/-- Blank lines, one of them of an ideographic space, count in the numbers, and a carriage return
within a line belongs to it. -/
example :
    scriptLines "\n a\r\r\n\u3000\r\nb\rc" = [(2, " a"), (4, "b\rc")] := by
  decide +kernel

end SceneScript
