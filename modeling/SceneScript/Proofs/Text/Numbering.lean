import SceneScript.Proofs.Text.Cutting

set_option autoImplicit false
set_option relaxedAutoImplicit false

/-!
# Numbered lines

Where the lines of a text stand in it, and which lines texts have that are put together from lines.
Main statements: `mem_numberedLines_iff` says that the numbered lines are those that stand in the
text under their numbers, `numberedLines_append` numbers the lines of one text below another, and
`numberedLines_intercalate` reads back the lines that a text is joined from.
-/

namespace SceneScript.Text

/-- A line stands in a text as the `n`-th one, counted from one: it starts the text or follows a
line feed, `n - 1` line feeds are above it, and just carriage returns, none of which belongs to it,
part it from the next line feed or the end. -/
def StandsAt (text : List Char) (n : Nat) (line : List Char) : Prop :=
  ∃ above returns below, text = above ++ (line ++ returns ++ below) ∧
    (above = [] ∨ ∃ start, above = start ++ ['\n']) ∧ (below = [] ∨ ∃ rest, below = '\n' :: rest) ∧
    '\n' ∉ line ∧ (∀ c ∈ returns, c = '\r') ∧ (∀ start, line ≠ start ++ ['\r']) ∧
    n = above.count '\n' + 1

/-- A text that can be a line of a script: it is on one line, no carriage return ends it, and it is
not blank. -/
structure IsLine (cs : List Char) : Prop where
  noLineFeed : '\n' ∉ cs
  chomped : chomp cs = cs
  notBlank : isBlankText cs = false

/-! Pieces -/

/-- The pieces of a cut stand in the text in order, each between two marks or ends, with as many
marks before it as pieces. -/
theorem exists_of_getElem?_splitWhere {p : Char -> Bool} {cs piece : List Char} {i : Nat}
    (h : (splitWhere p cs)[i]? = some piece) :
    ∃ above below, cs = above ++ (piece ++ below) ∧
      (above = [] ∨ ∃ start mark, p mark = true ∧ above = start ++ [mark]) ∧
      (below = [] ∨ ∃ mark rest, p mark = true ∧ below = mark :: rest) ∧
      (∀ c ∈ piece, p c = false) ∧ above.countP p = i := by
  induction i generalizing cs with
  | zero =>
    rcases no_mark_or_first_mark p cs with hsolid | ⟨w, mark, rest, rfl, hw, hmark⟩
    · rw [splitWhere_of_forall hsolid] at h
      obtain rfl : cs = piece := Option.some.inj h
      exact ⟨[], [], (List.append_nil cs).symm, .inl rfl, .inl rfl, hsolid, rfl⟩
    · rw [splitWhere_append_mark w hmark, splitWhere_of_forall hw] at h
      obtain rfl : w = piece := Option.some.inj h
      exact ⟨[], mark :: rest, rfl, .inl rfl, .inr ⟨mark, rest, hmark, rfl⟩, hw, rfl⟩
  | succ i ih =>
    rcases no_mark_or_first_mark p cs with hsolid | ⟨w, mark, rest, rfl, hw, hmark⟩
    · rw [splitWhere_of_forall hsolid] at h
      cases h
    · -- the piece is one of those below the first mark, where it has one mark less above it
      rw [splitWhere_append_mark w hmark, splitWhere_of_forall hw, List.singleton_append,
        List.getElem?_cons_succ] at h
      obtain ⟨above, below, rfl, habove, hbelow, hpiece, rfl⟩ := ih h
      refine ⟨w ++ mark :: above, below, by simp, .inr ?_, hbelow, hpiece, ?_⟩
      · rcases habove with rfl | ⟨start, last, hlast, rfl⟩
        · exact ⟨w, mark, hmark, rfl⟩
        · exact ⟨w ++ mark :: start, last, hlast, by simp⟩
      · have hnone : w.countP p = 0 := List.countP_eq_zero.mpr (by simpa using hw)
        rw [List.countP_append, List.countP_cons_of_pos hmark, hnone, Nat.zero_add]

/-- A text is cut into one piece more than it has marks. -/
theorem length_splitWhere (p : Char -> Bool) (cs : List Char) :
    (splitWhere p cs).length = cs.countP p + 1 := by
  induction cs with
  | nil => rfl
  | cons c cs ih =>
    rw [splitWhere]
    by_cases hc : p c = true
    · rw [if_pos hc, List.length_cons, ih, List.countP_cons_of_pos hc]
    · obtain ⟨w, ws, hcut⟩ := exists_splitWhere_eq_cons p cs
      rw [if_neg hc, List.countP_cons_of_neg hc, ← ih, hcut]
      rfl

/-- A line is what is left of its piece of the text before some carriage returns. -/
theorem chomp_spec (cs : List Char) :
    ∃ returns, cs = chomp cs ++ returns ∧ (∀ c ∈ returns, c = '\r') ∧
      ∀ start, chomp cs ≠ start ++ ['\r'] := by
  refine ⟨cs.rtakeWhile (fun c => c == '\r'), ?_, ?_, ?_⟩
  · exact (List.rdropWhile_append_rtakeWhile ..).symm
  · intro c hc
    simpa using List.mem_rtakeWhile_imp hc
  · intro start h
    have hlast := List.rdropWhile_last_not (fun c => c == '\r') cs
    rw [← dropEndWhile_eq_rdropWhile, ← chomp, h] at hlast
    simp at hlast

/-- A line that no carriage return ends is left as it is. -/
theorem chomp_eq_self {cs : List Char} (h : ∀ start, cs ≠ start ++ ['\r']) : chomp cs = cs := by
  rw [chomp, dropEndWhile_eq_rdropWhile, List.rdropWhile_eq_self_iff]
  intro hne hcr
  apply h cs.dropLast
  rw [← beq_iff_eq.mp hcr]
  exact (List.dropLast_append_getLast hne).symm

/-! Numbers -/

theorem mem_numberFrom {n m : Nat} {l : List Char} {ls : List (List Char)} :
    (m, l) ∈ numberFrom n ls ↔ ∃ i, ls[i]? = some l ∧ m = n + i ∧ isBlankText l = false := by
  induction ls generalizing n with
  | nil => simp [numberFrom]
  | cons k ls ih =>
    have hrest : (m, l) ∈ numberFrom (n + 1) ls ↔
        ∃ i, (k :: ls)[i + 1]? = some l ∧ m = n + (i + 1) ∧ isBlankText l = false := by
      simp only [ih, List.getElem?_cons_succ, Nat.add_comm, Nat.add_left_comm]
    rw [numberFrom]
    constructor
    · intro h
      split at h
      · obtain ⟨i, hi⟩ := hrest.mp h
        exact ⟨i + 1, hi⟩
      · rename_i hk
        rcases List.mem_cons.mp h with heq | h
        · obtain ⟨rfl, rfl⟩ := Prod.mk.inj heq
          exact ⟨0, rfl, rfl, by simpa using hk⟩
        · obtain ⟨i, hi⟩ := hrest.mp h
          exact ⟨i + 1, hi⟩
    · rintro ⟨i, hi, rfl, hl⟩
      cases i with
      | zero =>
        obtain rfl : k = l := Option.some.inj hi
        simp [hl]
      | succ i =>
        have hmem := hrest.mpr ⟨i, hi, rfl, hl⟩
        split
        · exact hmem
        · exact List.mem_cons_of_mem _ hmem

theorem numberFrom_append (n : Nat) (above below : List (List Char)) :
    numberFrom n (above ++ below) = numberFrom n above ++ numberFrom (n + above.length) below := by
  induction above generalizing n with
  | nil => rfl
  | cons l above ih =>
    have hn : n + (l :: above).length = n + 1 + above.length := by
      rw [List.length_cons]
      omega
    rw [List.cons_append, numberFrom, numberFrom, ih, hn]
    split <;> rfl

/-- All numbers go up with the first one. -/
theorem numberFrom_add (n k : Nat) (ls : List (List Char)) :
    numberFrom (n + k) ls = (numberFrom n ls).map (fun l => (l.1 + k, l.2)) := by
  induction ls generalizing n with
  | nil => rfl
  | cons l ls ih =>
    have hrest := ih (n + 1)
    rw [Nat.add_right_comm] at hrest
    rw [numberFrom, numberFrom, hrest]
    split <;> rfl

/-- The numbered lines are the ones that are not blank, whatever the first number is. -/
theorem map_snd_numberFrom (n : Nat) (ls : List (List Char)) :
    (numberFrom n ls).map Prod.snd = ls.filter (fun l => !isBlankText l) := by
  induction ls generalizing n with
  | nil => rfl
  | cons l ls ih =>
    rw [numberFrom]
    by_cases hl : isBlankText l = true
    · simp [hl, ih]
    · simp [hl, ih]

/-- Numbers go up from line to line. -/
theorem pairwise_numberFrom (n : Nat) (ls : List (List Char)) :
    (numberFrom n ls).Pairwise (fun a b => a.1 < b.1) := by
  induction ls generalizing n with
  | nil => exact List.Pairwise.nil
  | cons l ls ih =>
    rw [numberFrom]
    split
    · exact ih (n + 1)
    · refine List.pairwise_cons.mpr ⟨?_, ih (n + 1)⟩
      rintro ⟨m, k⟩ hm
      obtain ⟨i, -, rfl, -⟩ := mem_numberFrom.mp hm
      change n < n + 1 + i
      omega

theorem numberFrom_of_notBlank (n : Nat) {ls : List (List Char)}
    (h : ∀ l ∈ ls, isBlankText l = false) : numberFrom n ls = (ls.zipIdx n).map Prod.swap := by
  induction ls generalizing n with
  | nil => rfl
  | cons l ls ih =>
    have hl : isBlankText l = false := h l List.mem_cons_self
    have hls := ih (n + 1) (fun k hk => h k (List.mem_cons_of_mem l hk))
    simp [numberFrom, hl, hls]

/-! Lines -/

/-- The lines of a text are its pieces between line feeds, less the carriage returns at their
ends. -/
theorem lines_eq_map_splitOn (cs : List Char) : lines cs = (cs.splitOn '\n').map chomp := by
  rw [lines, splitWhere_eq_splitOnP, List.splitOn_eq_splitOnP]

theorem lines_append (above below : List Char) :
    lines (above ++ '\n' :: below) = lines above ++ lines below := by
  rw [lines, splitWhere_append_mark above rfl, List.map_append, lines, lines]

theorem lines_of_not_mem {cs : List Char} (h : '\n' ∉ cs) : lines cs = [chomp cs] := by
  have hcs : ∀ c ∈ cs, (c == '\n') = false := by
    intro c hc
    simpa using fun e : c = '\n' => h (e ▸ hc)
  rw [lines, splitWhere_of_forall hcs, List.map_singleton]

/-- A text has one line more than it has line feeds. -/
theorem length_lines (cs : List Char) : (lines cs).length = cs.count '\n' + 1 := by
  rw [lines, List.length_map, length_splitWhere, List.count]

/-- The lines of a text below another keep their order, and their numbers go on from above. -/
theorem numberedLines_append (above below : List Char) :
    numberedLines (above ++ '\n' :: below) =
      numberedLines above ++
        (numberedLines below).map (fun l => (l.1 + (1 + above.count '\n'), l.2)) := by
  rw [numberedLines, lines_append, numberFrom_append, length_lines, numberFrom_add,
    Nat.add_comm (above.count '\n') 1]
  rfl

/-! Places -/

/-- A line stands in the text under its place in the list of lines. -/
theorem standsAt_of_getElem?_lines {text line : List Char} {i : Nat}
    (h : (lines text)[i]? = some line) : StandsAt text (i + 1) line := by
  rw [lines, List.getElem?_map, Option.map_eq_some_iff] at h
  obtain ⟨piece, hpiece, rfl⟩ := h
  obtain ⟨above, below, rfl, habove, hbelow, hsolid, hcount⟩ :=
    exists_of_getElem?_splitWhere hpiece
  obtain ⟨returns, hreturns, hcr, hlast⟩ := chomp_spec piece
  refine ⟨above, returns, below, by rw [← hreturns], ?_, ?_, ?_, hcr, hlast, ?_⟩
  · rcases habove with rfl | ⟨start, mark, hmark, rfl⟩
    · exact .inl rfl
    · exact .inr ⟨start, by rw [beq_iff_eq.mp hmark]⟩
  · rcases hbelow with rfl | ⟨mark, rest, hmark, rfl⟩
    · exact .inl rfl
    · exact .inr ⟨rest, by rw [beq_iff_eq.mp hmark]⟩
  · intro hmem
    have hin : '\n' ∈ piece := by
      rw [hreturns]
      exact List.mem_append_left _ hmem
    simpa using hsolid '\n' hin
  · rw [List.count, hcount]

/-- A line at the front of a text, with the carriage returns that part it from what is below, is the
first one. -/
theorem exists_lines_eq_cons {line returns below : List Char} (hline : '\n' ∉ line)
    (hreturns : ∀ c ∈ returns, c = '\r') (hlast : ∀ start, line ≠ start ++ ['\r'])
    (hbelow : below = [] ∨ ∃ rest, below = '\n' :: rest) :
    ∃ rest, lines (line ++ returns ++ below) = line :: rest := by
  have hfeed : '\n' ∉ line ++ returns := by
    intro hmem
    rcases List.mem_append.mp hmem with hmem | hmem
    · exact hline hmem
    · cases hreturns '\n' hmem
  have hchomp : chomp (line ++ returns) = line := by
    rw [chomp, dropEndWhile_append_of_dropped line (fun c hc => by rw [hreturns c hc]; rfl)]
    exact chomp_eq_self hlast
  rcases hbelow with rfl | ⟨rest, rfl⟩
  · rw [List.append_nil, lines_of_not_mem hfeed, hchomp]
    exact ⟨[], rfl⟩
  · rw [lines_append, lines_of_not_mem hfeed, hchomp]
    exact ⟨lines rest, rfl⟩

/-- A line stands in a text in one place of the list of lines. -/
theorem standsAt_iff {text line : List Char} {n : Nat} :
    StandsAt text n line ↔ ∃ i, n = i + 1 ∧ (lines text)[i]? = some line := by
  constructor
  · rintro ⟨above, returns, below, rfl, habove, hbelow, hfeed, hcr, hlast, rfl⟩
    refine ⟨above.count '\n', rfl, ?_⟩
    obtain ⟨rest, hlines⟩ := exists_lines_eq_cons hfeed hcr hlast hbelow
    rcases habove with rfl | ⟨start, rfl⟩
    · rw [List.nil_append, hlines]
      rfl
    · -- as many lines are above as line feeds
      have hlength : (start ++ ['\n']).count '\n' = (lines start).length := by
        rw [length_lines, List.count_append, List.count_singleton_self]
      rw [List.append_assoc, List.singleton_append, lines_append, hlines, hlength,
        List.getElem?_append_right (Nat.le_refl _), Nat.sub_self]
      rfl
  · rintro ⟨i, rfl, hi⟩
    exact standsAt_of_getElem?_lines hi

/-- The numbered lines of a text are those that stand in it under their numbers and are not
blank. -/
theorem mem_numberedLines_iff {text line : List Char} {n : Nat} :
    (n, line) ∈ numberedLines text ↔ StandsAt text n line ∧ isBlankText line = false := by
  rw [numberedLines, mem_numberFrom, standsAt_iff]
  constructor
  · rintro ⟨i, hi, rfl, hblank⟩
    exact ⟨⟨i, Nat.add_comm 1 i, hi⟩, hblank⟩
  · rintro ⟨⟨i, rfl, hi⟩, hblank⟩
    exact ⟨i, hi, Nat.add_comm i 1, hblank⟩

/-- A numbered line stands in the text under its number. -/
theorem standsAt_of_mem_numberedLines {text line : List Char} {n : Nat}
    (h : (n, line) ∈ numberedLines text) : StandsAt text n line :=
  (mem_numberedLines_iff.mp h).1

theorem isLine_of_mem_numberedLines {text line : List Char} {n : Nat}
    (h : (n, line) ∈ numberedLines text) : IsLine line := by
  obtain ⟨⟨above, returns, below, -, -, -, hfeed, -, hlast, -⟩, hblank⟩ :=
    mem_numberedLines_iff.mp h
  exact ⟨hfeed, chomp_eq_self hlast, hblank⟩

/-! Joined lines -/

theorem lines_intercalate {ls : List (List Char)} (hne : ls ≠ []) (h : ∀ l ∈ ls, IsLine l) :
    lines (['\n'].intercalate ls) = ls := by
  have hcut : (['\n'].intercalate ls).splitOn '\n' = ls :=
    List.splitOn_intercalate '\n' (fun l hl => (h l hl).noLineFeed) hne
  have hchomp : ls.map chomp = ls.map id := List.map_congr_left (fun l hl => (h l hl).chomped)
  rw [lines_eq_map_splitOn, hcut, hchomp, List.map_id]

/-- Lines that are joined by line feeds are read back. -/
theorem numberedLines_intercalate {ls : List (List Char)} (h : ∀ l ∈ ls, IsLine l) :
    numberedLines (['\n'].intercalate ls) = (ls.zipIdx 1).map Prod.swap := by
  by_cases hne : ls = []
  · subst hne
    rfl
  · rw [numberedLines, lines_intercalate hne h]
    exact numberFrom_of_notBlank 1 (fun l hl => (h l hl).notBlank)

theorem lines_flatMap {ls : List (List Char)} (h : ∀ l ∈ ls, IsLine l) :
    lines (ls.flatMap (fun l => l ++ ['\n'])) = ls ++ [[]] := by
  induction ls with
  | nil => rfl
  | cons l ls ih =>
    have hl : IsLine l := h l List.mem_cons_self
    rw [List.flatMap_cons, List.append_assoc, List.singleton_append, lines_append,
      lines_of_not_mem hl.noLineFeed, hl.chomped, ih (fun k hk => h k (List.mem_cons_of_mem l hk))]
    rfl

/-- Lines that each end in a line feed are read back. -/
theorem numberedLines_flatMap {ls : List (List Char)} (h : ∀ l ∈ ls, IsLine l) :
    numberedLines (ls.flatMap (fun l => l ++ ['\n'])) = (ls.zipIdx 1).map Prod.swap := by
  rw [numberedLines, lines_flatMap h, numberFrom_append,
    numberFrom_of_notBlank 1 (fun l hl => (h l hl).notBlank)]
  exact List.append_nil _

end SceneScript.Text
