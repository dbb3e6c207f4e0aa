import Mathlib.Data.List.Forall2
import SceneScript.Proofs.Text.Cutting

set_option autoImplicit false
set_option relaxedAutoImplicit false

/-!
# Line ends

Lines are the same whatever carriage returns stand at their ends, and a text from a file is the same
whichever of the three line ends its lines have. Main statements: `lines_of_returnsAdded` and
`unifyNewlines_withLineEnds`.
-/

namespace SceneScript.Text

/-- A text becomes another one by carriage returns that are put before line feeds or at the end. -/
inductive ReturnsAdded : List Char → List Char → Prop
  | atEnd (n : Nat) : ReturnsAdded [] (List.replicate n '\r')
  | beforeFeed (n : Nat) {cs ds : List Char} (rest : ReturnsAdded cs ds) :
      ReturnsAdded ('\n' :: cs) (List.replicate n '\r' ++ '\n' :: ds)
  | keep (c : Char) {cs ds : List Char} (rest : ReturnsAdded cs ds) :
      ReturnsAdded (c :: cs) (c :: ds)

theorem returnsAdded_append (cs : List Char) {ds es : List Char} (h : ReturnsAdded ds es) :
    ReturnsAdded (cs ++ ds) (cs ++ es) := by
  induction cs with
  | nil => exact h
  | cons c cs ih => exact .keep c ih

/-- What ends a line in a file: a line feed, a carriage return and a line feed, or a carriage return
alone. -/
inductive LineEnd
  | lf
  | crlf
  | cr
  deriving DecidableEq, Repr

/-- The characters of a line end. -/
def LineEnd.text : LineEnd -> List Char
  | .lf => ['\n']
  | .crlf => ['\r', '\n']
  | .cr => ['\r']

/-- A text with a line end in place of each line feed. -/
def withLineEnds (e : LineEnd) (cs : List Char) : List Char :=
  cs.flatMap (fun c => if c = '\n' then e.text else [c])

/-! Carriage returns at the ends of lines -/

theorem chomp_append_replicate (cs : List Char) (n : Nat) :
    chomp (cs ++ List.replicate n '\r') = chomp cs := by
  apply dropEndWhile_append_of_dropped
  intro c hc
  rw [(List.mem_replicate.mp hc).2]
  rfl

/-- The pieces of the two texts differ in the carriage returns at their ends. -/
theorem ReturnsAdded.splitWhere {cs ds : List Char} (h : ReturnsAdded cs ds) :
    List.Forall₂ (fun w v => ∃ n, v = w ++ List.replicate n '\r')
      (Text.splitWhere (fun c => c == '\n') cs) (Text.splitWhere (fun c => c == '\n') ds) := by
  have hreturns : ∀ n, ∀ c ∈ List.replicate n '\r', (c == '\n') = false := by
    intro n c hc
    rw [(List.mem_replicate.mp hc).2]
    rfl
  induction h with
  | atEnd n =>
    rw [splitWhere_of_forall (hreturns n)]
    exact .cons ⟨n, rfl⟩ .nil
  | beforeFeed n _ ih =>
    rw [splitWhere_append_mark _ rfl, splitWhere_of_forall (hreturns n)]
    exact .cons ⟨n, rfl⟩ ih
  | @keep c cs ds _ ih =>
    rw [Text.splitWhere, Text.splitWhere]
    split
    · exact .cons ⟨0, by simp⟩ ih
    · obtain ⟨w, ws, hw⟩ := exists_splitWhere_eq_cons (fun c => c == '\n') cs
      obtain ⟨v, vs, hv⟩ := exists_splitWhere_eq_cons (fun c => c == '\n') ds
      rw [hw, hv] at ih ⊢
      obtain ⟨⟨n, rfl⟩, hrest⟩ := List.forall₂_cons.mp ih
      exact .cons ⟨n, rfl⟩ hrest

theorem lines_of_returnsAdded {cs ds : List Char} (h : ReturnsAdded cs ds) :
    lines ds = lines cs := by
  rw [lines, lines]
  symm
  rw [← List.forall₂_eq_eq_eq, List.forall₂_map_left_iff, List.forall₂_map_right_iff]
  refine h.splitWhere.imp ?_
  rintro w v ⟨n, rfl⟩
  rw [chomp_append_replicate]

/-! Line ends of files -/

theorem withLineEnds_cons (e : LineEnd) (c : Char) (cs : List Char) :
    withLineEnds e (c :: cs) = (if c = '\n' then e.text else [c]) ++ withLineEnds e cs :=
  List.flatMap_cons

/-- With carriage returns alone no line feed is left, so none is taken for the second half of a line
end. -/
theorem head?_withLineEnds_cr (cs : List Char) : (withLineEnds .cr cs).head? ≠ some '\n' := by
  cases cs with
  | nil => simp [withLineEnds]
  | cons c cs =>
    rw [withLineEnds_cons]
    split
    · simp [LineEnd.text]
    · rename_i hc
      simpa using hc

theorem unifyNewlines_plain {c : Char} (hc : c ≠ '\r') (cs : List Char) :
    unifyNewlines (c :: cs) = c :: unifyNewlines cs := by
  rw [unifyNewlines]
  · rintro ds rfl
    exact absurd rfl hc
  · rintro rfl
    exact absurd rfl hc

theorem unifyNewlines_return {cs : List Char} (h : cs.head? ≠ some '\n') :
    unifyNewlines ('\r' :: cs) = '\n' :: unifyNewlines cs := by
  rw [unifyNewlines]
  rintro ds rfl
  exact absurd rfl h

/-- A text without carriage returns is read from a file whatever its line ends are there. -/
theorem unifyNewlines_withLineEnds (e : LineEnd) {cs : List Char} (h : '\r' ∉ cs) :
    unifyNewlines (withLineEnds e cs) = cs := by
  induction cs with
  | nil => rfl
  | cons c cs ih =>
    rw [List.mem_cons, not_or] at h
    have hrest := ih h.2
    rw [withLineEnds_cons]
    split
    · rename_i hfeed
      subst hfeed
      cases e with
      | lf =>
        rw [LineEnd.text, List.singleton_append, unifyNewlines_plain (by decide), hrest]
      | crlf =>
        show unifyNewlines ('\r' :: '\n' :: withLineEnds .crlf cs) = '\n' :: cs
        rw [unifyNewlines, hrest]
      | cr =>
        rw [LineEnd.text, List.singleton_append,
          unifyNewlines_return (head?_withLineEnds_cr cs), hrest]
    · rw [List.singleton_append, unifyNewlines_plain (Ne.symm h.1), hrest]

end SceneScript.Text
