import SceneScript.Proofs.Script.Indentation
import SceneScript.Proofs.Text.Numbering
import SceneScript.Script.Keyword
import SceneScript.Script.Statement
import SceneScript.Script.Writer

set_option autoImplicit false
set_option relaxedAutoImplicit false

/-!
# Reading written lines

Each line that a block is written in is a line of a script, is the statement of its keyword and is
read as what it was written from. The lines are given by their characters, cut where the reader cuts
them: `SceneBlock.toList_line`, `CharacterBlock.toList_line`, `Choice.toList_line` and
`toList_emotionLine`.
-/

namespace SceneScript

/-! Keywords of written lines -/

theorem Text.lower_append (left right : List Char) :
    lower (left ++ right) = lower left ++ lower right := by
  rw [lower, lower, lower, List.flatMap_append]

theorem Keyword.lower_text (k : Keyword) : Text.lower k.text.toList = k.text.toList := by
  cases k <;> rfl

section Written

variable {line : String} {k : Keyword} {n : Nat} {rest : List Char}

theorem starts_of_written (l : Keyword)
    (hline : line.toList = List.replicate n ' ' ++ (k.text.toList ++ rest))
    (hsolid : ∀ c ∈ k.text.toList, Text.isBlank c = false) :
    l.starts line = l.text.toList.isPrefixOf
      (k.text.toList ++ Text.lower (Text.dropEndWhile Text.isBlank rest)) := by
  have hne : k.text.toList ≠ [] := by cases k <;> simp [Keyword.text]
  rw [Keyword.starts, hline, Text.trim_replicate_space, Text.trim_solid_append hne hsolid,
    Text.lower_append, Keyword.lower_text]

theorem leadingBlanks_of_written
    (hline : line.toList = List.replicate n ' ' ++ (k.text.toList ++ rest))
    (hsolid : ∀ c ∈ k.text.toList, Text.isBlank c = false) :
    leadingBlanks line = List.replicate n ' ' := by
  have hspaces : ∀ c ∈ List.replicate n ' ', Text.isBlank c = true := by
    intro c hc
    rw [List.eq_of_mem_replicate hc]
    rfl
  have hword : (k.text.toList ++ rest).takeWhile Text.isBlank = [] := by
    have hne : k.text.toList ≠ [] := by cases k <;> simp [Keyword.text]
    obtain ⟨c, cs, hcs⟩ := List.exists_cons_of_ne_nil hne
    have hc : Text.isBlank c = false := hsolid c (hcs ▸ List.mem_cons_self)
    rw [hcs, List.cons_append, List.takeWhile_cons_of_neg (by simp [hc])]
  rw [leadingBlanks, hline, List.takeWhile_append_of_pos hspaces, hword, List.append_nil]

theorem isIndentedTo_of_leadingBlanks {level : Nat}
    (h : leadingBlanks line = List.replicate (level * indentWidth) ' ') :
    isIndentedTo line level = true := by
  rw [indentWidth, Nat.mul_comm] at h
  exact isIndentedTo_iff.mpr ⟨level, rfl, h⟩

/-- The statement on a line that starts with a word which is a keyword, at the keyword's level. -/
theorem ofLine?_of_written (k : Keyword) (level : Nat) (hlevel : k.level = level)
    (hline : line.toList = List.replicate (level * indentWidth) ' ' ++ (k.text.toList ++ rest))
    (hsolid : ∀ c ∈ k.text.toList, Text.isBlank c = false) : Keyword.ofLine? line = some k := by
  have hindent : isIndentedTo line k.level = true := by
    rw [hlevel]
    exact isIndentedTo_of_leadingBlanks (leadingBlanks_of_written hline hsolid)
  have hopens : ∀ l : Keyword, l.opens line =
      (l.text.toList.isPrefixOf
        (k.text.toList ++ Text.lower (Text.dropEndWhile Text.isBlank rest)) &&
          isIndentedTo line l.level) := by
    intro l
    rw [Keyword.opens, Keyword.opensAt, starts_of_written l hline hsolid]
  rw [Keyword.ofLine?, Keyword.all]
  simp only [hopens]
  cases k <;> simp [Keyword.text, hindent]

end Written

/-! Parts of written lines -/

section Words

variable {s : String}

theorem solid_of_all {cs : List Char} (h : cs.all (fun c => !Text.isBlank c) = true) :
    ∀ c ∈ cs, Text.isBlank c = false := by
  simpa using h

theorem isEmpty_toList (h : s ≠ "") : s.toList.isEmpty = false := by
  rw [← Bool.not_eq_true, List.isEmpty_iff, String.toList_eq_nil_iff]
  exact h

theorem IsPlainWord.toList_ne_nil (h : IsPlainWord s) : s.toList ≠ [] := by
  intro hnil
  exact h.1 (String.toList_eq_nil_iff.mp hnil)

theorem IsPlainWord.solid (h : IsPlainWord s) : ∀ c ∈ s.toList, Text.isBlank c = false :=
  fun c hc => (h.2 c hc).1

theorem IsPlainWord.not_mem_colon (h : IsPlainWord s) : ':' ∉ s.toList :=
  fun hc => (h.2 ':' hc).2.1 rfl

theorem IsPlainWord.not_mem_open (h : IsPlainWord s) : '<' ∉ s.toList :=
  fun hc => (h.2 '<' hc).2.2.1 rfl

theorem not_mem_lineFeed_of_solid {cs : List Char} (h : ∀ c ∈ cs, Text.isBlank c = false) :
    '\n' ∉ cs := by
  intro hc
  have hblank : Text.isBlank '\n' = false := h '\n' hc
  contradiction

theorem solid_colon {cs : List Char} (h : ∀ c ∈ cs, Text.isBlank c = false) :
    ∀ c ∈ cs ++ [':'], Text.isBlank c = false := by
  intro c hc
  rcases List.mem_append.mp hc with hc | hc
  · exact h c hc
  · rw [List.mem_singleton.mp hc]
    rfl

/-- Dropping colons leaves a text without colons as it is, and takes away the one at its end. -/
theorem dropColons_append {cs : List Char} (h : ':' ∉ cs) (b : Bool) :
    dropColons (cs ++ if b then [':'] else []) = cs := by
  have hcs : ∀ c ∈ cs, (c == ':') = false := by
    intro c hc
    simpa using fun e : c = ':' => h (e ▸ hc)
  rw [dropColons, Text.dropEndWhile_append_of_forall hcs]
  cases b <;> simp [Text.dropEndWhile]

/-- Trimming takes away the space that parts a text from the colon above it. -/
theorem trim_cons_space (h : IsTrimmedLine s) :
    Text.trim (' ' :: s.toList) = s.toList := by
  rw [Text.trim_cons_blank rfl, h.1]

theorem chomp_of_trim {cs : List Char} (h : Text.trim cs = cs) : Text.chomp cs = cs := by
  have htrim : (cs.dropWhile Text.isBlank).rdropWhile Text.isBlank = cs := h
  rw [Text.chomp, Text.dropEndWhile_eq_rdropWhile, List.rdropWhile_eq_self_iff]
  intro hne hlast
  have hsolid := List.rdropWhile_last_not Text.isBlank (cs.dropWhile Text.isBlank)
  simp only [htrim] at hsolid
  apply hsolid hne
  rw [beq_iff_eq.mp hlast]
  rfl

theorem chomp_cons_space (h : IsTrimmedLine s) :
    Text.chomp (' ' :: s.toList) = ' ' :: s.toList := by
  have hcons : Text.chomp (' ' :: s.toList) = ' ' :: Text.chomp s.toList :=
    Text.dropEndWhile_append [] (by decide) s.toList
  rw [hcons, chomp_of_trim h.1]

end Words

/-- A label is what stands on both sides of its first segment. -/
theorem splitParameter_text {s : Text.Segment} (hopen : '<' ∉ s.left) (hclose : '>' ∉ s.inner) :
    splitParameter s.text =
      (s.left ++ s.right, if s.inner.isEmpty then none else some s.inner) := by
  rw [splitParameter, Text.firstSegment?_text hopen hclose]

/-- A text with a colon that is on one line. -/
theorem isLine_append {above rest : List Char} (habove : '\n' ∉ above) (hrest : '\n' ∉ rest)
    (hchomp : Text.chomp rest = rest) : Text.IsLine (above ++ ':' :: rest) where
  noLineFeed := by
    simp [habove, hrest]
  chomped := by
    rw [Text.chomp, Text.dropEndWhile_append above (by decide), ← Text.chomp, hchomp]
  notBlank := by
    rw [Text.isBlankText, List.all_eq_false]
    exact ⟨':', by simp, by decide⟩

/-! Characters -/

section Characters

variable {b : CharacterBlock} {e : String × String}

theorem CharacterBlock.toList_line (b : CharacterBlock) :
    b.line.toList = "character".toList ++ ' ' :: (b.name.toList ++ [':']) := by
  rw [CharacterBlock.line, String.toList_append, String.toList_append, List.append_assoc]
  rfl

theorem toList_emotionLine (e : String × String) :
    (emotionLine e).toList = List.replicate 4 ' ' ++
      ("emotion".toList ++ ' ' :: (e.1.toList ++ ':' :: ' ' :: e.2.toList)) := by
  simp only [emotionLine, String.toList_append, List.append_assoc]
  rfl

/-- An emotion line, cut at its first colon. -/
theorem emotionLine_cut (e : String × String) :
    (emotionLine e).toList =
      (List.replicate 4 ' ' ++ ("emotion".toList ++ ' ' :: e.1.toList)) ++
        ':' :: ' ' :: e.2.toList := by
  rw [toList_emotionLine, List.append_assoc, List.append_assoc, List.cons_append]

theorem ofLine?_characterLine (b : CharacterBlock) :
    Keyword.ofLine? b.line = some .character :=
  ofLine?_of_written .character 0 rfl b.toList_line (solid_of_all rfl)

theorem ofLine?_emotionLine (e : String × String) :
    Keyword.ofLine? (emotionLine e) = some .emotion :=
  ofLine?_of_written .emotion 1 rfl (toList_emotionLine e) (solid_of_all rfl)

theorem isLine_characterLine (h : IsPlainWord b.name) : Text.IsLine b.line.toList := by
  have hname : '\n' ∉ b.name.toList := not_mem_lineFeed_of_solid h.solid
  have hline : b.line.toList = ("character".toList ++ ' ' :: b.name.toList) ++ ':' :: [] := by
    rw [b.toList_line, List.append_assoc, List.cons_append]
  rw [hline]
  exact isLine_append (by simp [hname]) (by simp) rfl

theorem isLine_emotionLine (hname : IsPlainWord e.1) (hpath : IsTrimmedLine e.2) :
    Text.IsLine (emotionLine e).toList := by
  have hfeed : '\n' ∉ e.1.toList := not_mem_lineFeed_of_solid hname.solid
  rw [emotionLine_cut]
  exact isLine_append (by simp [hfeed]) (by simp [hpath.2]) (chomp_cons_space hpath)

/-- A character declaration gives the name back. -/
theorem ofLine_characterLine (h : IsPlainWord b.name) :
    Character.ofLine b.line = .ok { name := b.name } := by
  have hopen : '<' ∉ "character".toList ++ ' ' :: (b.name.toList ++ [':']) := by
    simp [h.not_mem_open]
  have hcolon : ':' ∉ "character".toList ++ ' ' :: b.name.toList := by
    simp [h.not_mem_colon]
  have hafter : afterDeclaration? b.line.toList = some [] := by
    rw [afterDeclaration?, b.toList_line, Text.firstSegment?_of_not_mem hopen]
    have hrest := Text.after?_append hcolon []
    rwa [List.append_assoc, List.cons_append] at hrest
  have hword : Text.word 1 b.line.toList = b.name.toList ++ [':'] := by
    rw [Text.word, b.toList_line, Text.words_solid_append (by decide) (solid_of_all rfl) rfl,
      Text.words_of_solid (by simp) (solid_colon h.solid)]
    rfl
  have hinline : hasInlineText b.line = false := by
    rw [hasInlineText, hafter]
    rfl
  have hname := dropColons_append h.not_mem_colon true
  rw [if_pos rfl] at hname
  rw [Character.ofLine, hinline, hword, hname, String.ofList_toList]
  rfl

/-- An emotion line gives the name and the path back. -/
theorem ofLine_emotionLine (hname : IsPlainWord e.1) (hne : e.2 ≠ "") (hpath : IsTrimmedLine e.2) :
    EmotionEntry.ofLine (emotionLine e) = .ok ⟨e.1, e.2⟩ := by
  have hcolon : ':' ∉ List.replicate 4 ' ' ++ ("emotion".toList ++ ' ' :: e.1.toList) := by
    simp [hname.not_mem_colon]
  have hafter : afterColon (emotionLine e) = e.2.toList := by
    rw [afterColon, emotionLine_cut, Text.after?_append hcolon, Option.getD_some,
      trim_cons_space hpath]
  have hword : Text.word 1 (Text.before ':' (emotionLine e).toList) = e.1.toList := by
    rw [emotionLine_cut, Text.before_append hcolon, Text.word, Text.words_replicate_space,
      Text.words_solid_append (by decide) (solid_of_all rfl) rfl,
      Text.words_of_solid hname.toList_ne_nil hname.solid]
    rfl
  rw [EmotionEntry.ofLine, hafter, hword, isEmpty_toList hne, String.ofList_toList,
    String.ofList_toList]
  rfl

end Characters

/-! Choices -/

section Choices

variable {c : Choice}

/-- The segment before the colon of a choice line. -/
def Choice.segment (c : Choice) : Text.Segment :=
  ⟨List.replicate 4 ' ' ++ "choice".toList, c.target.toList, []⟩

theorem Choice.toList_line (c : Choice) :
    c.line.toList = c.segment.text ++ ':' :: ' ' :: c.label.toList := by
  simp only [Choice.line, String.toList_append, List.append_assoc, Choice.segment,
    Text.Segment.text]
  simp [indent, indentWidth]

theorem ofLine?_choiceLine (c : Choice) : Keyword.ofLine? c.line = some .choice := by
  have hline : c.line.toList = List.replicate 4 ' ' ++ ("choice".toList ++
      '<' :: (c.target.toList ++ '>' :: ':' :: ' ' :: c.label.toList)) := by
    rw [c.toList_line]
    simp [Choice.segment, Text.Segment.text]
  exact ofLine?_of_written .choice 1 rfl hline (solid_of_all rfl)

theorem isLine_choiceLine (h : c.WellFormed) : Text.IsLine c.line.toList := by
  obtain ⟨⟨-, htarget⟩, hlabel⟩ := h
  have hfeed : '\n' ∉ c.target.toList := fun hc => (htarget '\n' hc).2.2 rfl
  rw [c.toList_line]
  refine isLine_append ?_ (by simp [hlabel.2]) (chomp_cons_space hlabel)
  simp [Choice.segment, Text.Segment.text, hfeed]

/-- A choice line gives the target and the label back. -/
theorem ofLine_choiceLine (h : c.WellFormed) : Choice.ofLine c.line = .ok c := by
  obtain ⟨⟨hne, htarget⟩, hlabel⟩ := h
  have hcolon : ':' ∉ c.segment.text := by
    have ht : ':' ∉ c.target.toList := fun hc => (htarget ':' hc).1 rfl
    simp [Choice.segment, Text.Segment.text, ht]
  have hclose : '>' ∉ c.target.toList := fun hc => (htarget '>' hc).2.1 rfl
  have hopen : '<' ∉ c.segment.left := by simp [Choice.segment]
  have hempty := isEmpty_toList hne
  have hparameter : (splitParameter (Text.before ':' c.line.toList)).2 = some c.target.toList := by
    rw [c.toList_line, Text.before_append hcolon, splitParameter_text hopen hclose]
    simp [Choice.segment, hempty]
  have hafter : afterColon c.line = c.label.toList := by
    rw [afterColon, c.toList_line, Text.after?_append hcolon, Option.getD_some,
      trim_cons_space hlabel]
  rw [Choice.ofLine, hparameter, hafter]
  simp only [String.ofList_toList]

end Choices

/-! Scenes -/

section Scenes

variable {b : SceneBlock}

/-- The label of a scene with its condition, as it is written. -/
def SceneBlock.head (b : SceneBlock) : List Char :=
  match b.condition with
  | none => b.label.toList
  | some condition => b.label.toList ++ '<' :: (condition.toList ++ ['>'])

/-- The next scene of a scene, as it is written between the head and the colon. -/
def SceneBlock.arrow (b : SceneBlock) : List Char :=
  match b.target with
  | none => []
  | some target => ' ' :: '-' :: '>' :: ' ' :: target.toList

theorem SceneBlock.toList_line (b : SceneBlock) :
    b.line.toList = ("scene".toList ++ ' ' :: (b.head ++ b.arrow)) ++ [':'] := by
  rcases b with ⟨label, _ | condition, _ | target, choices⟩ <;>
    simp [SceneBlock.line, SceneBlock.head, SceneBlock.arrow, String.toList_append]

theorem ofLine?_sceneLine (b : SceneBlock) : Keyword.ofLine? b.line = some .scene := by
  have hline := b.toList_line
  rw [List.append_assoc] at hline
  exact ofLine?_of_written .scene 0 rfl hline (solid_of_all rfl)

theorem SceneBlock.solid_head (hlabel : IsPlainWord b.label)
    (hcondition : ∀ c ∈ b.condition, IsCondition c) : ∀ c ∈ b.head, Text.isBlank c = false := by
  intro c hc
  rw [SceneBlock.head] at hc
  split at hc
  · exact hlabel.solid c hc
  · rename_i condition hsome
    simp only [List.mem_append, List.mem_cons, List.not_mem_nil, or_false] at hc
    rcases hc with hc | rfl | hc | rfl
    · exact hlabel.solid c hc
    · rfl
    · exact ((hcondition condition hsome).2 c hc).1
    · rfl

theorem SceneBlock.head_ne_nil (hlabel : IsPlainWord b.label) : b.head ≠ [] := by
  have hne := hlabel.toList_ne_nil
  rw [SceneBlock.head]
  split
  · exact hne
  · simp [hne]

theorem SceneBlock.not_mem_arrow (htarget : ∀ t ∈ b.target, IsPlainWord t) :
    ':' ∉ b.arrow ∧ '<' ∉ b.arrow ∧ '\n' ∉ b.arrow := by
  rw [SceneBlock.arrow]
  split
  · simp
  · rename_i target hsome
    have h := htarget target hsome
    simp [h.not_mem_colon, h.not_mem_open, not_mem_lineFeed_of_solid h.solid]

/-- The condition is read from the brackets of the head, whatever colons follow. -/
theorem SceneBlock.splitParameter_head (hlabel : IsPlainWord b.label)
    (hcondition : ∀ c ∈ b.condition, IsCondition c) {colons : List Char} (hcolons : '<' ∉ colons) :
    splitParameter (b.head ++ colons) =
      (b.label.toList ++ colons, b.condition.map String.toList) := by
  have hopen := hlabel.not_mem_open
  rw [SceneBlock.head]
  split
  · rename_i hnone
    have hmem : '<' ∉ b.label.toList ++ colons := by simp [hopen, hcolons]
    rw [splitParameter, Text.firstSegment?_of_not_mem hmem, hnone, Option.map_none]
  · rename_i condition hsome
    obtain ⟨hne, hinner⟩ := hcondition condition hsome
    let s : Text.Segment := ⟨b.label.toList, condition.toList, colons⟩
    have htext : b.label.toList ++ '<' :: (condition.toList ++ ['>']) ++ colons = s.text := by
      simp [s, Text.Segment.text]
    have hparts : splitParameter s.text = _ :=
      splitParameter_text hopen (fun hc => (hinner '>' hc).2 rfl)
    have hempty := isEmpty_toList hne
    rw [htext, hparts, hsome]
    simp [s, hempty]

/-- The colon of a scene declaration ends its line. Colons of the condition come before it. -/
theorem SceneBlock.afterDeclaration?_line (hlabel : IsPlainWord b.label)
    (hcondition : ∀ c ∈ b.condition, IsCondition c) (htarget : ∀ t ∈ b.target, IsPlainWord t) :
    afterDeclaration? b.line.toList = some [] := by
  obtain ⟨hcolon, hopen, -⟩ := not_mem_arrow htarget
  rw [b.toList_line, SceneBlock.head]
  split
  · rename_i hnone
    have hmem : '<' ∉ ("scene".toList ++ ' ' :: (b.label.toList ++ b.arrow)) ++ [':'] := by
      simp [hlabel.not_mem_open, hopen]
    rw [afterDeclaration?, Text.firstSegment?_of_not_mem hmem]
    exact Text.after?_append (by simp [hlabel.not_mem_colon, hcolon]) []
  · rename_i condition hsome
    let s : Text.Segment :=
      ⟨"scene".toList ++ ' ' :: b.label.toList, condition.toList, b.arrow ++ [':']⟩
    have htext : ("scene".toList ++
        ' ' :: (b.label.toList ++ '<' :: (condition.toList ++ ['>']) ++ b.arrow)) ++ [':'] =
          s.text := by
      simp [s, Text.Segment.text]
    have hsegment : Text.firstSegment? s.text = some s := by
      refine Text.firstSegment?_text ?_ (fun hc => ((hcondition condition hsome).2 '>' hc).2 rfl)
      simp [s, hlabel.not_mem_open]
    have hleft : s.left.contains ':' = false := by
      simp [s, hlabel.not_mem_colon]
    rw [htext, afterDeclaration?, hsegment]
    simp only [hleft]
    exact Text.after?_append hcolon []

/-- The second word of a scene declaration is its head, and the fourth one names the next scene. One
of the two has the colon. -/
theorem SceneBlock.word_line (hlabel : IsPlainWord b.label)
    (hcondition : ∀ c ∈ b.condition, IsCondition c) (htarget : ∀ t ∈ b.target, IsPlainWord t) :
    ∃ colon : Bool,
      Text.word 1 b.line.toList = b.head ++ (if colon then [':'] else []) ∧
        nonEmpty? (dropColons (Text.word 3 b.line.toList)) = b.target := by
  have hhead := solid_head hlabel hcondition
  have hne := head_ne_nil hlabel
  have hscene := fun rest => Text.words_solid_append (w := "scene".toList) (by decide)
    (solid_of_all rfl) (c := ' ') rfl rest
  rcases htargets : b.target with _ | target
  · have hline : b.line.toList = "scene".toList ++ ' ' :: (b.head ++ [':']) := by
      rw [b.toList_line, SceneBlock.arrow, htargets]
      simp
    have hwords : Text.words b.line.toList = ["scene".toList, b.head ++ [':']] := by
      rw [hline, hscene, Text.words_of_solid (by simp) (solid_colon hhead)]
    refine ⟨true, ?_, ?_⟩
    · rw [Text.word, hwords]
      rfl
    · rw [Text.word, hwords]
      rfl
  · have htargets' : IsPlainWord target := htarget target htargets
    have hline : b.line.toList = "scene".toList ++
        ' ' :: (b.head ++ ' ' :: ("->".toList ++ ' ' :: (target.toList ++ [':']))) := by
      rw [b.toList_line, SceneBlock.arrow, htargets]
      simp
    have hwords : Text.words b.line.toList =
        ["scene".toList, b.head, "->".toList, target.toList ++ [':']] := by
      rw [hline, hscene, Text.words_solid_append hne hhead rfl,
        Text.words_solid_append (by decide) (solid_of_all rfl) rfl,
        Text.words_of_solid (by simp) (solid_colon htargets'.solid)]
    have hdrop := dropColons_append htargets'.not_mem_colon true
    rw [if_pos rfl] at hdrop
    refine ⟨false, ?_, ?_⟩
    · rw [Text.word, hwords]
      simp
    · have hempty := isEmpty_toList htargets'.1
      rw [Text.word, hwords]
      simp [hdrop, nonEmpty?, hempty]

theorem isLine_sceneLine (hlabel : IsPlainWord b.label)
    (hcondition : ∀ c ∈ b.condition, IsCondition c) (htarget : ∀ t ∈ b.target, IsPlainWord t) :
    Text.IsLine b.line.toList := by
  have hhead : '\n' ∉ b.head := not_mem_lineFeed_of_solid (SceneBlock.solid_head hlabel hcondition)
  have harrow := (SceneBlock.not_mem_arrow htarget).2.2
  rw [b.toList_line]
  exact isLine_append (by simp [hhead, harrow]) (by simp) rfl

/-- A scene declaration gives the label, the condition and the next scene back. -/
theorem ofLine_sceneLine (hlabel : IsPlainWord b.label)
    (hcondition : ∀ c ∈ b.condition, IsCondition c) (htarget : ∀ t ∈ b.target, IsPlainWord t) :
    Scene.ofLine b.line =
      .ok { label := b.label, condition := b.condition, next := b.target } := by
  have hinline : hasInlineText b.line = false := by
    rw [hasInlineText, SceneBlock.afterDeclaration?_line hlabel hcondition htarget]
    rfl
  obtain ⟨colon, hfirst, hthird⟩ := SceneBlock.word_line hlabel hcondition htarget
  have hcolons : '<' ∉ if colon then [':'] else [] := by
    cases colon <;> simp
  rw [Scene.ofLine, hinline, hfirst, hthird,
    SceneBlock.splitParameter_head hlabel hcondition hcolons]
  have hname := dropColons_append hlabel.not_mem_colon colon
  have hparameter : (b.condition.map String.toList).map String.ofList = b.condition := by
    rw [Option.map_map]
    simp [Function.comp_def]
  simp only [hname, hparameter, String.ofList_toList]
  rfl

end Scenes

end SceneScript
