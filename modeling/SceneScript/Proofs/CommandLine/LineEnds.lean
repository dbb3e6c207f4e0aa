import SceneScript.Proofs.CommandLine.Effects
import SceneScript.Proofs.Disk.Twins
import SceneScript.Proofs.Text.LineEnds

set_option autoImplicit false
set_option relaxedAutoImplicit false

/-!
# Scripts with other line ends

Carriage returns at the ends of the lines of a script change nothing about its parse. In a file any
line end may stand for any other one, since a run sees the file through its decoded text only. Main
statement: `lineEnds_immaterial`.
-/

namespace SceneScript.CommandLine

/-- The bytes of a file that holds a text with all its lines ended in one way. -/
def fileOf (e : Text.LineEnd) (text : String) : ByteArray :=
  (String.ofList (Text.withLineEnds e text.toList)).toUTF8

theorem decodeScript?_toUTF8 (s : String) :
    decodeScript? s.toUTF8 = some (String.ofList (Text.unifyNewlines s.toList)) := by
  have hdecode : String.fromUTF8? s.toUTF8 = some s := by
    unfold String.fromUTF8?
    rw [String.toUTF8_eq_toByteArray, dif_pos s.isValidUTF8]
    rfl
  rw [decodeScript?, hdecode, Option.map_some]

theorem decodeScript?_fileOf (e : Text.LineEnd) {text : String} (h : '\r' ∉ text.toList) :
    decodeScript? (fileOf e text) = some text := by
  rw [fileOf, decodeScript?_toUTF8, String.toList_ofList, Text.unifyNewlines_withLineEnds e h,
    String.ofList_toList]

variable {b c : ByteArray} {d e : Disk} {s : Surroundings} {arguments : List RawText}

/-! Runs on disks that differ in the content of a file -/

/-- Two runs have the same outcome and leave disks that are the same but for a file. -/
structure EndAlike (b c : ByteArray) (x y : Outcome × Disk) : Prop where
  outcome : y.1 = x.1
  disks : Disk.SameBut b c x.2 y.2

/-- To open and to write a file is not to read it. -/
theorem save_sameBut (h : d.SameBut b c e) (o : Options) (now : Timestamp) (log : String)
    (story : Story) (output : Path) :
    EndAlike b c ((save Disk.access o now log story output).run d)
      ((save Disk.access o now log story output).run e) := by
  have hmake := h.makeDirectories output.parent
  rw [save, Disk.run_bind, Disk.run_bind, Disk.run_makeDirectories, Disk.run_makeDirectories]
  dsimp only
  rw [hmake.1]
  cases (d.makeDirectories output.parent).2 with
  | error fault => exact ⟨rfl, hmake.2⟩
  | ok _ =>
    dsimp only
    rw [Disk.run_bind, Disk.run_bind, Disk.run_create, Disk.run_create]
    rcases hmake.2.create output with ⟨fault, hd, he⟩ | ⟨l, _, _, hd, he, hl, hcreated⟩
    · rw [hd, he]
      exact ⟨rfl, hmake.2⟩
    · rw [hd, he]
      dsimp only
      cases o.product now story with
      | error u => exact ⟨rfl, hcreated⟩
      | ok text =>
        dsimp only
        rw [Disk.run_bind, Disk.run_bind, Disk.run_put, Disk.run_put]
        exact ⟨rfl, hcreated.put hl text.toUTF8⟩

/-- The file that is different may be the one that is read, and then both contents are one text. -/
theorem read_sameBut (h : d.SameBut b c e) (hdecode : decodeScript? c = decodeScript? b)
    (p : Path) :
    (∃ fault, d.read p = .error fault ∧ e.read p = .error fault) ∨
      ∃ x y, d.read p = .ok x ∧ e.read p = .ok y ∧ decodeScript? y = decodeScript? x := by
  rcases h.read p with hsame | ⟨hd, he⟩
  · rw [hsame]
    cases d.read p with
    | error fault => exact .inl ⟨fault, rfl, rfl⟩
    | ok bytes => exact .inr ⟨bytes, bytes, rfl, rfl, rfl⟩
  · exact .inr ⟨b, c, hd, he, hdecode⟩

theorem convert_sameBut (h : d.SameBut b c e) (hdecode : decodeScript? c = decodeScript? b)
    (o : Options) (threshold : Nat) :
    EndAlike b c ((convert Disk.access s o threshold).run d)
      ((convert Disk.access s o threshold).run e) := by
  rw [convert, Disk.run_bind, Disk.run_bind, Disk.run_isPresent, Disk.run_isPresent,
    h.isPresent]
  cases d.isPresent o.input with
  | error fault => exact ⟨rfl, h⟩
  | ok present =>
    cases present with
    | false => exact ⟨rfl, h⟩
    | true =>
      dsimp only
      rw [Disk.run_bind, Disk.run_bind, Disk.run_read, Disk.run_read]
      rcases read_sameBut h hdecode o.input with ⟨fault, hd, he⟩ | ⟨x, y, hd, he, htext⟩
      · rw [hd, he]
        exact ⟨rfl, h⟩
      · rw [hd, he]
        dsimp only
        rw [htext]
        cases decodeScript? x with
        | none => exact ⟨rfl, h⟩
        | some script =>
          dsimp only
          cases parse script with
          | error failure => exact ⟨rfl, h⟩
          | ok story =>
            dsimp only
            cases o.output with
            | none => exact ⟨rfl, h⟩
            | some output => exact save_sameBut h o s.now _ story output

theorem runOn_sameBut (h : d.SameBut b c e) (hdecode : decodeScript? c = decodeScript? b)
    (s : Surroundings) (arguments : List RawText) :
    EndAlike b c (runOn d s arguments) (runOn e s arguments) := by
  rw [runOn, runOn, run]
  cases readArguments arguments with
  | error stop => exact ⟨rfl, h⟩
  | ok o =>
    dsimp only
    cases s.threshold o.logLevel with
    | error failure => exact ⟨rfl, h⟩
    | ok threshold => exact convert_sameBut h hdecode o threshold

/-! What is written -/

/-- A run that is ready on one of the disks is so on the other one. -/
theorem Task.Ready.sameBut {t : Task} (ht : t.Ready d s arguments) (h : d.SameBut b c e)
    (hdecode : decodeScript? c = decodeScript? b) : t.Ready e s arguments := by
  obtain ⟨bytes, hread, hscript⟩ := ht.script
  rcases read_sameBut h hdecode t.options.input with ⟨fault, hd, -⟩ | ⟨x, y, hd, he, htext⟩
  · rw [hread] at hd
    cases hd
  · rw [hread] at hd
    cases hd
    exact { ht with script := ⟨y, he, htext.trans hscript⟩ }

theorem output_sameBut (h : d.SameBut b c e) (hdecode : decodeScript? c = decodeScript? b)
    (hprogress : (runOn d s arguments).1.IsProgress) :
    ∃ (o : Options) (output : Path) (content : ByteArray),
      readArguments arguments = .ok o ∧ o.output = some output ∧
        (runOn d s arguments).2.read output = .ok content ∧
        (runOn e s arguments).2.read output = .ok content := by
  have hprogress' := hprogress
  rw [← (runOn_sameBut h hdecode s arguments).outcome] at hprogress'
  obtain ⟨t, text, l, ht, htext, -, hwrites⟩ :=
    (runOn_ends d s arguments).written_of_isProgress hprogress
  obtain ⟨u, other, k, hu, hother, -, hwrites'⟩ :=
    (runOn_ends e s arguments).written_of_isProgress hprogress'
  cases (ht.sameBut h hdecode).unique hu
  rw [hother.unique htext] at hwrites'
  exact ⟨t.options, t.output, text.toUTF8, ht.options, ht.output, hwrites.read, hwrites'.read⟩

/-- However many carriage returns are put before the line feeds of a script or at its end, its lines
and their numbers are the same, and so are its story or all of its error. And if two disks are the
same except that one has a file with the lines of a text ended in one way, by line feeds, by pairs
or by carriage returns alone, and the other one has them ended in another way there, then the same
arguments at the same time give the same outcome with the same messages on both, leave disks that
are the same in this sense, and write the same content to the output if they write. -/
theorem lineEnds_immaterial :
    (∀ script other : String, Text.ReturnsAdded script.toList other.toList →
      scriptLines other = scriptLines script ∧ parse other = parse script) ∧
    ∀ (text : String) (one two : Text.LineEnd) (first second : Disk) (s : Surroundings)
      (arguments : List RawText),
      '\r' ∉ text.toList → Disk.SameBut (fileOf one text) (fileOf two text) first second →
      (runOn second s arguments).1 = (runOn first s arguments).1 ∧
        Disk.SameBut (fileOf one text) (fileOf two text) (runOn first s arguments).2
          (runOn second s arguments).2 ∧
        ((runOn first s arguments).1.IsProgress →
          ∃ (o : Options) (output : Path) (content : ByteArray),
            readArguments arguments = .ok o ∧ o.output = some output ∧
              (runOn first s arguments).2.read output = .ok content ∧
              (runOn second s arguments).2.read output = .ok content) := by
  constructor
  · intro script other h
    have hlines : scriptLines other = scriptLines script := by
      rw [scriptLines, scriptLines, Text.numberedLines, Text.numberedLines,
        Text.lines_of_returnsAdded h]
    refine ⟨hlines, ?_⟩
    rw [parse, parse, hlines]
  · intro text one two first second s arguments htext hdisks
    have hdecode : decodeScript? (fileOf two text) = decodeScript? (fileOf one text) := by
      rw [decodeScript?_fileOf two htext, decodeScript?_fileOf one htext]
    have hends := runOn_sameBut hdisks hdecode s arguments
    exact ⟨hends.outcome, hends.disks, output_sameBut hdisks hdecode⟩

/-- A disk with one file, a script of one scene by the name of `s`. -/
def sceneDisk (e : Text.LineEnd) : Disk :=
  (⟨[], []⟩ : Disk).insert [[0x73]] (.file (fileOf e "scene a:\n"))

/-- Two lines that end in carriage returns, one of them without a line feed, and a file with pairs
next to one without line feeds. -/
theorem lineEnds_immaterial_of_sceneDisk :
    parse "scene a:\r\r\n\r" = parse "scene a:\n" ∧
      (runOn (sceneDisk .cr) quiet ["s", "t"]).1 = (runOn (sceneDisk .crlf) quiet ["s", "t"]).1 ∧
      ∃ content, (runOn (sceneDisk .crlf) quiet ["s", "t"]).2.read ⟨0, ["t"]⟩ = .ok content ∧
        (runOn (sceneDisk .cr) quiet ["s", "t"]).2.read ⟨0, ["t"]⟩ = .ok content := by
  have hadded : Text.ReturnsAdded "scene a:\n".toList "scene a:\r\r\n\r".toList :=
    Text.returnsAdded_append "scene a:".toList (.beforeFeed 2 (.atEnd 1))
  have htext : '\r' ∉ "scene a:\n".toList := by decide
  have hfree : (⟨[], []⟩ : Disk).node? [[0x73]] ≠ some .directory := by
    intro h
    cases h
  have hprogress : (runOn (sceneDisk .crlf) quiet ["s", "t"]).1.IsProgress :=
    ⟨"", { scenes := [{ label := "a" }] }, ⟨0, ["t"]⟩, by decide +kernel⟩
  obtain ⟨hparse, hruns⟩ := lineEnds_immaterial
  obtain ⟨houtcome, -, hwritten⟩ := hruns "scene a:\n" .crlf .cr (sceneDisk .crlf) (sceneDisk .cr)
    quiet ["s", "t"] htext (Disk.sameBut_insert hfree _ _)
  obtain ⟨o, output, content, ho, houtput, hcrlf, hcr⟩ := hwritten hprogress
  have harguments : readArguments ["s", "t"] =
      .ok ⟨⟨0, ["s"]⟩, some ⟨0, ["t"]⟩, .json, none, .unset⟩ := rfl
  rw [harguments] at ho
  cases ho
  cases houtput
  exact ⟨(hparse _ _ hadded).2, houtcome, content, hcrlf, hcr⟩

end SceneScript.CommandLine
