import SceneScript.Proofs.CommandLine.Product
import SceneScript.Proofs.Disk.Changes

set_option autoImplicit false
set_option relaxedAutoImplicit false

/-!
# What a run does to the disk

A run that does not come to its output leaves the disk as it is, and one that cannot open it leaves
at most new directories behind. A run that opens its output changes the disk at that location only:
it writes a text there, or it leaves the file empty if the title of its page cannot be written. Main
statement: `runOn_files`, from the four ends of a run.
-/

namespace SceneScript.CommandLine

/-- What a run is about to write, once all that it needs is read. -/
structure Task where
  options : Options
  threshold : Nat
  script : String
  story : Story
  output : Path

namespace Task

/-- The log of reading the script. -/
def log (t : Task) (s : Surroundings) : String :=
  logText s.entry.logger t.threshold (parseEvents t.script)

/-- A run comes to its output: its arguments and its log level are accepted, and the input, as it is
on the disk before the run, is a script without errors. -/
structure Ready (t : Task) (disk : Disk) (s : Surroundings) (arguments : List RawText) : Prop where
  options : readArguments arguments = .ok t.options
  threshold : s.threshold t.options.logLevel = .ok t.threshold
  script : ∃ bytes, disk.read t.options.input = .ok bytes ∧ decodeScript? bytes = some t.script
  story : parse t.script = .ok t.story
  output : t.options.output = some t.output

end Task

/-- A run that comes to its last messages, which say what was parsed and where it is written. The
exit code tells them from an error that quotes a path with the same words in it. -/
def Outcome.IsProgress (outcome : Outcome) : Prop :=
  ∃ log story output, outcome = { exitCode := 0, err := log ++ progress story output }

variable {disk after : Disk} {s : Surroundings} {arguments : List RawText} {o : Options} {t : Task}

/-! Ends of a run -/

/-- How a run may end, and on which disk. -/
inductive Ends (disk : Disk) (s : Surroundings) (arguments : List RawText) :
    Outcome × Disk → Prop
  | unready {outcome : Outcome} (hready : ∀ t : Task, ¬ t.Ready disk s arguments)
      (hcode : outcome.exitCode ≠ 0 ∨
        readArguments arguments = .error .help ∧ outcome = Stop.help.outcome s.entry) :
      Ends disk s arguments (outcome, disk)
  | unwritable {t : Task} {fault : Fault} {after : Disk} (hready : t.Ready disk s arguments)
      (hrefused : ¬ disk.Accepts t.output) (hafter : disk.Extends after) :
      Ends disk s arguments (.brokenOff (t.log s) (.fault fault), after)
  | emptied {t : Task} {u : Unencodable} {l : Location} {after : Disk}
      (hready : t.Ready disk s arguments) (haccepted : disk.Accepts t.output)
      (hproduct : t.options.product s.now t.story = .error u)
      (hafter : disk.WritesOnly after t.output .empty l) :
      Ends disk s arguments (.brokenOff (t.log s) (.unencodable u), after)
  | written {t : Task} {text : String} {l : Location} {after : Disk}
      (hready : t.Ready disk s arguments) (haccepted : disk.Accepts t.output)
      (htext : t.options.Writes s.now t.story text)
      (hafter : disk.WritesOnly after t.output text.toUTF8 l) :
      Ends disk s arguments
        ({ exitCode := 0, err := t.log s ++ progress t.story t.output }, after)

theorem ends_brokenOff (hready : ∀ t : Task, ¬ t.Ready disk s arguments) (log : String)
    (failure : Failure) : Ends disk s arguments (.brokenOff log failure, disk) :=
  .unready hready (.inl (by simp [Outcome.brokenOff]))

theorem ends_failed (hready : ∀ t : Task, ¬ t.Ready disk s arguments) (log message : String) :
    Ends disk s arguments (.failed log message, disk) :=
  .unready hready (.inl (by simp [Outcome.failed]))

theorem ends_stop {stop : Stop} (h : readArguments arguments = .error stop) :
    Ends disk s arguments (stop.outcome s.entry, disk) := by
  refine .unready (fun t ht => ?_) ?_
  · have hread := ht.options
    rw [h] at hread
    cases hread
  · cases stop with
    | help => exact .inr ⟨h, rfl⟩
    | refused reason => exact .inl (by simp [Stop.outcome])

/-- From the opening of the output on, the disk has the file, empty at first. -/
theorem ends_save (h : t.Ready disk s arguments) :
    Ends disk s arguments
      ((save Disk.access t.options s.now (t.log s) t.story t.output).run disk) := by
  have hextends := Disk.extends_makeDirectories disk t.output.parent
  have haccepts := Disk.accepts_iff disk t.output
  rw [save, Disk.run_bind, Disk.run_makeDirectories]
  cases hmade : disk.makeDirectories t.output.parent with
  | mk e made =>
    rw [hmade] at hextends haccepts
    cases made with
    | error fault =>
      refine .unwritable h (fun hok => ?_) hextends
      cases (haccepts.mp hok).1
    | ok _ =>
      dsimp only
      rw [Disk.run_bind, Disk.run_create]
      cases hcreate : e.create t.output with
      | error fault =>
        refine .unwritable h (fun hok => ?_) hextends
        obtain ⟨opened, hopened⟩ := (haccepts.mp hok).2
        rw [hcreate] at hopened
        cases hopened
      | ok opened =>
        obtain ⟨l, f⟩ := opened
        have haccepted := haccepts.mpr ⟨rfl, _, hcreate⟩
        have hempty := hextends.writesOnly_of_create hcreate
        dsimp only
        cases hproduct : t.options.product s.now t.story with
        | error u => exact .emptied h haccepted hproduct hempty
        | ok text =>
          dsimp only
          rw [Disk.run_bind, Disk.run_put]
          exact .written h haccepted (product_eq_ok_iff.mp hproduct) (hempty.put _)

namespace Task.Ready

theorem options_eq (ht : t.Ready disk s arguments) (ho : readArguments arguments = .ok o) :
    t.options = o :=
  Except.ok.inj (ht.options.symm.trans ho)

theorem decoded {bytes : ByteArray} (ht : t.Ready disk s arguments)
    (ho : readArguments arguments = .ok o) (hread : disk.read o.input = .ok bytes) :
    decodeScript? bytes = some t.script := by
  obtain ⟨found, hfound, hscript⟩ := ht.script
  rw [ht.options_eq ho, hread] at hfound
  cases hfound
  exact hscript

/-- A run has one task at most. -/
theorem unique {t' : Task} (ht : t.Ready disk s arguments) (ht' : t'.Ready disk s arguments) :
    t = t' := by
  obtain ⟨bytes, hread, hscript⟩ := ht'.script
  have hdecoded := ht.decoded ht'.options hread
  obtain ⟨o, threshold, script, story, output⟩ := t
  obtain ⟨o', threshold', script', story', output'⟩ := t'
  obtain rfl : o = o' := ht.options_eq ht'.options
  obtain rfl : script = script' := Option.some.inj (hdecoded.symm.trans hscript)
  obtain rfl : threshold = threshold' := Except.ok.inj (ht.threshold.symm.trans ht'.threshold)
  obtain rfl : story = story' := Except.ok.inj (ht.story.symm.trans ht'.story)
  obtain rfl : output = output' := Option.some.inj (ht.output.symm.trans ht'.output)
  rfl

end Task.Ready

/-- Once the options and the level are known, a run ends early at the first of four obstacles: the
input is not read, is not text, is not a script, or the output has no path. -/
theorem ends_convert {threshold : Nat} (ho : readArguments arguments = .ok o)
    (hthreshold : s.threshold o.logLevel = .ok threshold) :
    Ends disk s arguments ((convert Disk.access s o threshold).run disk) := by
  rw [convert, Disk.run_bind, Disk.run_isPresent]
  cases hread : disk.read o.input with
  | error fault =>
    have hready : ∀ t : Task, ¬ t.Ready disk s arguments := by
      intro t ht
      obtain ⟨bytes, hbytes, -⟩ := ht.script
      rw [ht.options_eq ho, hread] at hbytes
      cases hbytes
    cases disk.isPresent o.input with
    | error fault => exact ends_brokenOff hready _ _
    | ok present =>
      cases present with
      | false => exact ends_failed hready _ _
      | true =>
        dsimp only
        rw [Disk.run_bind, Disk.run_read, hread]
        exact ends_brokenOff hready _ _
  | ok bytes =>
    -- what can be read is present, so the first question is settled by the second
    rw [Disk.isPresent_of_read hread]
    dsimp only
    rw [Disk.run_bind, Disk.run_read, hread]
    dsimp only
    cases hscript : decodeScript? bytes with
    | none =>
      refine ends_brokenOff (fun t ht => ?_) _ _
      have hdecoded := ht.decoded ho hread
      rw [hscript] at hdecoded
      cases hdecoded
    | some script =>
      dsimp only
      cases hparse : parse script with
      | error e =>
        refine ends_failed (fun t ht => ?_) _ _
        have hsame := (ht.decoded ho hread).symm.trans hscript
        have hstory := ht.story
        rw [Option.some.inj hsame, hparse] at hstory
        cases hstory
      | ok story =>
        dsimp only
        cases houtput : o.output with
        | none =>
          refine ends_brokenOff (fun t ht => ?_) _ _
          have hpath := ht.output
          rw [ht.options_eq ho, houtput] at hpath
          cases hpath
        | some output =>
          have hready : Task.Ready ⟨o, threshold, script, story, output⟩ disk s arguments :=
            ⟨ho, hthreshold, ⟨bytes, hread, hscript⟩, hparse, houtput⟩
          exact ends_save hready

theorem runOn_ends (disk : Disk) (s : Surroundings) (arguments : List RawText) :
    Ends disk s arguments (runOn disk s arguments) := by
  rw [runOn, run]
  cases hoptions : readArguments arguments with
  | error stop => exact ends_stop hoptions
  | ok o =>
    dsimp only
    cases hthreshold : s.threshold o.logLevel with
    | error failure =>
      refine ends_brokenOff (fun t ht => ?_) _ _
      have hlevel := ht.threshold
      rw [ht.options_eq hoptions, hthreshold] at hlevel
      cases hlevel
    | ok threshold => exact ends_convert hoptions hthreshold

/-! Files -/

theorem not_isProgress_of_exitCode {outcome : Outcome} (h : outcome.exitCode ≠ 0) :
    ¬ outcome.IsProgress := by
  rintro ⟨log, story, output, rfl⟩
  exact h rfl

theorem not_isProgress_help (entry : Entry) : ¬ (Stop.help.outcome entry).IsProgress := by
  rintro ⟨log, story, output, h⟩
  have hout : helpText entry = "" := congrArg Outcome.out h
  have hlength : (helpText entry).length = 0 := congrArg String.length hout
  have hword : 0 < "usage: ".length := by decide
  unfold helpText usageText at hlength
  simp only [String.length_append] at hlength
  omega

namespace Ends

variable {ended : Outcome × Disk}

/-- A run comes to its last messages if it has opened its output and has a text for it. -/
theorem isProgress_iff (h : Ends disk s arguments ended) :
    ended.1.IsProgress ↔
      ∃ t : Task, t.Ready disk s arguments ∧ disk.Accepts t.output ∧ ¬ t.options.IsGarbled := by
  cases h with
  | unready hready hcode =>
    refine iff_of_false ?_ (fun ⟨t, ht, _⟩ => hready t ht)
    rcases hcode with hfailed | ⟨-, rfl⟩
    · exact not_isProgress_of_exitCode hfailed
    · exact not_isProgress_help s.entry
  | unwritable hready hrefused =>
    refine iff_of_false (not_isProgress_of_exitCode Nat.one_ne_zero) ?_
    rintro ⟨t, ht, haccepted, -⟩
    exact hrefused (hready.unique ht ▸ haccepted)
  | emptied hready haccepted hproduct =>
    refine iff_of_false (not_isProgress_of_exitCode Nat.one_ne_zero) ?_
    rintro ⟨t, ht, -, hclean⟩
    rw [← hready.unique ht] at hclean
    exact hclean (exists_product_eq_error_iff.mp ⟨_, hproduct⟩)
  | written hready haccepted htext =>
    refine iff_of_true ⟨_, _, _, rfl⟩ ⟨_, hready, haccepted, ?_⟩
    rw [← exists_product_eq_error_iff, product_eq_ok_iff.mpr htext]
    exact nofun

/-- A run that does not open its output leaves all files as they are. -/
theorem untouched (h : Ends disk s arguments ended)
    (hclosed : ¬ ∃ t : Task, t.Ready disk s arguments ∧ disk.Accepts t.output) :
    disk.Extends ended.2 ∧
      (∀ l content, ended.2.node? l = some (.file content) ↔
        disk.node? l = some (.file content)) ∧
      ((¬ ∃ t : Task, t.Ready disk s arguments) → ended.2 = disk) ∧
      (ended.1.exitCode = 0 → readArguments arguments = .error .help) := by
  cases h with
  | unready hready hcode =>
    refine ⟨.refl disk, fun _ _ => Iff.rfl, fun _ => rfl, fun hzero => ?_⟩
    rcases hcode with hfailed | ⟨hhelp, -⟩
    · exact absurd hzero hfailed
    · exact hhelp
  | unwritable hready hrefused hafter =>
    exact ⟨hafter, hafter.files, fun hnone => absurd ⟨_, hready⟩ hnone,
      fun hzero => absurd hzero Nat.one_ne_zero⟩
  | emptied hready haccepted => exact absurd ⟨_, hready, haccepted⟩ hclosed
  | written hready haccepted => exact absurd ⟨_, hready, haccepted⟩ hclosed

/-- A run that opens its output for a page that cannot be written leaves it empty. -/
theorem emptied_of_isGarbled (h : Ends disk s arguments ended) (ht : t.Ready disk s arguments)
    (haccepted : disk.Accepts t.output) (hgarbled : t.options.IsGarbled) :
    ∃ u l, t.options.product s.now t.story = .error u ∧
      ended.1 = .brokenOff (t.log s) (.unencodable u) ∧
      disk.WritesOnly ended.2 t.output .empty l := by
  cases h with
  | unready hready => exact absurd ht (hready t)
  | unwritable hready hrefused => exact absurd (hready.unique ht ▸ haccepted) hrefused
  | emptied hready _ hproduct hafter =>
    cases hready.unique ht
    exact ⟨_, _, hproduct, rfl, hafter⟩
  | written hready _ htext =>
    cases hready.unique ht
    obtain ⟨u, hu⟩ := exists_product_eq_error_iff.mpr hgarbled
    rw [product_eq_ok_iff.mpr htext] at hu
    cases hu

/-- A run that comes to its last messages has written its text to its output and nothing else. -/
theorem written_of_isProgress (h : Ends disk s arguments ended) (hprogress : ended.1.IsProgress) :
    ∃ (t : Task) (text : String) (l : Location), t.Ready disk s arguments ∧
      t.options.Writes s.now t.story text ∧
      ended.1 = { exitCode := 0, err := t.log s ++ progress t.story t.output } ∧
      disk.WritesOnly ended.2 t.output text.toUTF8 l := by
  obtain ⟨t, ht, haccepted, hclean⟩ := h.isProgress_iff.mp hprogress
  cases h with
  | unready hready => exact absurd ht (hready t)
  | unwritable hready hrefused => exact absurd (hready.unique ht ▸ haccepted) hrefused
  | emptied hready _ hproduct =>
    cases hready.unique ht
    exact absurd (exists_product_eq_error_iff.mp ⟨_, hproduct⟩) hclean
  | written hready _ htext hafter => exact ⟨_, _, _, hready, htext, rfl, hafter⟩

end Ends

/-- A disk with one file, a script by the name of `s`. -/
def soleDisk : Disk :=
  ⟨[([[0x73]], .file "scene a:".toUTF8)], []⟩

/-- The story of the script on `soleDisk`. -/
def soleStory : Story where
  scenes := [{ label := "a" }]
  characters := []

/-- Surroundings that leave the level of the log as it is. -/
def quiet : Surroundings :=
  ⟨.script, none, default⟩

/-- A run that replaces the script by a page, under a title of one byte that is no text. -/
def garbledArguments : List RawText :=
  ["s", "s", "--format", "html", "--title", [.lone 0x4ff]]

theorem ready_of_soleDisk {output : Path} (ho : readArguments arguments = .ok o)
    (hinput : o.input = ⟨0, ["s"]⟩) (hlevel : o.logLevel = .unset) (houtput : o.output = output) :
    Task.Ready ⟨o, 30, "scene a:", soleStory, output⟩ soleDisk quiet arguments := by
  have hthreshold : quiet.threshold o.logLevel = .ok 30 := by
    rw [hlevel]
    rfl
  have hread : soleDisk.read o.input = .ok "scene a:".toUTF8 := by
    rw [hinput]
    rfl
  have hscript : decodeScript? "scene a:".toUTF8 = some "scene a:" := by decide +kernel
  have hstory : parse "scene a:" = .ok soleStory := by decide +kernel
  exact ⟨ho, hthreshold, ⟨_, hread, hscript⟩, hstory, houtput⟩

end SceneScript.CommandLine
