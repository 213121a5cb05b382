import ReqlLua.Proofs.Generator.FirstFailure
import ReqlLua.Proofs.Job.Safe

/-! What the sources are at every moment of a run, whatever fails on the way. A text becomes a source in
one step, when all of it has been written to the temporary file. -/

namespace ReqlLua.Generator

open FileTree ReqlLua.Path

variable {home : Location} {generator : Generator} {start tree between after : FileTree home}
  {readings : Readings} {name text : String}

/-! ### Sources that are whole -/

/-- A text that a template yields as it has been read. -/
def Rendered (generator : Generator) (readings : Readings) (name text : String) : Prop :=
  ∃ source : String, (generator.settings.templatePath name, source.toUTF8) ∈ readings ∧
    (Template.ofSource source).render generator.substitutions = .ok text

/-- The places that a run may have changed: temporary files, and sources that are whole texts. -/
def Touched (generator : Generator) (start tree : FileTree home) (readings : Readings)
    (place : Location) : Prop :=
  ∃ name ∈ generator.settings.templates, ∃ above,
    start.enter generator.settings.srcDir = .ok above ∧
    start.entry? above = some .directory ∧
    (place = hiddenPlace above name ∨ place = outputPlace above name ∧
      ∃ text, generator.Rendered readings name text ∧
        tree.entry? place = some (.file text.toUTF8))

/-- All that differs from the start is temporary or whole. -/
structure Whole (generator : Generator) (start tree : FileTree home) (readings : Readings) : Prop where
  directories : SameDirectories start tree
  touched : ∀ place, tree.entry? place ≠ start.entry? place →
    generator.Touched start tree readings place

theorem whole_start (generator : Generator) (start : FileTree home) (readings : Readings) :
    generator.Whole start start readings :=
  ⟨.refl start, fun _ differs => absurd rfl differs⟩

theorem Rendered.later (rendered : generator.Rendered readings name text)
    (reading : String × ByteArray) : generator.Rendered (reading :: readings) name text := by
  obtain ⟨source, read, result⟩ := rendered
  exact ⟨source, List.mem_cons_of_mem reading read, result⟩

namespace Whole

theorem later (whole : generator.Whole start tree readings) (reading : String × ByteArray) :
    generator.Whole start tree (reading :: readings) := by
  refine ⟨whole.directories, ?_⟩
  intro place differs
  obtain ⟨name, member, above, entered, directory, found⟩ := whole.touched place differs
  refine ⟨name, member, above, entered, directory, ?_⟩
  rcases found with hidden | ⟨output, text, rendered, held⟩
  · exact .inl hidden
  · exact .inr ⟨output, text, rendered.later reading, held⟩

/-- What changes next has to be temporary or whole again. -/
theorem next (whole : generator.Whole start tree readings) (directories : SameDirectories tree after)
    (touched : ∀ place, after.entry? place ≠ tree.entry? place →
      generator.Touched start after readings place) : generator.Whole start after readings := by
  refine ⟨whole.directories.trans directories, ?_⟩
  intro place differs
  by_cases same : after.entry? place = tree.entry? place
  · rw [same] at differs
    obtain ⟨name, member, above, entered, directory, found⟩ := whole.touched place differs
    rw [← same] at found
    exact ⟨name, member, above, entered, directory, found⟩
  · exact touched place same

/-- The place of a file in the directory of the templates is where it was at the start. -/
theorem child (whole : generator.Whole start tree readings) {file : String} (proper : Proper file)
    {place : Location} (located : tree.locate (join generator.settings.srcDir file) = .ok place) :
    ∃ above, start.enter generator.settings.srcDir = .ok above ∧
      start.entry? above = some .directory ∧ place = above ++ [file] := by
  obtain ⟨above, entered, stepped, same⟩ :=
    locate_join proper (whole.directories.symm.locate located)
  exact ⟨above, entered, directory_of_step stepped, same⟩

theorem touched_hidden (whole : generator.Whole start tree readings) (plain : Plain name)
    (member : name ∈ generator.settings.templates) {place : Location}
    (located : tree.locate (generator.settings.outputPath name ++ ".tmp") = .ok place)
    (after : FileTree home) : generator.Touched start after readings place := by
  rw [hiddenPath_eq generator.settings plain] at located
  obtain ⟨above, entered, directory, same⟩ := whole.child (proper_hidden plain) located
  exact ⟨name, member, above, entered, directory, .inl same⟩

/-- Whatever is written to a temporary file, sources stay whole. -/
theorem write (whole : generator.Whole start tree readings) (plain : Plain name)
    (member : name ∈ generator.settings.templates) {part : ByteArray}
    (written : tree.write (generator.settings.outputPath name ++ ".tmp") part = .ok after) :
    generator.Whole start after readings := by
  obtain ⟨place, located, free, rfl⟩ := write_ok_iff.1 written
  apply whole.next (sameDirectories_insert free part)
  intro other differs
  rw [eq_of_insert_differs (ne_nil_of_free free) differs]
  exact whole.touched_hidden plain member located _

theorem remove (whole : generator.Whole start tree readings) (plain : Plain name)
    (member : name ∈ generator.settings.templates)
    (removed : tree.remove (generator.settings.outputPath name ++ ".tmp") = .ok after) :
    generator.Whole start after readings := by
  obtain ⟨place, contents, located, found, rfl⟩ := remove_ok_iff.1 removed
  have free := free_of_file found
  apply whole.next (sameDirectories_erase free)
  intro other differs
  rw [eq_of_erase_differs (ne_nil_of_free free) differs]
  exact whole.touched_hidden plain member located _

/-- A temporary file becomes the source when all of the text is in it. -/
theorem rename (whole : generator.Whole start between readings) (plain : Plain name)
    (member : name ∈ generator.settings.templates)
    (rendered : generator.Rendered readings name text)
    (written : tree.write (generator.settings.outputPath name ++ ".tmp") text.toUTF8 = .ok between)
    (renamed : between.rename (generator.settings.outputPath name ++ ".tmp")
      (generator.settings.outputPath name) = .ok after) : generator.Whole start after readings := by
  obtain ⟨hidden, hiddenAt, free, rfl⟩ := write_ok_iff.1 written
  obtain ⟨origin, output, contents, originAt, target, moved, rfl⟩ := rename_ok_iff.1 renamed
  obtain ⟨outputAt, outputFree⟩ := locate_of_locateTarget target
  cases locate_unique originAt hiddenAt
  have originFree := free_of_file moved
  rw [entry?_insert (ne_nil_of_free free), if_pos rfl] at moved
  cases moved
  apply whole.next (sameDirectories_move originFree outputFree _)
  intro place differs
  rcases eq_of_move_differs originFree outputFree differs with rfl | rfl
  · obtain ⟨above, entered, directory, same⟩ := whole.child (proper_output plain) outputAt
    refine ⟨name, member, above, entered, directory, .inr ⟨same, text, rendered, ?_⟩⟩
    rw [entry?_move originFree outputFree, if_pos rfl]
  · exact whole.touched_hidden plain member originAt _

/-- A source is what it was, or the whole of a text. -/
theorem output (whole : generator.Whole start tree readings) (plain : Plain name) :
    tree.read (generator.settings.outputPath name) =
        start.read (generator.settings.outputPath name) ∨
      ∃ text, generator.Rendered readings name text ∧
        tree.read (generator.settings.outputPath name) = .ok text.toUTF8 := by
  by_cases unchanged : ∀ place, tree.entry? place = start.entry? place
  · exact .inl (read_of_entries unchanged _)
  · -- Something has changed, so the directory of the templates is there.
    obtain ⟨changed, differs⟩ := Classical.not_forall.1 unchanged
    obtain ⟨-, -, above, entered, directory, -⟩ := whole.touched changed differs
    have located : tree.locate (generator.settings.outputPath name) =
        start.locate (generator.settings.outputPath name) :=
      locate_join_eq whole.directories (proper_output plain).plain entered directory
    cases leads : start.locate (generator.settings.outputPath name) with
    | error fault =>
      refine .inl (read_congr located ?_)
      rw [leads]
      exact nofun
    | ok place =>
      by_cases same : tree.entry? place = start.entry? place
      · refine .inl (read_congr located ?_)
        rw [leads]
        intro found leads'
        cases leads'
        exact same
      · obtain ⟨above', -, rfl⟩ := locate_outputPath plain leads
        obtain ⟨other, -, above'', -, -, hidden | ⟨output, text, rendered, held⟩⟩ :=
          whole.touched _ same
        · obtain ⟨rfl, -⟩ := List.append_inj' hidden rfl
          exact absurd hidden (outputPlace_ne_hiddenPlace above' name other)
        · obtain ⟨rfl, -⟩ := List.append_inj' output rfl
          cases outputPlace_injective output
          exact .inr ⟨text, rendered, (read_ok_iff_of_locate (located.trans leads)).2 held⟩

end Whole

/-! ### Every moment -/

/-- A step that clears up when it fails is safe if the clearing up is. -/
theorem safe_clearing {good post : Good home} {target temporary : String}
    {step : Job (Except FileFault Unit)}
    (safe : step.Safe good (fun result left later => result = .ok () → post left later) tree readings)
    (removing : ∀ left later rest, good left later → left.remove temporary = .ok rest →
      good rest later) :
    (clearing target temporary step).Safe good (fun _ => post) tree readings := by
  refine Job.Safe.bind (Job.Safe.bind safe ?_ : Job.Safe good
    (fun result left later => result = .ok () → post left later) _ tree readings) ?_
  · rintro (fault | ⟨⟩) left later kept found
    · exact ⟨fun _ => ⟨kept, nofun⟩,
        fun rest removed => ⟨removing left later rest kept removed, nofun⟩⟩
    · exact ⟨kept, fun _ => found rfl⟩
  · rintro (fault | ⟨⟩) left later kept found
    · exact ⟨kept, nofun⟩
    · exact ⟨kept, fun _ _ => found rfl⟩

theorem safe_replaceFile (plain : Plain name) (member : name ∈ generator.settings.templates)
    (whole : generator.Whole start tree readings)
    (rendered : generator.Rendered readings name text) :
    (replaceFile (generator.settings.outputPath name) text).Safe (generator.Whole start)
      (fun _ _ _ => True) tree readings := by
  rw [replaceFile_eq]
  have removing : ∀ left later rest, generator.Whole start left later →
      left.remove (generator.settings.outputPath name ++ ".tmp") = .ok rest →
      generator.Whole start rest later :=
    fun left later rest kept removed => kept.remove plain member removed
  -- The rename has to know that the whole text is in the temporary file.
  have writing : (clearing (generator.settings.outputPath name ++ ".tmp")
      (generator.settings.outputPath name ++ ".tmp")
      (Job.writes (generator.settings.outputPath name ++ ".tmp") text)).Safe (generator.Whole start)
      (fun _ left later => later = readings ∧
        tree.write (generator.settings.outputPath name ++ ".tmp") text.toUTF8 = .ok left)
      tree readings := by
    refine safe_clearing ⟨fun _ => ⟨whole, nofun⟩, ?_, ?_⟩ removing
    · exact fun part rest after split begun _ => ⟨whole.write plain member begun, nofun⟩
    · exact fun after written => ⟨whole.write plain member written, fun _ => ⟨rfl, written⟩⟩
  refine writing.bind fun _ left later kept ⟨same, written⟩ => ?_
  subst same
  refine safe_clearing ⟨fun _ => ⟨kept, nofun⟩, fun after renamed => ⟨?_, fun _ => trivial⟩⟩ removing
  exact kept.rename plain member rendered written renamed

/-- A text that is read is among the readings. -/
theorem safe_readsText {good : Good home} {wrap : FileFault → Failure} {path : String}
    (kept : good tree readings) (later : ∀ contents, good tree ((path, contents) :: readings)) :
    (Attempt.orFail wrap (Job.readsText path)).Safe good
      (fun source _ later => (path, source.toUTF8) ∈ later) tree readings := by
  refine ⟨fun _ => ⟨kept, nofun⟩, fun contents _ => ⟨later contents, fun source result => ?_⟩⟩
  simp only [bind, Except.bind] at result
  cases decoded : String.fromUTF8? contents with
  | none =>
    rw [decoded] at result
    cases result
  | some found =>
    rw [decoded] at result
    cases result
    rw [fromUTF8?_eq_some_iff.1 decoded]
    exact List.mem_cons_self

theorem safe_render (whole : generator.Whole start tree readings) (name : String) :
    (generator.render name).Safe (generator.Whole start)
      (fun text _ later => generator.Rendered later name text) tree readings := by
  refine (safe_readsText whole fun contents => whole.later _).bind fun source left later kept read => ?_
  refine (Attempt.safe_report kept).bind fun _ left' later' _ ⟨same, same'⟩ => ?_
  subst same same'
  refine ⟨kept, fun text result => ⟨source, read, ?_⟩⟩
  cases rendered : (Template.ofSource source).render generator.substitutions with
  | error marker =>
    rw [rendered] at result
    cases result
  | ok found =>
    rw [rendered] at result
    cases result
    rfl

theorem safe_process (plain : Plain name) (member : name ∈ generator.settings.templates)
    (whole : generator.Whole start tree readings) :
    (generator.process name).Safe (generator.Whole start) (fun _ _ _ => True) tree readings := by
  apply Job.Safe.within
  refine (safe_render whole name).bind fun text left later kept rendered => ?_
  refine (safe_replaceFile plain member kept rendered).bind fun _ left' later' kept' _ => ?_
  refine (Attempt.safe_report kept').bind fun _ left'' later'' kept'' _ => ?_
  exact Attempt.safe_pure kept'' trivial

theorem safe_processAll {names : List String}
    (known : ∀ name ∈ names, Plain name ∧ name ∈ generator.settings.templates)
    (whole : generator.Whole start tree readings) :
    (generator.processAll names).Safe (generator.Whole start) (fun _ _ _ => True) tree readings := by
  induction names generalizing tree readings with
  | nil => exact Attempt.safe_pure whole trivial
  | cons name rest ih =>
    obtain ⟨⟨plain, member⟩, others⟩ := List.forall_mem_cons.1 known
    refine (safe_process plain member whole).bind fun path left later kept _ => ?_
    refine (ih others kept).bind fun paths left' later' kept' _ => ?_
    exact Attempt.safe_pure kept' trivial

/-- At every moment of a run, whatever has failed, every source is what it was at the start or the whole
of a text that its template has yielded during the run. -/
theorem sources_whole {generator : Generator}
    (valid : generator.settings.validate = .ok generator.settings) {start : FileTree home}
    {moment : Moment home (Except Failure (List String))}
    (reached : Moment.Reaches (.before generator.run.run start []) moment) :
    ∀ name ∈ generator.settings.templates,
      moment.tree.read (generator.settings.outputPath name) =
          start.read (generator.settings.outputPath name) ∨
        ∃ text, generator.Rendered moment.readings name text ∧
          moment.tree.read (generator.settings.outputPath name) = .ok text.toUTF8 := by
  have plain := plain_of_valid valid
  have safe : generator.run.Safe (generator.Whole start) (fun _ _ _ => True) start [] :=
    safe_processAll (fun name member => ⟨plain name member, member⟩)
      (whole_start generator start [])
  exact fun name member => (safe.reaches reached).output (plain name member)

/-- A run begins with the first template: it is read, and its text is written beside the source. -/
theorem threeTemplates_begins :
    ∃ next, ExceptT.run threeTemplates.run =
        .read (threeTemplates.settings.templatePath "a") next ∧
      ∃ follow, next (.ok "new\n".toUTF8) = .note ⟨some "a", .templateRead "a" 0⟩
        (.write (threeTemplates.settings.outputPath "a" ++ ".tmp")
          ("ne".toUTF8 ++ "w\n".toUTF8) follow) := by
  refine ⟨_, rfl, ?_⟩
  have decoded : String.fromUTF8? "new\n".toUTF8 = some "new\n" := fromUTF8?_eq_some_iff.2 rfl
  simp only [bind, Except.bind, decoded]
  exact ⟨_, rfl⟩

/-- The run is cut off in the middle of the first write: half of the text is beside the old source. -/
theorem sources_whole_amid_write :
    threeTemplates.settings.validate = .ok threeTemplates.settings ∧
      ∃ moment, Moment.Reaches (.before (ExceptT.run threeTemplates.run) threeFiles []) moment ∧
        moment.tree.read (threeTemplates.settings.outputPath "a" ++ ".tmp") = .ok "ne".toUTF8 ∧
        moment.tree.read (threeTemplates.settings.outputPath "a") = .ok "old\n".toUTF8 ∧
        ∀ name ∈ threeTemplates.settings.templates,
          moment.tree.read (threeTemplates.settings.outputPath name) =
              threeFiles.read (threeTemplates.settings.outputPath name) ∨
            ∃ text, threeTemplates.Rendered moment.readings name text ∧
              moment.tree.read (threeTemplates.settings.outputPath name) = .ok text.toUTF8 := by
  have valid : threeTemplates.settings.validate = .ok threeTemplates.settings := by rfl
  obtain ⟨next, begins, follow, goesOn⟩ := threeTemplates_begins
  have held : threeFiles.read (threeTemplates.settings.templatePath "a") = .ok "new\n".toUTF8 := by rfl
  let emptied : FileTree ["work"] := threeFiles.insert ["tmp", "lua", "a.lua.tmp"] (.file .empty)
  let begun : FileTree ["work"] := threeFiles.insert ["tmp", "lua", "a.lua.tmp"] (.file "ne".toUTF8)
  have truncated : threeFiles.truncate (threeTemplates.settings.outputPath "a" ++ ".tmp") =
      .ok emptied := by rfl
  have appended : emptied.append (threeTemplates.settings.outputPath "a" ++ ".tmp") "ne".toUTF8 =
      .ok begun := by rfl
  have reached : Moment.Reaches (.before (ExceptT.run threeTemplates.run) threeFiles [])
      ⟨.writing (threeTemplates.settings.outputPath "a" ++ ".tmp") "w\n".toUTF8 follow, begun,
        [(threeTemplates.settings.templatePath "a", "new\n".toUTF8)]⟩ := by
    rw [begins]
    refine .head (.read held) ?_
    rw [goesOn]
    exact .head .note (.head (.emptied truncated) (.single (.added appended)))
  refine ⟨valid, _, reached, by rfl, by rfl, ?_⟩
  exact sources_whole valid reached

end ReqlLua.Generator
