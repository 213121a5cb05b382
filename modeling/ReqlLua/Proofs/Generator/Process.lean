import ReqlLua.Proofs.Files.Effect
import ReqlLua.Proofs.Generator.Place
import ReqlLua.Proofs.Generator.Turn

/-! When a template can be processed, the whole tree that its processing leaves, and what is left when it
fails. -/

namespace ReqlLua.Generator

open FileTree ReqlLua.Path

variable {generator : Generator} {home above : Location} {name text : String} {tree after : FileTree home}

/-! ### Success -/

/-- A file that holds the text which a template yields. -/
def Yields (generator : Generator) (template output : Option Entry) : Prop :=
  ∃ source text, template = some (.file source.toUTF8) ∧
    Template.splice source generator.substitutions = .ok text ∧
    output = some (.file text.toUTF8)

theorem Yields.unique {generator : Generator} {template first second : Option Entry}
    (one : generator.Yields template first) (other : generator.Yields template second) :
    first = second := by
  obtain ⟨source, text, held, spliced, rfl⟩ := one
  obtain ⟨source', text', held', spliced', rfl⟩ := other
  rw [held, Option.some.injEq, Entry.file.injEq] at held'
  rw [← toUTF8_injective held', spliced] at spliced'
  cases spliced'
  rfl

/-- All that processing a template asks of a tree, and the text that comes of it. -/
structure Ready (generator : Generator) (above : Location) (name text : String) (tree : FileTree home) :
    Prop where
  templateAt : tree.locate (generator.settings.templatePath name) = .ok (templatePlace above name)
  outputAt : tree.locate (generator.settings.outputPath name) = .ok (outputPlace above name)
  hiddenAt : tree.locate (generator.settings.outputPath name ++ ".tmp") =
    .ok (hiddenPlace above name)
  yields : generator.Yields (tree.entry? (templatePlace above name)) (some (.file text.toUTF8))
  outputFree : tree.entry? (outputPlace above name) ≠ some .directory
  hiddenFree : tree.entry? (hiddenPlace above name) ≠ some .directory

/-- The tree with a text in the place of a source, and no temporary file beside it. -/
def replaced (tree : FileTree home) (above : Location) (name text : String) : FileTree home :=
  (tree.erase (hiddenPlace above name)).insert (outputPlace above name) (.file text.toUTF8)

theorem entry?_replaced (tree : FileTree home) (above : Location) (name text : String)
    (location : Location) :
    entry? (replaced tree above name text) location =
      if location = outputPlace above name then some (.file text.toUTF8)
      else if location = hiddenPlace above name then none else tree.entry? location := by
  unfold replaced
  rw [entry?_insert (outputPlace_ne_nil above name), entry?_erase (hiddenPlace_ne_nil above name)]

/-- A tree that holds the text of a source already, and no temporary file, is left as it is. -/
theorem replaced_same (output : tree.entry? (outputPlace above name) = some (.file text.toUTF8))
    (hidden : tree.entry? (hiddenPlace above name) = none) :
    replaced tree above name text = tree := by
  unfold replaced
  rw [erase_of_missing (hiddenPlace_ne_nil above name) hidden,
    insert_of_held (outputPlace_ne_nil above name) output]

theorem Ready.replaceFile (ready : generator.Ready above name text tree) (plain : Plain name) :
    Attempt.on (replaceFile (generator.settings.outputPath name) text) tree =
      (.ok (), replaced tree above name text) := by
  have target : tree.locateTarget (generator.settings.outputPath name) = .ok (outputPlace above name) :=
    (locateTarget_join (proper_output plain)).2 ⟨ready.outputAt, ready.outputFree⟩
  exact on_replaceFile_ok.2
    (write_rename_ok_iff.2 ⟨_, _, ready.hiddenAt, ready.hiddenFree, target, rfl⟩)

theorem sameDirectories_replaced (ready : generator.Ready above name text tree) :
    SameDirectories tree (replaced tree above name text) :=
  sameDirectories_move ready.hiddenFree ready.outputFree text.toUTF8

theorem Ready.render (ready : generator.Ready above name text tree) :
    Attempt.on (generator.render name) tree = (.ok text, tree) := by
  obtain ⟨source, text', held, spliced, same⟩ := ready.yields
  rw [Option.some.injEq, Entry.file.injEq] at same
  rw [← toUTF8_injective same] at spliced
  exact on_render_ok.2 ⟨rfl, source, (read_ok_iff_of_locate ready.templateAt).2 held, spliced⟩

theorem Ready.process (ready : generator.Ready above name text tree) (plain : Plain name) :
    Attempt.on (generator.process name) tree =
      (.ok (generator.settings.outputPath name), replaced tree above name text) :=
  on_process_ok.2 ⟨rfl, text, ready.render, ready.replaceFile plain⟩

/-- What succeeds was ready for it. -/
theorem ready_of_process {path : String} (plain : Plain name)
    (processed : Attempt.on (generator.process name) tree = (.ok path, after)) :
    path = generator.settings.outputPath name ∧
      ∃ above text, generator.Ready above name text tree ∧ after = replaced tree above name text := by
  obtain ⟨same, text, rendered, replacing⟩ := on_process_ok.1 processed
  obtain ⟨-, source, read, spliced⟩ := on_render_ok.1 rendered
  obtain ⟨between, written, renamed⟩ := on_replaceFile_ok.1 replacing
  obtain ⟨template, templateAt, held⟩ := read_ok_iff.1 read
  obtain ⟨hidden, output, hiddenAt, hiddenFree, target, rfl⟩ :=
    write_rename_ok_iff.1 ⟨between, written, renamed⟩
  obtain ⟨outputAt, outputFree⟩ := locate_of_locateTarget target
  obtain ⟨above, entered, rfl⟩ := locate_templatePath plain templateAt
  obtain ⟨above', entered', rfl⟩ := locate_outputPath plain outputAt
  obtain ⟨above'', entered'', rfl⟩ := locate_hiddenPath plain hiddenAt
  rw [entered] at entered' entered''
  cases entered'
  cases entered''
  refine ⟨same, above, text, ?_, rfl⟩
  exact
    { templateAt := templateAt
      outputAt := outputAt
      hiddenAt := hiddenAt
      yields := ⟨source, text, held, spliced, rfl⟩
      outputFree := outputFree
      hiddenFree := hiddenFree }

/-! ### Failure -/

theorem on_render_tree (generator : Generator) (name : String) (tree : FileTree home) :
    (Attempt.on (generator.render name) tree).2 = tree := by
  unfold render
  rw [Attempt.on_bind, Attempt.on_orFail, Job.readsText]
  simp only [Job.runOn]
  split
  · next failure left reached => exact (congrArg Prod.snd reached).symm
  · next source left reached =>
    rw [Attempt.on_bind_of_ok (Attempt.on_report _ left), Attempt.on_ofExcept]
    exact (congrArg Prod.snd reached).symm

/-- A template with a marker for which there is no text writes nothing. -/
theorem process_unresolved {source : String} {marker : Unresolved}
    (held : tree.read (generator.settings.templatePath name) = .ok source.toUTF8)
    (spliced : Template.splice source generator.substitutions = .error marker) :
    Attempt.on (generator.process name) tree = (.error (.unresolved marker), tree) := by
  have rendered : Attempt.on (generator.render name) tree = (.error (.unresolved marker), tree) := by
    unfold render
    rw [Attempt.on_bind_of_ok (on_readsText_ok.2 ⟨rfl, held⟩),
      Attempt.on_bind_of_ok (Attempt.on_report _ tree), Attempt.on_ofExcept]
    exact congrArg (fun result => (Except.mapError Failure.unresolved result, tree)) spliced
  unfold process
  rw [Attempt.on_within, Attempt.on_bind, rendered]

theorem cleared_cases (tree : FileTree home) (path : String) :
    cleared tree path = tree ∨ ∃ place contents, tree.locate path = .ok place ∧
      tree.entry? place = some (.file contents) ∧ cleared tree path = tree.erase place := by
  unfold cleared
  cases removed : tree.remove path with
  | error fault => exact .inl rfl
  | ok rest =>
    obtain ⟨place, contents, located, found, rfl⟩ := remove_ok_iff.1 removed
    exact .inr ⟨place, contents, located, found, rfl⟩

/-- A temporary file that was begun is gone with what was there before. -/
theorem cleared_write {path : String} {contents : ByteArray} {between : FileTree home}
    (written : tree.write path contents = .ok between) : cleared between path = cleared tree path := by
  obtain ⟨place, located, free, rfl⟩ := write_ok_iff.1 written
  have same := sameDirectories_insert free contents
  have removed : (tree.insert place (.file contents)).remove path = .ok (tree.erase place) := by
    refine remove_ok_iff.2 ⟨place, contents, same.locate located, ?_, ?_⟩
    · rw [entry?_insert (ne_nil_of_free free), if_pos rfl]
    · rw [erase_insert]
  unfold cleared
  rw [removed]
  cases gone : tree.remove path with
  | ok rest =>
    obtain ⟨place', held, located', -, rfl⟩ := remove_ok_iff.1 gone
    cases locate_unique located located'
    rfl
  | error fault =>
    -- Nothing can be removed because nothing is there.
    have missing : tree.entry? place = none := by
      cases found : tree.entry? place with
      | none => rfl
      | some entry =>
        cases entry with
        | directory => exact absurd found free
        | file held =>
          rw [remove_ok_iff.2 ⟨place, held, located, found, rfl⟩] at gone
          cases gone
    exact erase_of_missing (ne_nil_of_free free) missing

theorem replaceFile_failed {path : String} {failure : Failure}
    (failed : Attempt.on (Generator.replaceFile path text) tree = (.error failure, after)) :
    after = cleared tree (path ++ ".tmp") := by
  rw [on_replaceFile] at failed
  simp only at failed
  split at failed
  · cases failed
    rfl
  · next between written =>
    split at failed
    · cases failed
      exact cleared_write written
    · cases failed

/-- A failure changes nothing, except that a temporary file may be gone. -/
theorem process_failed {failure : Failure}
    (failed : Attempt.on (generator.process name) tree = (.error failure, after)) :
    after = tree ∨ after = cleared tree (generator.settings.outputPath name ++ ".tmp") := by
  unfold process at failed
  rw [Attempt.on_within] at failed
  have kept := on_render_tree generator name tree
  rcases Attempt.of_on_bind_error failed with first | ⟨text, between, first, failed⟩
  · rw [first] at kept
    exact .inl kept
  · rw [first] at kept
    have same : between = tree := kept
    rw [same] at failed
    rcases Attempt.of_on_bind_error failed with second | ⟨⟨⟩, left, -, failed⟩
    · exact .inr (replaceFile_failed second)
    · -- Once the file is replaced, only a report is left.
      cases failed

end ReqlLua.Generator
