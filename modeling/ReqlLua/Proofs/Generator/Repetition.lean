import ReqlLua.Proofs.Generator.Inputs
import ReqlLua.Proofs.Generator.Sequence

/-! What a run leaves depends on its inputs alone, if no source takes the place of one of them: a second
run changes nothing, and other files make no difference. -/

namespace ReqlLua

variable {home : Location}

/-- Two paths lead to one place. -/
def FileTree.SameFile (tree : FileTree home) (first second : String) : Prop :=
  ∃ place, tree.locate first = .ok place ∧ tree.locate second = .ok place

theorem FileTree.sameFile_iff {tree : FileTree home} {first second : String} :
    tree.SameFile first second ↔ (tree.locate first).toOption.isSome ∧
      (tree.locate first).toOption = (tree.locate second).toOption := by
  unfold SameFile
  cases tree.locate first <;> cases tree.locate second <;> simp [Except.toOption, eq_comm]

instance (tree : FileTree home) (first second : String) : Decidable (tree.SameFile first second) :=
  decidable_of_iff _ FileTree.sameFile_iff.symm

/-- No source, and no temporary file of one, is a file that the run reads. -/
def Settings.Apart (settings : Settings) (tree : FileTree home) : Prop :=
  ∀ name ∈ settings.templates, ∀ input ∈ settings.inputs,
    ¬ tree.SameFile (settings.outputPath name) input ∧
    ¬ tree.SameFile (settings.outputPath name ++ ".tmp") input

instance (settings : Settings) (tree : FileTree home) : Decidable (settings.Apart tree) :=
  inferInstanceAs (Decidable (∀ name ∈ settings.templates, ∀ input ∈ settings.inputs,
    ¬ tree.SameFile (settings.outputPath name) input ∧
    ¬ tree.SameFile (settings.outputPath name ++ ".tmp") input))

namespace Generator

open FileTree ReqlLua.Path

variable {settings : Settings} {generator : Generator} {above definition : Location}
  {paths : List String} {tree other after : FileTree home} {contents : ByteArray}

/-! ### Inputs apart from sources -/

/-- Where two paths lead does not depend on what else the tree holds. -/
theorem sameFile_elsewhere {first second : String} {place place' : Location}
    (same : other.SameFile first second) (located : tree.locate first = .ok place)
    (located' : tree.locate second = .ok place') : tree.SameFile first second := by
  obtain ⟨found, one, two⟩ := same
  cases locate_unique one located
  cases locate_unique two located'
  exact ⟨place, located, located'⟩

/-- No template of the list is the source of another. -/
def Unmixed (names : List String) : Prop := ∀ name ∈ names, name ++ ".pre" ∉ names

namespace Turns

/-- The inputs of a run have places in its tree. -/
theorem located_inputs (turns : Turns generator above generator.settings.templates tree after)
    (definitionAt : tree.locate generator.settings.protodef = .ok definition) :
    ∀ input ∈ generator.settings.inputs, ∃ place, tree.locate input = .ok place := by
  unfold Settings.inputs
  rw [List.forall_mem_cons, List.forall_mem_map]
  exact ⟨⟨definition, definitionAt⟩, fun name member => ⟨_, (turns.located name member).1⟩⟩

theorem apart_elsewhere (turns : Turns generator above generator.settings.templates tree after)
    (definitionAt : tree.locate generator.settings.protodef = .ok definition)
    (apart : generator.settings.Apart tree) : generator.settings.Apart other := by
  intro name member input known
  obtain ⟨-, outputAt, hiddenAt⟩ := turns.located name member
  obtain ⟨place, inputAt⟩ := turns.located_inputs definitionAt input known
  obtain ⟨output, hidden⟩ := apart name member input known
  exact ⟨fun same => output (sameFile_elsewhere same outputAt inputAt),
    fun same => hidden (sameFile_elsewhere same hiddenAt inputAt)⟩

theorem unmixed (turns : Turns generator above generator.settings.templates tree after)
    (apart : generator.settings.Apart tree) : Unmixed generator.settings.templates := by
  intro name member longer
  have input : generator.settings.templatePath name ∈ generator.settings.inputs :=
    List.mem_cons_of_mem _ (List.mem_map_of_mem member)
  exact (apart _ longer _ input).1
    ⟨_, (turns.located _ longer).2.1, (turns.located name member).1⟩

theorem harmless_of_apart_inputs
    (turns : Turns generator above generator.settings.templates tree after)
    (apart : generator.settings.Apart tree) : generator.Harmless tree := by
  apply harmless_of_apart
  intro name member
  obtain ⟨-, outputAt, hiddenAt⟩ := turns.located name member
  obtain ⟨output, hidden⟩ := apart name member generator.settings.protodef List.mem_cons_self
  refine ⟨turns.unmixed apart name member, ?_, ?_⟩
  · intro same
    exact output ⟨_, outputAt, same.trans outputAt⟩
  · intro same
    exact hidden ⟨_, hiddenAt, same.trans hiddenAt⟩

/-- A run whose inputs are apart from its sources leaves them as they are, and every source holds
what its template yields. -/
theorem outputs_of_apart (turns : Turns generator above generator.settings.templates tree after)
    (definitionAt : tree.locate generator.settings.protodef = .ok definition)
    (held : tree.entry? definition = some (.file contents))
    (apart : generator.settings.Apart tree) :
    (∀ input ∈ generator.settings.inputs, after.read input = tree.read input) ∧
      ∀ name ∈ generator.settings.templates,
        after.entry? (templatePlace above name) = tree.entry? (templatePlace above name) ∧
        generator.Yields (tree.entry? (templatePlace above name))
          (after.entry? (outputPlace above name)) := by
  have harmless := turns.harmless_of_apart_inputs apart
  obtain ⟨keptDefinition, keptTemplates⟩ := kept_of_harmless turns definitionAt harmless
  refine ⟨(inputs_read_iff turns definitionAt held).2 ⟨keptDefinition, keptTemplates⟩, ?_⟩
  intro name member
  refine ⟨keptTemplates name member, ?_⟩
  rcases turns.output_cases (turns.steady_templates keptTemplates member) with
    ⟨missing, -⟩ | ⟨-, yields⟩
  · exact absurd member missing
  · exact yields

end Turns

/-! ### The same run again -/

/-- A template whose text is in place already is processed without any change. -/
theorem process_again {name : String} (plain : Plain name)
    (templateAt : tree.locate (generator.settings.templatePath name) = .ok (templatePlace above name))
    (outputAt : tree.locate (generator.settings.outputPath name) = .ok (outputPlace above name))
    (hiddenAt : tree.locate (generator.settings.outputPath name ++ ".tmp") =
      .ok (hiddenPlace above name))
    (yields : generator.Yields (tree.entry? (templatePlace above name))
      (tree.entry? (outputPlace above name)))
    (hidden : tree.entry? (hiddenPlace above name) = none) :
    Attempt.on (generator.process name) tree = (.ok (generator.settings.outputPath name), tree) := by
  obtain ⟨source, text, held, spliced, output⟩ := yields
  have ready : generator.Ready above name text tree :=
    { templateAt, outputAt, hiddenAt
      yields := ⟨source, text, held, spliced, rfl⟩
      outputFree := by
        rw [output]
        exact nofun
      hiddenFree := by
        rw [hidden]
        exact nofun }
  have processed := ready.process plain
  rwa [replaced_same output hidden] at processed

theorem processed_again {names : List String} (plain : ∀ name ∈ names, Plain name)
    (turns : Turns generator above names tree after)
    (yields : ∀ name ∈ names, generator.Yields (after.entry? (templatePlace above name))
      (after.entry? (outputPlace above name))) : generator.Processed names after after := by
  apply Processed.of_unchanged
  intro name member
  obtain ⟨templateAt, outputAt, hiddenAt⟩ := turns.located name member
  have same := turns.directories
  exact process_again (plain name member) (same.locate templateAt) (same.locate outputAt)
    (same.locate hiddenAt) (yields name member) (turns.hidden_gone (.inl member))

/-! ### Runs -/

/-- What a whole run comes to: the generator, and the turns of its templates. -/
theorem turns_of_generation (valid : settings.validate = .ok settings)
    (ran : Attempt.on (prepare settings >>= run) tree = (.ok paths, after)) :
    ∃ generator above definition contents, generator.settings = settings ∧
      Attempt.on (prepare settings) tree = (.ok generator, tree) ∧
      tree.locate settings.protodef = .ok definition ∧
      tree.entry? definition = some (.file contents) ∧
      Attempt.on generator.run tree = (.ok paths, after) ∧
      Turns generator above settings.templates tree after := by
  obtain ⟨generator, between, prepared, second⟩ := Attempt.of_on_bind_ok ran
  obtain ⟨rfl, rfl, source, read⟩ := prepare_ok prepared
  obtain ⟨definition, definitionAt, held⟩ := read_ok_iff.1 read
  obtain ⟨above, turns⟩ := turns_of_run (Settings.validate_ok valid).2 second
  exact ⟨generator, above, definition, _, rfl, prepared, definitionAt, held, second, turns⟩

/-- Turns of the same templates write the same sources. -/
theorem same_output {above' : Location} {names : List String} {left : FileTree home} {name : String}
    (turns : Turns generator above names tree after)
    (turns' : Turns generator above' names other left) (member : name ∈ names)
    (same : other.read (generator.settings.templatePath name) =
      tree.read (generator.settings.templatePath name))
    (yields : generator.Yields (tree.entry? (templatePlace above name))
      (after.entry? (outputPlace above name)))
    (yields' : generator.Yields (other.entry? (templatePlace above' name))
      (left.entry? (outputPlace above' name))) :
    ∃ text : String, after.read (generator.settings.outputPath name) = .ok text.toUTF8 ∧
      left.read (generator.settings.outputPath name) = .ok text.toUTF8 := by
  obtain ⟨templateAt, outputAt, -⟩ := turns.located name member
  obtain ⟨templateAt', outputAt', -⟩ := turns'.located name member
  cases List.append_cancel_right (locate_unique outputAt outputAt')
  have held : other.entry? (templatePlace above name) = tree.entry? (templatePlace above name) := by
    obtain ⟨source, text, found, -, -⟩ := yields
    rw [found, ← read_ok_iff_of_locate templateAt', same, read_ok_iff_of_locate templateAt, found]
  rw [held] at yields'
  have agree := yields'.unique yields
  obtain ⟨-, text, -, -, output⟩ := yields
  rw [output] at agree
  exact ⟨text, (read_ok_iff_of_locate (turns.directories.locate outputAt)).2 output,
    (read_ok_iff_of_locate (turns'.directories.locate outputAt')).2 agree⟩

/-- A run on what a run has left changes nothing, and runs on the same inputs write the same sources
whatever else the trees hold. -/
theorem run_depends_on_inputs (valid : settings.validate = .ok settings)
    (apart : settings.Apart tree)
    (ran : Attempt.on (prepare settings >>= run) tree = (.ok paths, after)) :
    Attempt.on (prepare settings >>= run) after = (.ok paths, after) ∧
      ∀ (other left : FileTree home) (paths' : List String),
        (∀ input ∈ settings.inputs, other.read input = tree.read input) →
        Attempt.on (prepare settings >>= run) other = (.ok paths', left) →
        ∀ name ∈ settings.templates, ∃ text : String,
          after.read (settings.outputPath name) = .ok text.toUTF8 ∧
          left.read (settings.outputPath name) = .ok text.toUTF8 := by
  obtain ⟨generator, above, definition, contents, rfl, prepared, definitionAt, held, second, turns⟩ :=
    turns_of_generation valid ran
  obtain ⟨keptInputs, outputs⟩ := turns.outputs_of_apart definitionAt held apart
  constructor
  · have again : generator.Processed generator.settings.templates after after := by
      apply processed_again (plain_of_valid valid) turns
      intro name member
      obtain ⟨kept, yields⟩ := outputs name member
      rwa [kept]
    obtain ⟨rfl, -⟩ := processed_of_processAll second
    have prepared' := prepare_of_same_definition prepared (keptInputs _ List.mem_cons_self)
    rw [Attempt.on_bind_of_ok prepared']
    exact again.processAll
  · intro other left paths' agree ran' name member
    obtain ⟨generator', above', definition', contents', settings, prepared', definitionAt', held', -,
      turns'⟩ := turns_of_generation valid ran'
    rw [prepare_of_same_definition prepared (agree _ List.mem_cons_self)] at prepared'
    cases prepared'
    have apart' : generator.settings.Apart other := turns.apart_elsewhere definitionAt apart
    obtain ⟨-, outputs'⟩ := turns'.outputs_of_apart definitionAt' held' apart'
    have input : generator.settings.templatePath name ∈ generator.settings.inputs :=
      List.mem_cons_of_mem _ (List.mem_map_of_mem member)
    exact same_output turns turns' member (agree _ input) (outputs name member).2 (outputs' name member).2

/-- Two templates in three turns. One path is absolute and the other leads through the directory above. -/
def threeTurns : Settings := ⟨"/work/proto/reql_protodef.json", "../work/lua", ["a", "b", "a"], 77⟩

def freshTree : FileTree ["work"] :=
  clashTree [luaFile "a.pre.lua" "one\n", luaFile "b.pre.lua" "two\n"]

/-- The same inputs beside a source and a temporary file of earlier runs. -/
def usedTree : FileTree ["work"] :=
  clashTree [luaFile "a.lua.tmp" "stale\n", luaFile "a.pre.lua" "one\n", luaFile "b.lua" "old\n",
    luaFile "b.pre.lua" "two\n"]

/-- The inputs and what is made from them. -/
def sourcesTree : FileTree ["work"] :=
  clashTree [luaFile "a.lua" "one\n", luaFile "a.pre.lua" "one\n", luaFile "b.lua" "two\n",
    luaFile "b.pre.lua" "two\n"]

theorem generation_threeTurns {files : List (Location × Entry)} {between : FileTree ["work"]}
    (held : (clashTree files).read threeTurns.protodef = .ok clashDefinition.json.toUTF8)
    (first : ∃ left, (clashTree files).read (threeTurns.templatePath "a") = .ok "one\n".toUTF8 ∧
      (clashTree files).write (threeTurns.outputPath "a" ++ ".tmp") "one\n".toUTF8 = .ok left ∧
      left.rename (threeTurns.outputPath "a" ++ ".tmp") (threeTurns.outputPath "a") = .ok between)
    (second : ∃ left, between.read (threeTurns.templatePath "b") = .ok "two\n".toUTF8 ∧
      between.write (threeTurns.outputPath "b" ++ ".tmp") "two\n".toUTF8 = .ok left ∧
      left.rename (threeTurns.outputPath "b" ++ ".tmp") (threeTurns.outputPath "b") =
        .ok sourcesTree) :
    Attempt.on (prepare threeTurns >>= run) (clashTree files) =
      (.ok (threeTurns.templates.map threeTurns.outputPath), sourcesTree) := by
  obtain ⟨blocks, prepared⟩ := prepare_clash held
  obtain ⟨left, template, written, renamed⟩ := first
  obtain ⟨left', template', written', renamed'⟩ := second
  let generator : Generator := ⟨threeTurns, substitutionsOf clashDefinition blocks⟩
  have known : generator.settings = threeTurns := rfl
  have one : Template.splice "one\n" generator.substitutions = .ok "one\n" := by rfl
  have two : Template.splice "two\n" generator.substitutions = .ok "two\n" := by rfl
  have processed : generator.Processed ["a", "b", "a"] (clashTree files) sourcesTree :=
    .cons (process_of_steps known template one written renamed) <|
    .cons (process_of_steps known template' two written' renamed') <|
    .cons (process_of_steps known (by rfl) one (by rfl) (by rfl)) (.nil _)
  rw [Attempt.on_bind_of_ok prepared]
  exact processed.processAll

/-- Neither a second run nor the files of earlier runs make a difference. -/
theorem run_depends_on_inputs_threeTurns :
    threeTurns.validate = .ok threeTurns ∧ threeTurns.Apart freshTree ∧
      Attempt.on (prepare threeTurns >>= run) freshTree =
        (.ok (threeTurns.templates.map threeTurns.outputPath), sourcesTree) ∧
      Attempt.on (prepare threeTurns >>= run) sourcesTree =
        (.ok (threeTurns.templates.map threeTurns.outputPath), sourcesTree) ∧
      ∃ after, Attempt.on (prepare threeTurns >>= run) usedTree =
          (.ok (threeTurns.templates.map threeTurns.outputPath), after) ∧
        ∀ name ∈ threeTurns.templates, ∃ text : String,
          sourcesTree.read (threeTurns.outputPath name) = .ok text.toUTF8 ∧
          after.read (threeTurns.outputPath name) = .ok text.toUTF8 := by
  have valid : threeTurns.validate = .ok threeTurns := by rfl
  have apart : threeTurns.Apart freshTree := by decide +kernel
  have ran : Attempt.on (prepare threeTurns >>= run) freshTree =
      (.ok (threeTurns.templates.map threeTurns.outputPath), sourcesTree) :=
    generation_threeTurns (by rfl) ⟨_, by rfl, by rfl, by rfl⟩ ⟨_, by rfl, by rfl, by rfl⟩
  have ran' : Attempt.on (prepare threeTurns >>= run) usedTree =
      (.ok (threeTurns.templates.map threeTurns.outputPath), sourcesTree) :=
    generation_threeTurns (by rfl) ⟨_, by rfl, by rfl, by rfl⟩ ⟨_, by rfl, by rfl, by rfl⟩
  have agree : ∀ input ∈ threeTurns.inputs, usedTree.read input = freshTree.read input := by
    simp only [Settings.inputs, threeTurns, List.map_cons, List.map_nil, List.forall_mem_cons]
    exact ⟨by rfl, by rfl, by rfl, by rfl, nofun⟩
  obtain ⟨again, same⟩ := run_depends_on_inputs valid apart ran
  exact ⟨valid, apart, ran, again, _, ran', same _ _ _ agree ran'⟩

end Generator

end ReqlLua
