import ReqlLua.Proofs.CommandLine.Arguments
import ReqlLua.Proofs.Generator.FirstFailure
import ReqlLua.Proofs.Generator.Inputs
import ReqlLua.Proofs.Settings.Accepted
import ReqlLua.Proofs.Settings.Loading

/-! What the program prints and the code it ends with, for arguments that give each option at most once. -/

namespace ReqlLua.CommandLine

variable {home : Location} {α β : Type} {tree left : FileTree home} {directory : String} {options : Options}

/-! ### Stages -/

/-- What stages come to on a tree, and the tree afterwards. -/
def reached (stages : ExceptT String Job α) (tree : FileTree home) : Except String α × FileTree home :=
  let outcome := stages.run.runOn tree
  (outcome.result, outcome.tree)

theorem reached_bind (first : ExceptT String Job α) (follow : α → ExceptT String Job β)
    (tree : FileTree home) :
    reached (first >>= follow) tree =
      match reached first tree with
      | (.error report, left) => (.error report, left)
      | (.ok value, left) => reached (follow value) left := by
  simp only [reached, ExceptT.run_bind, Job.runOn_bind]
  cases (first.run.runOn tree).result <;> rfl

theorem reached_bind_ok {first : ExceptT String Job α} {follow : α → ExceptT String Job β}
    {result : β} :
    reached (first >>= follow) tree = (.ok result, left) ↔
      ∃ value between, reached first tree = (.ok value, between) ∧
        reached (follow value) between = (.ok result, left) := by
  rw [reached_bind]
  constructor
  · intro succeeds
    split at succeeds
    · cases succeeds
    · next value between same => exact ⟨value, between, same, succeeds⟩
  · rintro ⟨value, between, same, succeeds⟩
    rw [same]
    exact succeeds

/-- A stage succeeds with its attempt. -/
theorem reached_stage_ok {context : String} {attempt : Attempt α} {value : α} :
    reached (stage context attempt) tree = (.ok value, left) ↔
      Attempt.on attempt tree = (.ok value, left) := by
  have staged : reached (stage context attempt) tree =
      ((Attempt.on attempt tree).1.mapError fun failure => errorReport context (causesOf failure),
        (Attempt.on attempt tree).2) := by
    simp only [reached, stage, ExceptT.run_mk, Job.runOn_bind]
    rfl
  rw [staged]
  cases found : Attempt.on attempt tree with
  | mk result after =>
    cases result with
    | error failure =>
      constructor <;> intro same <;> cases congrArg Prod.fst same
    | ok other => simp only [Except.mapError, Prod.mk.injEq, Except.ok.injEq]

theorem reached_reports (paths : List String) (tree : FileTree home) :
    reached (paths.forM fun path =>
      stage "Failed to build templates" (Attempt.report (.sourceBuilt path))) tree = (.ok (), tree) := by
  induction paths with
  | nil => rfl
  | cons path paths ih => exact reached_bind_ok.2 ⟨(), tree, rfl, ih⟩

/-- Loading the settings, preparing the generator and running it succeed one after another. -/
structure Succeeds (directory : String) (config : Option String) (settings : Settings)
    (generator : Generator) (tree after : FileTree home) : Prop where
  loaded : Attempt.on (Settings.load directory config) tree = (.ok settings, tree)
  prepared : Attempt.on (Generator.prepare settings) tree = (.ok generator, tree)
  ran : ∃ paths, Attempt.on generator.run tree = (.ok paths, after)

theorem reached_stages_ok {after : FileTree home} :
    reached (stages directory options) tree = (.ok (), after) ↔
      ∃ settings generator, Succeeds directory options.config settings generator tree after := by
  constructor
  · intro succeeds
    obtain ⟨settings, first, loaded, succeeds⟩ := reached_bind_ok.1 succeeds
    obtain ⟨generator, second, prepared, succeeds⟩ := reached_bind_ok.1 succeeds
    obtain ⟨paths, third, ran, succeeds⟩ := reached_bind_ok.1 succeeds
    rw [reached_stage_ok] at loaded prepared ran
    rw [reached_reports] at succeeds
    cases succeeds
    have kept := Settings.on_load_tree directory options.config tree
    rw [loaded] at kept
    -- Neither loading nor preparing changes a file, so all three stages are on one tree.
    cases kept
    obtain ⟨rfl, -⟩ := Generator.prepare_ok prepared
    exact ⟨settings, generator, loaded, prepared, paths, ran⟩
  · rintro ⟨settings, generator, loaded, prepared, paths, ran⟩
    exact reached_bind_ok.2 ⟨settings, tree, reached_stage_ok.2 loaded,
      reached_bind_ok.2 ⟨generator, tree, reached_stage_ok.2 prepared,
        reached_bind_ok.2 ⟨paths, after, reached_stage_ok.2 ran, reached_reports paths after⟩⟩⟩

/-- When all has succeeded, every source that the settings name is written. -/
theorem Succeeds.completes {config : Option String} {settings : Settings} {generator : Generator}
    {after : FileTree home} (succeeds : Succeeds directory config settings generator tree after) :
    generator.settings = settings ∧ generator.Completes tree after := by
  obtain ⟨-, same, -⟩ := Generator.prepare_ok succeeds.prepared
  have valid := (Settings.Accepted.load succeeds.loaded).valid
  rw [← same] at valid
  obtain ⟨paths, ran⟩ := succeeds.ran
  obtain ⟨-, processed⟩ := Generator.processed_of_processAll ran
  refine ⟨same, processed.completes ?_⟩
  exact fun name member => Generator.plain_of_isTemplateName (valid.names name member)

/-- One template without markers, for the default settings. -/
theorem succeeds_default :
    ∃ generator after, after.read "lua/rethinkdb.lua" = .ok "return 1\n".toUTF8 ∧
      Succeeds "/work" none .default generator
        (Generator.clashTree [Generator.luaFile "rethinkdb.pre.lua" "return 1\n"]) after := by
  let template := Generator.luaFile "rethinkdb.pre.lua" "return 1\n"
  let tree := Generator.clashTree [template]
  let after := Generator.clashTree [Generator.luaFile "rethinkdb.lua" "return 1\n", template]
  have loaded : Attempt.on (Settings.load "/work" none) tree = (.ok .default, tree) := by rfl
  obtain ⟨blocks, prepared⟩ :=
    Generator.prepare_clash (show tree.read Settings.default.protodef = _ by rfl)
  let generator : Generator :=
    ⟨.default, Generator.substitutionsOf Generator.clashDefinition blocks⟩
  have spliced : Template.splice "return 1\n" generator.substitutions = .ok "return 1\n" := by rfl
  have processed : Attempt.on (generator.process "rethinkdb") tree =
      (.ok "lua/rethinkdb.lua", after) :=
    Generator.process_of_steps (show generator.settings = Settings.default by rfl) (by rfl) spliced
      (by rfl) (by rfl)
  have ran : Attempt.on generator.run tree = (.ok ["lua/rethinkdb.lua"], after) := by
    change Attempt.on (generator.processAll ["rethinkdb"]) tree = _
    simp only [Generator.processAll, Attempt.on_bind_of_ok processed, Attempt.on_pure, Attempt.on_bind]
  exact ⟨generator, after, by rfl, loaded, prepared, _, ran⟩

/-! ### Runs -/

theorem generate_bad (level : options.level? = none) (tree : FileTree home) :
    (generate directory options).runOn tree = ⟨⟨1, "", levelReport options.levelText⟩, tree, []⟩ := by
  rw [generate, level]
  rfl

/-- How a run ends whose stages have come to a result. -/
def ended : Except String Unit → Outcome
  | .ok () => ⟨0, "building source\nbuilding successful\n", ""⟩
  | .error report => ⟨1, "building source\n", report⟩

theorem generate_good (directory : String) {limit : Level} (level : options.level? = some limit)
    (tree : FileTree home) :
    ((generate directory options).runOn tree).result =
        ended (reached (stages directory options) tree).1 ∧
      ((generate directory options).runOn tree).tree =
        (reached (stages directory options) tree).2 := by
  rw [generate, level]
  simp only [Job.runOn_bind, reached]
  cases ((stages directory options).run.runOn tree).result <;> exact ⟨rfl, rfl⟩

/-- A run does not depend on the level, as long as it is understood, or on the colours. -/
theorem generate_congr {other : Options} (same : other.config = options.config)
    (level : options.level?.isSome) (level' : other.level?.isSome) :
    generate directory other = generate directory options := by
  obtain ⟨limit, level⟩ := Option.isSome_iff_exists.1 level
  obtain ⟨limit', level'⟩ := Option.isSome_iff_exists.1 level'
  rw [generate, generate, level, level', stages, stages, same]

theorem answer_items {items : List Item} (distinct : (items.map Item.name).Nodup)
    (fit : items.all Item.fits = true) :
    answer directory (items.flatMap Item.arguments) = generate directory (optionsOf items) := by
  rw [answer, read_items distinct, if_pos fit]

theorem answer_unfit {items : List Item} (distinct : (items.map Item.name).Nodup)
    (unfit : items.all Item.fits = false) :
    answer directory (items.flatMap Item.arguments) = pure ⟨2, "", usageText⟩ := by
  rw [answer, read_items distinct, if_neg (by simp [unfit])]

/-- The end of a run that has begun. It tells whether all stages succeed; when they do, the sources are
written. -/
structure Tells (directory : String) (config : Option String) (tree : FileTree home)
    (outcome : Job.Outcome home Outcome) : Prop where
  success : (outcome.result.code = 0 ∧
      outcome.result.output = "building source\nbuilding successful\n") ↔
    ∃ settings generator after, Succeeds directory config settings generator tree after
  failure : (outcome.result.code = 1 ∧ outcome.result.output = "building source\n") ↔
    ¬∃ settings generator after, Succeeds directory config settings generator tree after
  written : ∀ settings generator after, Succeeds directory config settings generator tree after →
    after = outcome.tree ∧ generator.settings = settings ∧ generator.Completes tree after

theorem generate_tells (level : options.level?.isSome) (tree : FileTree home) :
    Tells directory options.config tree ((generate directory options).runOn tree) := by
  obtain ⟨limit, level⟩ := Option.isSome_iff_exists.1 level
  obtain ⟨result, left⟩ := generate_good directory level tree
  cases came : reached (stages directory options) tree with
  | mk reachedEnd after =>
    rw [came] at result left
    cases reachedEnd with
    | ok _ =>
      obtain ⟨settings, generator, succeeds⟩ := reached_stages_ok.1 came
      have success : ∃ settings generator after,
          Succeeds directory options.config settings generator tree after :=
        ⟨settings, generator, after, succeeds⟩
      constructor
      · rw [result]
        exact iff_of_true ⟨rfl, rfl⟩ success
      · rw [result]
        exact iff_of_false (by simp [ended]) (not_not_intro success)
      · intro settings' generator' after' succeeds'
        have came' := reached_stages_ok.2 ⟨settings', generator', succeeds'⟩
        rw [came] at came'
        cases came'
        exact ⟨left.symm, succeeds'.completes⟩
    | error report =>
      have failure : ¬∃ settings generator after,
          Succeeds directory options.config settings generator tree after := by
        rintro ⟨settings, generator, after', succeeds⟩
        rw [reached_stages_ok.2 ⟨settings, generator, succeeds⟩] at came
        cases came
      constructor
      · rw [result]
        exact iff_of_false (by simp [ended]) failure
      · rw [result]
        exact iff_of_true ⟨rfl, rfl⟩ failure
      · exact fun settings generator after succeeds => absurd ⟨_, _, _, succeeds⟩ failure

/-- Code, output and files for options that are given once each. A value that does not fit is refused, and
so is a level that is not understood. Otherwise the run tells whether all of its stages succeed, and the
level and the colours make no difference. -/
theorem outcome_of_items (directory : String) {items : List Item}
    (distinct : (items.map Item.name).Nodup) (tree : FileTree home) :
    let outcome := (answer directory (items.flatMap Item.arguments)).runOn tree
    let options := optionsOf items
    (items.all Item.fits = false →
      outcome.result.code = 2 ∧ outcome.result.output = "" ∧ outcome.tree = tree) ∧
    (items.all Item.fits = true → options.level? = none →
      outcome.result.code = 1 ∧ outcome.result.output = "" ∧ outcome.tree = tree) ∧
    (items.all Item.fits = true → options.level?.isSome →
      Tells directory options.config tree outcome ∧
      ∀ others : List Item, (others.map Item.name).Nodup → others.all Item.fits = true →
        (optionsOf others).config = options.config → (optionsOf others).level?.isSome →
        (answer directory (others.flatMap Item.arguments)).runOn tree = outcome) := by
  intro outcome options
  refine ⟨?_, ?_, ?_⟩
  · intro unfit
    have refused : outcome = ⟨⟨2, "", usageText⟩, tree, []⟩ := by
      simp only [outcome, answer_unfit distinct unfit]
      rfl
    rw [refused]
    exact ⟨rfl, rfl, rfl⟩
  · intro fit bad
    have refused : outcome = ⟨⟨1, "", levelReport options.levelText⟩, tree, []⟩ := by
      simp only [outcome, answer_items distinct fit]
      exact generate_bad bad tree
    rw [refused]
    exact ⟨rfl, rfl, rfl⟩
  · intro fit good
    have begun : outcome = (generate directory options).runOn tree := by
      simp only [outcome, answer_items distinct fit, options]
    rw [begun]
    refine ⟨generate_tells good tree, ?_⟩
    intro others distinct' fit' sameConfig good'
    rw [answer_items distinct' fit', generate_congr sameConfig good good']

/-- Values that do not fit end the program with another code and without a line on the start of a run,
though the level of the first is none and that of the second is understood. -/
theorem outcome_of_unfit_values :
    let level := (answer "/work" ["--log-level", "-x"]).runOn .bare
    let path := (answer "/work" ["--config", ""]).runOn .bare
    Level.ofText? "-x" = none ∧ level.result.code = 2 ∧
      Level.ofText? defaultLevel = some .warn ∧ path.result.code = 2 ∧ path.result.output = "" := by
  decide +kernel

/-- Without options and with two of them the run succeeds in the same way. -/
theorem outcome_of_items_success :
    let tree := Generator.clashTree [Generator.luaFile "rethinkdb.pre.lua" "return 1\n"]
    let outcome := (answer "/work" ["--no-color", "--log-level=trace"]).runOn tree
    outcome.result.code = 0 ∧
      outcome.result.output = "building source\nbuilding successful\n" ∧
      outcome.tree.read "lua/rethinkdb.lua" = .ok "return 1\n".toUTF8 ∧
      (answer "/work" []).runOn tree = outcome := by
  intro tree outcome
  obtain ⟨generator, after, written, succeeds⟩ : ∃ generator after,
      after.read "lua/rethinkdb.lua" = .ok "return 1\n".toUTF8 ∧
      Succeeds "/work" none .default generator tree after := succeeds_default
  clear_value tree
  have distinct : (([.noColor, .logLevel "trace" true] : List Item).map Item.name).Nodup := by
    decide
  obtain ⟨-, -, begun⟩ := outcome_of_items "/work" distinct tree
  obtain ⟨tells, others⟩ := begun (by decide) (by decide +kernel)
  obtain ⟨code, output⟩ := tells.success.2 ⟨_, _, _, succeeds⟩
  obtain ⟨left, -⟩ := tells.written _ _ _ succeeds
  rw [left] at written
  exact ⟨code, output, written, others [] .nil rfl rfl (by decide +kernel)⟩

end ReqlLua.CommandLine
