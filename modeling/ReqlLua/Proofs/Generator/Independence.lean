import ReqlLua.Proofs.Generator.Repetition

/-! Templates are turned into sources independently of one another: the order in which the settings name
them makes no difference, unless the source of one is the template of another. -/

namespace ReqlLua.Generator

open FileTree ReqlLua.Path

variable {generator : Generator} {home above : Location} {names : List String} {tree after : FileTree home}

/-! ### Two templates -/

theorem templatePlace_ne_hiddenPlace (above : Location) (name other : String) :
    templatePlace above name ≠ hiddenPlace above other :=
  outputPlace_ne_hiddenPlace above _ other

/-- A template stays ready while another one is turned into a source. -/
theorem Ready.elsewhere {name other text text' : String}
    (ready : generator.Ready above name text tree)
    (first : generator.Ready above other text' tree) (differ : name ++ ".pre" ≠ other) :
    generator.Ready above name text (replaced tree above other text') := by
  have same := sameDirectories_replaced first
  have kept : entry? (replaced tree above other text') (templatePlace above name) =
      tree.entry? (templatePlace above name) := by
    have away : templatePlace above name ≠ outputPlace above other :=
      fun places => differ (outputPlace_injective places)
    rw [entry?_replaced, if_neg away, if_neg (templatePlace_ne_hiddenPlace above name other)]
  exact
    { templateAt := same.locate ready.templateAt
      outputAt := same.locate ready.outputAt
      hiddenAt := same.locate ready.hiddenAt
      yields := kept ▸ ready.yields
      outputFree := fun taken => ready.outputFree ((same _).2 taken)
      hiddenFree := fun taken => ready.hiddenFree ((same _).2 taken) }

/-- It makes no difference which of two sources is written first. -/
theorem replaced_comm (texts : String → String) (tree : FileTree home) (above : Location)
    (name other : String) :
    replaced (replaced tree above name (texts name)) above other (texts other) =
      replaced (replaced tree above other (texts other)) above name (texts name) := by
  by_cases same : name = other
  · rw [same]
  · have outputs : outputPlace above name ≠ outputPlace above other :=
      fun places => same (outputPlace_injective places)
    have mixed := outputPlace_ne_hiddenPlace above name other
    have mixed' := outputPlace_ne_hiddenPlace above other name
    -- A place is one of the sources or one of the temporary files, which are gone either way.
    refine congrArg FileTree.mk (Dictionary.eq_of_get? ?_)
    intro place
    simp only [replaced, FileTree.insert, FileTree.erase, Dictionary.get?_insert, Dictionary.get?_erase]
    by_cases here : place = outputPlace above name
    · subst here
      simp only [if_neg outputs, if_neg mixed, if_true]
    · by_cases there : place = outputPlace above other
      · subst there
        simp only [if_neg here, if_neg mixed', if_true]
      · simp only [if_neg here, if_neg there]
        split_ifs <;> rfl

/-! ### All templates -/

/-- The sources of the list, each with its text, in the tree. -/
def written (texts : String → String) (above : Location) (names : List String) (tree : FileTree home) :
    FileTree home :=
  names.foldl (fun tree name => replaced tree above name (texts name)) tree

theorem written_perm {texts : String → String} {others : List String} (same : names.Perm others)
    (tree : FileTree home) : written texts above names tree = written texts above others tree :=
  same.foldl_eq' (fun name _ other _ tree => replaced_comm texts tree above name other) tree

/-- Templates that are ready are processed one after another. -/
theorem processed_of_ready {texts : String → String} (plain : ∀ name ∈ names, Plain name)
    (unmixed : Unmixed names)
    (ready : ∀ name ∈ names, generator.Ready above name (texts name) tree) :
    generator.Processed names tree (written texts above names tree) := by
  -- The tree varies: what is ready in it is still so after the first turn.
  induction names generalizing tree with
  | nil => exact .nil tree
  | cons name rest ih =>
    have ready' := ready name List.mem_cons_self
    refine .cons (ready'.process (plain name List.mem_cons_self)) (ih ?_ ?_ ?_)
    · exact fun other member => plain other (List.mem_cons_of_mem name member)
    · intro other member longer
      exact unmixed other (List.mem_cons_of_mem name member) (List.mem_cons_of_mem name longer)
    · intro other member
      have known := List.mem_cons_of_mem name member
      have differ : other ++ ".pre" ≠ name := fun same =>
        unmixed other known (same ▸ List.mem_cons_self)
      exact (ready other known).elsewhere ready' differ

/-- Where templates have been processed one after another, each was ready at the start. -/
theorem Turns.ready (turns : Turns generator above names tree after) (unmixed : Unmixed names) :
    ∀ name ∈ names, ∃ text, generator.Ready above name text tree := by
  have kept : ∀ name ∈ names,
      after.entry? (templatePlace above name) = tree.entry? (templatePlace above name) := by
    intro name member
    apply turns.frame
    intro other known
    refine ⟨fun places => ?_, templatePlace_ne_hiddenPlace above name other⟩
    exact unmixed name member (outputPlace_injective places ▸ known)
  intro name member
  obtain ⟨templateAt, outputAt, hiddenAt⟩ := turns.located name member
  have same := turns.directories
  rcases turns.output_cases (turns.steady_templates kept member) with ⟨missing, -⟩ | ⟨-, yields⟩
  · exact absurd member missing
  · obtain ⟨source, text, held, spliced, output⟩ := yields
    refine ⟨text, templateAt, outputAt, hiddenAt, ⟨source, text, held, spliced, rfl⟩, ?_, ?_⟩
    · exact fun taken => free_of_file output ((same _).1 taken)
    · intro taken
      have there := (same _).1 taken
      rw [turns.hidden_gone (.inl member)] at there
      cases there

/-! ### Other orders -/

/-- The generator with other templates in its settings. -/
def withTemplates (generator : Generator) (templates : List String) : Generator :=
  { generator with settings := { generator.settings with templates } }

theorem processAll_withTemplates (generator : Generator) (templates names : List String) :
    (generator.withTemplates templates).processAll names = generator.processAll names := by
  induction names with
  | nil => rfl
  | cons name rest ih =>
    have first : (generator.withTemplates templates).process name = generator.process name := rfl
    rw [processAll, processAll, first, ih]

theorem valid_of_perm {settings : Settings} (valid : settings.Valid) {templates : List String}
    (permuted : settings.templates.Perm templates) :
    Settings.Valid { settings with templates } where
  someTemplate empty := valid.someTemplate (List.perm_nil.1 (empty ▸ permuted))
  names name member := valid.names name (permuted.mem_iff.2 member)
  wide := valid.wide

theorem apart_of_perm {settings : Settings} (apart : settings.Apart tree) {templates : List String}
    (permuted : settings.templates.Perm templates) :
    Settings.Apart { settings with templates } tree := by
  intro name member input known
  have known' : input ∈ settings.inputs := by
    unfold Settings.inputs at known ⊢
    exact ((permuted.map settings.templatePath).cons _).mem_iff.2 known
  exact apart name (permuted.mem_iff.2 member) input known'

/-- What has been run in one order can be run in any other, and leaves the same tree. -/
theorem run_withTemplates (valid : generator.settings.Valid) (apart : generator.settings.Apart tree)
    {templates paths : List String} (permuted : generator.settings.templates.Perm templates)
    (ran : Attempt.on generator.run tree = (.ok paths, after)) :
    Attempt.on (generator.withTemplates templates).run tree =
      (.ok (templates.map generator.settings.outputPath), after) := by
  obtain ⟨above, turns⟩ := turns_of_run valid ran
  have unmixed := turns.unmixed apart
  choose! texts ready using turns.ready unmixed
  have plain : ∀ name ∈ generator.settings.templates, Plain name :=
    fun name member => plain_of_isTemplateName (valid.names name member)
  have first := (processed_of_ready plain unmixed ready).processAll
  have other : generator.Processed templates tree (written texts above templates tree) := by
    apply processed_of_ready
    · exact fun name member => plain name (permuted.mem_iff.2 member)
    · exact fun name member longer =>
        unmixed name (permuted.mem_iff.2 member) (permuted.mem_iff.2 longer)
    · exact fun name member => ready name (permuted.mem_iff.2 member)
  have left : after = written texts above templates tree := by
    rw [← written_perm permuted]
    exact congrArg Prod.snd (ran.symm.trans first)
  rw [left]
  exact (congrArg (Attempt.on · tree) (processAll_withTemplates _ _ _)).trans other.processAll

/-- A run succeeds in one order of its templates exactly if it succeeds in any other. The same files are left
then, and each run returns the paths of the sources in its own order. -/
theorem run_permuted {settings : Settings} (valid : settings.validate = .ok settings)
    {templates : List String} (permuted : settings.templates.Perm templates)
    {definition : Definition} {tables : Tables} (apart : settings.Apart tree)
    (made : Attempt.on (ofTables settings definition tables) tree = (.ok generator, tree)) :
    ∃ generator', Attempt.on (ofTables { settings with templates } definition tables) tree =
        (.ok generator', tree) ∧
      ((∃ paths after, Attempt.on generator.run tree = (.ok paths, after)) ↔
        ∃ paths after, Attempt.on generator'.run tree = (.ok paths, after)) ∧
      ∀ paths paths' after after', Attempt.on generator.run tree = (.ok paths, after) →
        Attempt.on generator'.run tree = (.ok paths', after') →
        after = after' ∧ paths = settings.templates.map settings.outputPath ∧
          paths' = templates.map settings.outputPath := by
  obtain ⟨-, catalog, blocks, listed, generated, rfl⟩ := on_ofTables_ok.1 made
  let generator : Generator := ⟨settings, substitutionsOf definition blocks⟩
  have checked : generator.settings.Valid := (Settings.validate_ok valid).2
  have checked' : (generator.withTemplates templates).settings.Valid :=
    valid_of_perm checked permuted
  refine ⟨generator.withTemplates templates,
    on_ofTables_ok.2 ⟨rfl, catalog, blocks, listed, generated, rfl⟩, ⟨?_, ?_⟩, ?_⟩
  · rintro ⟨paths, after, ran⟩
    exact ⟨_, after, run_withTemplates checked apart permuted ran⟩
  · rintro ⟨paths, after, ran⟩
    have apart' : (generator.withTemplates templates).settings.Apart tree :=
      apart_of_perm apart permuted
    exact ⟨_, after, run_withTemplates checked' apart' permuted.symm ran⟩
  · intro paths paths' after after' ran ran'
    have other := run_withTemplates checked apart permuted ran
    rw [ran'] at other
    cases other
    exact ⟨rfl, (processed_of_processAll ran).1, rfl⟩

/-- Three turns of two templates in another order. -/
theorem run_permuted_threeTurns :
    let templates := ["b", "a", "a"]
    let tables := { Tables.reql with wrapWidth := threeTurns.wrapWidth }
    threeTurns.validate = .ok threeTurns ∧ threeTurns.templates.Perm templates ∧
      threeTurns.Apart freshTree ∧ ∃ generator generator',
        Attempt.on (ofTables threeTurns clashDefinition tables) freshTree =
          (.ok generator, freshTree) ∧
        Attempt.on (ofTables { threeTurns with templates } clashDefinition tables) freshTree =
          (.ok generator', freshTree) ∧
        Attempt.on generator.run freshTree =
          (.ok ["../work/lua/a.lua", "../work/lua/b.lua", "../work/lua/a.lua"], sourcesTree) ∧
        Attempt.on generator'.run freshTree =
          (.ok ["../work/lua/b.lua", "../work/lua/a.lua", "../work/lua/a.lua"], sourcesTree) := by
  intro templates tables
  have valid : threeTurns.validate = .ok threeTurns := by rfl
  have permuted : threeTurns.templates.Perm templates := by decide
  have apart : threeTurns.Apart freshTree := by decide +kernel
  have generation : Attempt.on (prepare threeTurns >>= run) freshTree =
      (.ok (threeTurns.templates.map threeTurns.outputPath), sourcesTree) :=
    generation_threeTurns (by rfl) ⟨_, by rfl, by rfl, by rfl⟩ ⟨_, by rfl, by rfl, by rfl⟩
  have read := Definition.ofJson_of_written (Definition.definitionText_json clashDefinition)
  have held : freshTree.read threeTurns.protodef = .ok clashDefinition.json.toUTF8 := by rfl
  obtain ⟨generator, between, made, ran⟩ := Attempt.of_on_bind_ok generation
  rw [on_prepare (on_loadDefinition_ok.2 ⟨rfl, _, held, read⟩)] at made
  obtain ⟨rfl, -⟩ := on_ofTables_ok.1 made
  obtain ⟨generator', made', succeeds, agree⟩ := run_permuted valid permuted apart made
  obtain ⟨paths, after, ran'⟩ := succeeds.1 ⟨_, _, ran⟩
  obtain ⟨rfl, -, rfl⟩ := agree _ _ _ _ ran ran'
  exact ⟨valid, permuted, apart, generator, generator', made, made', ran, ran'⟩

end ReqlLua.Generator
