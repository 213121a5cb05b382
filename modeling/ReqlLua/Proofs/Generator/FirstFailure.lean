import ReqlLua.Proofs.Generator.Sequence

/-! A run goes through its templates in order and stops at the first that fails. What it changes lies
directly in the directory of the templates, and it leaves no temporary file of its own behind. -/

namespace ReqlLua.Generator

open FileTree ReqlLua.Path

variable {home : Location} {generator : Generator} {tree between after : FileTree home}

/-! ### Confinement -/

/-- What changes is a source, or a temporary file that is gone, directly in the directory of the
templates. -/
def Confined (settings : Settings) (names : List String) (tree after : FileTree home) : Prop :=
  ∀ place, after.entry? place ≠ tree.entry? place → ∃ name ∈ names, ∃ above,
    tree.follow settings.srcDir = .ok above ∧ tree.entry? above = some .directory ∧
    (place = above ++ [name ++ ".lua"] ∨
      place = above ++ [name ++ ".lua.tmp"] ∧ after.entry? place = none)

theorem Confined.trans {settings : Settings} {first second names : List String}
    (one : Confined settings first tree between) (other : Confined settings second between after)
    (same : SameDirectories tree between) (known : ∀ name ∈ first, name ∈ names)
    (known' : ∀ name ∈ second, name ∈ names) : Confined settings names tree after := by
  intro place differs
  by_cases later : after.entry? place = between.entry? place
  · rw [later] at differs ⊢
    obtain ⟨name, member, found⟩ := one place differs
    exact ⟨name, known name member, found⟩
  · obtain ⟨name, member, above, followed, directory, found⟩ := other place later
    exact ⟨name, known' name member, above, same.symm.follow followed, (same above).2 directory, found⟩

theorem confined_replaced {above : Location} {name text : String} (plain : Plain name)
    (ready : generator.Ready above name text tree) :
    Confined generator.settings [name] tree (replaced tree above name text) := by
  obtain ⟨followed, directory⟩ := directory_of_outputPath plain ready.outputAt
  intro place differs
  refine ⟨name, List.mem_singleton_self name, above, followed, directory, ?_⟩
  rcases eq_of_move_differs ready.hiddenFree ready.outputFree differs with output | hidden
  · exact .inl output
  · refine .inr ⟨hidden, ?_⟩
    rw [hidden, entry?_replaced, if_neg (outputPlace_ne_hiddenPlace above name name).symm, if_pos rfl]

theorem confined_processed {names : List String}
    (processed : generator.Processed names tree after) (plain : ∀ name ∈ names, Plain name) :
    SameDirectories tree after ∧ Confined generator.settings names tree after := by
  induction processed with
  | nil tree => exact ⟨.refl tree, fun place differs => absurd rfl differs⟩
  | @cons name rest tree between after first others ih =>
    have plain' := plain name List.mem_cons_self
    obtain ⟨directories, later⟩ := ih fun other member => plain other (List.mem_cons_of_mem _ member)
    obtain ⟨-, above, text, ready, rfl⟩ := ready_of_process plain' first
    have same := sameDirectories_replaced ready
    refine ⟨same.trans directories, (confined_replaced plain' ready).trans later same ?_ ?_⟩
    · intro other member
      exact List.mem_cons.2 (.inl (List.mem_singleton.1 member))
    · exact fun other member => List.mem_cons_of_mem name member

theorem confined_cleared {settings : Settings} {name : String} (plain : Plain name) (tree : FileTree home) :
    SameDirectories tree (cleared tree (settings.outputPath name ++ ".tmp")) ∧
      Confined settings [name] tree (cleared tree (settings.outputPath name ++ ".tmp")) := by
  rcases cleared_cases tree (settings.outputPath name ++ ".tmp") with same | ⟨hidden, held, located, found, same⟩
  · rw [same]
    exact ⟨.refl tree, fun place differs => absurd rfl differs⟩
  · rw [same]
    refine ⟨sameDirectories_erase (free_of_file found), ?_⟩
    intro place differs
    rw [hiddenPath_eq settings plain] at located
    obtain ⟨above, followed, directory, child⟩ := locate_child (proper_hidden plain) located
    have below := ne_nil_of_free (free_of_file found)
    have here := eq_of_erase_differs below differs
    refine ⟨name, List.mem_singleton_self name, above, followed, directory, .inr ⟨here.trans child, ?_⟩⟩
    rw [here, entry?_erase below, if_pos rfl]

/-- Where there is no temporary file, none is left. -/
theorem Confined.free {settings : Settings} {names : List String}
    (confined : Confined settings names tree after) {above : Location} {name : String}
    (free : tree.entry? (hiddenPlace above name) = none) :
    after.entry? (hiddenPlace above name) = none := by
  by_cases same : after.entry? (hiddenPlace above name) = tree.entry? (hiddenPlace above name)
  · exact same.trans free
  · obtain ⟨other, -, above', -, -, output | ⟨-, gone⟩⟩ := confined _ same
    · obtain ⟨rfl, -⟩ := List.append_inj' output rfl
      exact absurd output.symm (outputPlace_ne_hiddenPlace above other name)
    · exact gone

/-- Templates that are processed have no temporary file behind them. -/
theorem Processed.free {names : List String} (processed : generator.Processed names tree after)
    (plain : ∀ name ∈ names, Plain name) :
    ∀ name ∈ names, ∃ above,
      after.locate (generator.settings.outputPath name ++ ".tmp") = .ok (hiddenPlace above name) ∧
        after.entry? (hiddenPlace above name) = none := by
  induction processed with
  | nil tree => exact fun _ member => absurd member List.not_mem_nil
  | @cons name rest tree between after first others ih =>
    obtain ⟨plain', plain''⟩ := List.forall_mem_cons.1 plain
    intro other member
    rcases List.mem_cons.1 member with rfl | member
    · obtain ⟨-, above, text, ready, rfl⟩ := ready_of_process plain' first
      obtain ⟨directories, confined⟩ := confined_processed others plain''
      have located := ((sameDirectories_replaced ready).trans directories).locate ready.hiddenAt
      refine ⟨above, located, confined.free ?_⟩
      rw [entry?_replaced, if_neg (outputPlace_ne_hiddenPlace above other other).symm, if_pos rfl]
    · exact ih plain'' other member

theorem read_of_free {path : String} {place : Location} (located : tree.locate path = .ok place)
    (free : tree.entry? place = none) : tree.read path = .error .notFound := by
  unfold FileTree.read
  rw [located]
  simp only [bind, Except.bind, free]

/-! ### Runs -/

/-- What is processed last under a name is what its source holds in the end. -/
theorem Processed.output {before behind : List String} {name : String}
    (processed : generator.Processed (before ++ name :: behind) tree after) (last : name ∉ behind)
    (plain : ∀ other ∈ before ++ name :: behind, Plain other) :
    ∃ between text, generator.Processed before tree between ∧
      Attempt.on (generator.render name) between = (.ok text, between) ∧
      after.read (generator.settings.outputPath name) = .ok text.toUTF8 := by
  obtain ⟨between, earlier, later⟩ := processed.split
  obtain ⟨plain', plain''⟩ := List.forall_mem_cons.1 (List.forall_mem_append.1 plain).2
  cases later with
  | @cons _ _ _ middle _ first others =>
    obtain ⟨-, above, text, ready, rfl⟩ := ready_of_process plain' first
    obtain ⟨directories, confined⟩ := confined_processed others plain''
    refine ⟨between, text, earlier, ready.render, ?_⟩
    have located := ((sameDirectories_replaced ready).trans directories).locate ready.outputAt
    rw [read_ok_iff_of_locate located]
    have written : entry? (replaced between above name text) (outputPlace above name) =
        some (.file text.toUTF8) := by
      rw [entry?_replaced, if_pos rfl]
    rw [← written]
    apply Classical.byContradiction
    intro differs
    obtain ⟨other, member, above', -, -, output | ⟨hidden, -⟩⟩ := confined _ differs
    · obtain ⟨rfl, -⟩ := List.append_inj' output rfl
      exact last (outputPlace_injective output ▸ member)
    · obtain ⟨rfl, -⟩ := List.append_inj' hidden rfl
      exact outputPlace_ne_hiddenPlace above name other hidden

/-- A run that has come to its end: every source holds what its template yielded last, and there are no
temporary files. -/
structure Completes (generator : Generator) (tree after : FileTree home) : Prop where
  processed : generator.Processed generator.settings.templates tree after
  result : Attempt.on generator.run tree =
    (.ok (generator.settings.templates.map generator.settings.outputPath), after)
  output : ∀ before name behind, generator.settings.templates = before ++ name :: behind →
    name ∉ behind → ∃ between text, generator.Processed before tree between ∧
      Attempt.on (generator.render name) between = (.ok text, between) ∧
      after.read (generator.settings.outputPath name) = .ok text.toUTF8
  gone : ∀ name ∈ generator.settings.templates,
    after.read (generator.settings.outputPath name ++ ".tmp") = .error .notFound

theorem Processed.completes (processed : generator.Processed generator.settings.templates tree after)
    (plain : ∀ name ∈ generator.settings.templates, Plain name) : generator.Completes tree after := by
  refine ⟨processed, processed.processAll, ?_, ?_⟩
  · intro before name behind templates last
    rw [templates] at processed plain
    exact processed.output last plain
  · intro name member
    obtain ⟨above, located, free⟩ := processed.free plain name member
    exact read_of_free located free

/-- A run that has stopped at `name`, behind the templates that came before it. What it leaves is what
these left, except that a temporary file of `name` may be gone. -/
structure Stops (generator : Generator) (before : List String) (name : String) (failure : Failure)
    (tree between after : FileTree home) : Prop where
  processed : generator.Processed before tree between
  failed : Attempt.on (generator.process name) between = (.error failure, after)
  result : Attempt.on generator.run tree = (.error failure, after)
  course : Attempt.SameCourse generator.run (generator.processAll (before ++ [name])) tree
  left : after = between ∨ after = cleared between (generator.settings.outputPath name ++ ".tmp")
  gone : ∀ other ∈ before,
    after.read (generator.settings.outputPath other ++ ".tmp") = .error .notFound

theorem stops_of_failed {before behind : List String} {name : String} {failure : Failure}
    (templates : generator.settings.templates = before ++ name :: behind)
    (plain : ∀ other ∈ before ++ name :: behind, Plain other)
    (processed : generator.Processed before tree between)
    (failed : Attempt.on (generator.process name) between = (.error failure, after)) :
    generator.Stops before name failure tree between after ∧
      Confined generator.settings (before ++ name :: behind) tree after := by
  obtain ⟨earlier, here⟩ := List.forall_mem_append.1 plain
  have left := process_failed failed
  have onward : SameDirectories between after ∧ Confined generator.settings [name] between after := by
    rcases left with rfl | rfl
    · exact ⟨.refl after, fun place differs => absurd rfl differs⟩
    · exact confined_cleared (here name List.mem_cons_self) between
  obtain ⟨directories, confined⟩ := confined_processed processed earlier
  constructor
  · refine ⟨processed, failed, ?_, ?_, left, ?_⟩
    · unfold run
      rw [templates]
      exact processed.processAll_failed failed behind
    · unfold run
      rw [templates]
      exact processed.sameCourse_failed failed behind []
    · intro other member
      obtain ⟨above, located, free⟩ := processed.free earlier other member
      exact read_of_free (onward.1.locate located) (onward.2.free free)
  · apply confined.trans onward.2 directories
    · exact fun other member => List.mem_append_left _ member
    · intro other member
      rw [List.mem_singleton.1 member]
      exact List.mem_append_right before List.mem_cons_self

/-- Every run completes or stops at the first template that fails, as if no others followed. -/
theorem run_completes_or_stops {generator : Generator}
    (valid : generator.settings.validate = .ok generator.settings) (tree : FileTree home) :
    ∃ after, Confined generator.settings generator.settings.templates tree after ∧
      (generator.Completes tree after ∨ ∃ before name behind between failure,
        generator.settings.templates = before ++ name :: behind ∧
        generator.Stops before name failure tree between after) := by
  have plain := plain_of_valid valid
  rcases processed_or_fails generator generator.settings.templates tree with
    ⟨after, processed⟩ | ⟨before, name, behind, between, failure, after, templates, processed, failed⟩
  · exact ⟨after, (confined_processed processed plain).2, .inl (processed.completes plain)⟩
  · rw [templates] at plain
    obtain ⟨stops, confined⟩ := stops_of_failed templates plain processed failed
    refine ⟨after, ?_, .inr ⟨before, name, behind, between, failure, templates, stops⟩⟩
    rw [templates]
    exact confined

/-- A generator without substitutions, for three templates in the directory `/tmp/lua`. -/
def threeTemplates : Generator := ⟨⟨"definition.json", "/tmp/lua", ["a", "b", "c"], 77⟩, .empty⟩

/-- The second template has a marker, and there are a source and a temporary file of earlier runs. The working
directory is elsewhere. -/
def threeFiles : FileTree ["work"] where
  entries := .ofList
    [(["tmp"], .directory), (["tmp", "lua"], .directory),
     (["tmp", "lua", "a.lua"], .file "old\n".toUTF8),
     (["tmp", "lua", "a.pre.lua"], .file "new\n".toUTF8),
     (["tmp", "lua", "b.lua.tmp"], .file "stale\n".toUTF8),
     (["tmp", "lua", "b.pre.lua"], .file "x --[[y]]\n".toUTF8),
     (["tmp", "lua", "c.pre.lua"], .file "z\n".toUTF8), (["work"], .directory)]

theorem ready_threeFiles : threeTemplates.Ready ["tmp", "lua"] "a" "new\n" threeFiles where
  templateAt := by rfl
  outputAt := by rfl
  hiddenAt := by rfl
  yields := ⟨"new\n", "new\n", by rfl, by rfl, rfl⟩
  outputFree taken := by
    have held : threeFiles.entry? (outputPlace ["tmp", "lua"] "a") = some (.file "old\n".toUTF8) := by
      rfl
    rw [held] at taken
    cases taken
  hiddenFree taken := by
    have missing : threeFiles.entry? (hiddenPlace ["tmp", "lua"] "a") = none := by rfl
    rw [missing] at taken
    cases taken

/-- The run stops at the marker: the first source is new, and nothing is done for the third template. -/
theorem run_stops_at_marker :
    threeTemplates.settings.validate = .ok threeTemplates.settings ∧
      ∃ after, Confined threeTemplates.settings threeTemplates.settings.templates threeFiles after ∧
        after.read (threeTemplates.settings.outputPath "a") = .ok "new\n".toUTF8 ∧
        ∃ before name behind between,
          threeTemplates.settings.templates = before ++ name :: behind ∧
          threeTemplates.Stops before name (.unresolved ⟨"y", 2⟩) threeFiles between after := by
  have valid : threeTemplates.settings.validate = .ok threeTemplates.settings := by rfl
  let between := replaced threeFiles ["tmp", "lua"] "a" "new\n"
  have first : threeTemplates.Processed ["a"] threeFiles between :=
    .cons (ready_threeFiles.process (by decide)) (.nil between)
  have same : SameDirectories threeFiles between := sameDirectories_replaced ready_threeFiles
  have failed : Attempt.on (threeTemplates.process "b") between =
      (.error (.unresolved ⟨"y", 2⟩), between) := by
    have located : threeFiles.locate (threeTemplates.settings.templatePath "b") =
        .ok (templatePlace ["tmp", "lua"] "b") := by rfl
    have held : threeFiles.entry? (templatePlace ["tmp", "lua"] "b") =
        some (.file "x --[[y]]\n".toUTF8) := by rfl
    have read : between.read (threeTemplates.settings.templatePath "b") =
        .ok "x --[[y]]\n".toUTF8 := by
      rw [read_ok_iff_of_locate (same.locate located), entry?_replaced, if_neg (by decide),
        if_neg (by decide), held]
    exact process_unresolved read (by rfl)
  have result : Attempt.on threeTemplates.run threeFiles =
      (.error (.unresolved ⟨"y", 2⟩), between) := first.processAll_failed failed ["c"]
  have read : between.read (threeTemplates.settings.outputPath "a") = .ok "new\n".toUTF8 := by
    rw [read_ok_iff_of_locate (same.locate ready_threeFiles.outputAt), entry?_replaced, if_pos rfl]
  refine ⟨valid, between, ?_⟩
  obtain ⟨after, confined, completes | ⟨before, name, behind, middle, failure, split, stops⟩⟩ :=
    run_completes_or_stops valid threeFiles
  · have other := completes.result
    rw [result] at other
    cases other
  · have other := stops.result
    rw [result] at other
    cases other
    exact ⟨confined, read, before, name, behind, middle, split, stops⟩

end ReqlLua.Generator
