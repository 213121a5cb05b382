import ReqlLua.Proofs.Files.Place
import ReqlLua.Proofs.Generator.Prepare

/-! What turning a template into a source does to the files. -/

namespace ReqlLua.Generator

variable {home : Location}

/-! ### Replacing a file -/

/-- The tree without a file that may be there. -/
def cleared (tree : FileTree home) (path : String) : FileTree home :=
  match tree.remove path with
  | .ok rest => rest
  | .error _ => tree

/-- A step whose failure is followed by the removal of the temporary file. -/
def clearing (target temporary : String) (step : Job (Except FileFault Unit)) : Attempt Unit :=
  Attempt.orFail (.file target) do
    match ← step with
    | .ok () => return .ok ()
    | .error fault =>
      let _ ← Job.removes temporary
      return .error fault

theorem replaceFile_eq (path text : String) :
    replaceFile path text =
      clearing (path ++ ".tmp") (path ++ ".tmp") (Job.writes (path ++ ".tmp") text) >>= fun _ =>
        clearing path (path ++ ".tmp") (Job.renames (path ++ ".tmp") path) := rfl

theorem on_clearing (target temporary : String) (step : Job (Except FileFault Unit))
    (tree : FileTree home) :
    Attempt.on (clearing target temporary step) tree =
      match (step.runOn tree).result with
      | .ok () => (.ok (), (step.runOn tree).tree)
      | .error fault => (.error (.file target fault), cleared (step.runOn tree).tree temporary) := by
  unfold clearing
  rw [Attempt.on_orFail, Job.runOn_bind]
  simp only
  cases (step.runOn tree).result with
  | ok => rfl
  | error fault =>
    simp only [Job.runOn_bind, Job.removes, Job.runOn, cleared]
    cases (step.runOn tree).tree.remove temporary <;> rfl

theorem on_replaceFile (path text : String) (tree : FileTree home) :
    Attempt.on (replaceFile path text) tree =
      let temporary := path ++ ".tmp"
      match tree.write temporary text.toUTF8 with
      | .error fault => (.error (.file temporary fault), cleared tree temporary)
      | .ok between =>
        match between.rename temporary path with
        | .error fault => (.error (.file path fault), cleared between temporary)
        | .ok after => (.ok (), after) := by
  rw [replaceFile_eq, Attempt.on_bind, on_clearing, Job.writes]
  simp only [Job.runOn]
  cases tree.write (path ++ ".tmp") text.toUTF8 with
  | error fault => rfl
  | ok between =>
    simp only [Job.settle]
    rw [on_clearing, Job.renames]
    simp only [Job.runOn]
    cases between.rename (path ++ ".tmp") path <;> rfl

theorem on_replaceFile_ok {path text : String} {tree after : FileTree home} :
    Attempt.on (replaceFile path text) tree = (.ok (), after) ↔
      ∃ between, tree.write (path ++ ".tmp") text.toUTF8 = .ok between ∧
        between.rename (path ++ ".tmp") path = .ok after := by
  rw [on_replaceFile]
  constructor
  · intro replaced
    simp only at replaced
    split at replaced
    · cases replaced
    · next between written =>
      split at replaced
      · cases replaced
      · next left renamed =>
        cases replaced
        exact ⟨between, written, renamed⟩
  · rintro ⟨between, written, renamed⟩
    simp only [written, renamed]

/-! ### Processing a template -/

theorem on_render_ok {generator : Generator} {name text : String} {tree left : FileTree home} :
    Attempt.on (generator.render name) tree = (.ok text, left) ↔
      tree = left ∧ ∃ source, tree.read (generator.settings.templatePath name) = .ok source.toUTF8 ∧
        Template.splice source generator.substitutions = .ok text := by
  have rest (source : String) (tree : FileTree home) :
      Attempt.on (do
        Attempt.report (.templateRead name (Template.ofSource source).pieces.length)
        Attempt.ofExcept .unresolved ((Template.ofSource source).render generator.substitutions))
        tree = ((Template.splice source generator.substitutions).mapError .unresolved, tree) := by
    rw [Attempt.on_bind, Attempt.on_report]
    exact Attempt.on_ofExcept _ _ _
  unfold render
  constructor
  · intro rendered
    obtain ⟨source, between, read, rendered⟩ := Attempt.of_on_bind_ok rendered
    obtain ⟨rfl, held⟩ := on_readsText_ok.1 read
    rw [rest source] at rendered
    obtain ⟨result, rfl⟩ := Prod.mk.inj rendered
    cases spliced : Template.splice source generator.substitutions with
    | error fault =>
      rw [spliced] at result
      cases result
    | ok found =>
      rw [spliced] at result
      cases result
      exact ⟨rfl, source, held, spliced⟩
  · rintro ⟨rfl, source, held, spliced⟩
    rw [Attempt.on_bind_of_ok (on_readsText_ok.2 ⟨rfl, held⟩)]
    rw [rest source, spliced]
    rfl

theorem on_process_ok {generator : Generator} {name path : String} {tree after : FileTree home} :
    Attempt.on (generator.process name) tree = (.ok path, after) ↔
      path = generator.settings.outputPath name ∧
        ∃ text, Attempt.on (generator.render name) tree = (.ok text, tree) ∧
          Attempt.on (replaceFile (generator.settings.outputPath name) text) tree =
            (.ok (), after) := by
  unfold process
  rw [Attempt.on_within]
  constructor
  · intro processed
    obtain ⟨text, between, rendered, processed⟩ := Attempt.of_on_bind_ok processed
    obtain ⟨rfl, -⟩ := on_render_ok.1 rendered
    obtain ⟨⟨⟩, left, replaced, processed⟩ := Attempt.of_on_bind_ok processed
    obtain ⟨⟨⟩, last, reported, processed⟩ := Attempt.of_on_bind_ok processed
    cases reported
    cases processed
    exact ⟨rfl, text, rendered, replaced⟩
  · rintro ⟨rfl, text, rendered, replaced⟩
    rw [Attempt.on_bind_of_ok rendered, Attempt.on_bind_of_ok replaced]
    exact Attempt.on_bind_of_ok (Attempt.on_report _ after) _

end ReqlLua.Generator
