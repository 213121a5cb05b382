import ReqlLua.Proofs.Generator.Process
import ReqlLua.Proofs.Job.Deeds

/-! Templates are processed in turn until one of them fails. What comes behind that one makes no
difference. -/

namespace ReqlLua.Generator

open FileTree

variable {home : Location} {generator : Generator} {tree between after : FileTree home}

/-- Templates have been processed one after another, each of them with success. -/
inductive Processed (generator : Generator) : List String → FileTree home → FileTree home → Prop where
  | nil (tree : FileTree home) : Processed generator [] tree tree
  | cons {name : String} {rest : List String} {tree between after : FileTree home}
      (first : Attempt.on (generator.process name) tree =
        (.ok (generator.settings.outputPath name), between))
      (others : Processed generator rest between after) :
      Processed generator (name :: rest) tree after

theorem processed_or_fails (generator : Generator) (names : List String) (tree : FileTree home) :
    (∃ after, generator.Processed names tree after) ∨
      ∃ before name behind between failure after, names = before ++ name :: behind ∧
        generator.Processed before tree between ∧
        Attempt.on (generator.process name) between = (.error failure, after) := by
  induction names generalizing tree with
  | nil => exact .inl ⟨tree, .nil tree⟩
  | cons name rest ih =>
    cases reached : Attempt.on (generator.process name) tree with
    | mk result left =>
      cases result with
      | error failure =>
        exact .inr ⟨[], name, rest, tree, failure, left, rfl, .nil tree, reached⟩
      | ok path =>
        obtain ⟨rfl, -⟩ := on_process_ok.1 reached
        rcases ih left with ⟨after, others⟩ |
          ⟨before, other, behind, between, failure, after, rfl, others, failed⟩
        · exact .inl ⟨after, .cons reached others⟩
        · exact .inr ⟨name :: before, other, behind, between, failure, after, rfl,
            .cons reached others, failed⟩

namespace Processed

variable {names before behind : List String} {name : String}

theorem processAll (processed : generator.Processed names tree after) :
    Attempt.on (generator.processAll names) tree =
      (.ok (names.map generator.settings.outputPath), after) := by
  induction processed with
  | nil tree => rfl
  | cons first others ih =>
    unfold Generator.processAll
    rw [Attempt.on_bind_of_ok first, Attempt.on_bind_of_ok ih]
    rfl

/-- Templates that change nothing one by one change nothing in turn. -/
theorem of_unchanged
    (unchanged : ∀ name ∈ names, Attempt.on (generator.process name) tree =
      (.ok (generator.settings.outputPath name), tree)) : generator.Processed names tree tree := by
  induction names with
  | nil => exact .nil tree
  | cons name rest ih =>
    obtain ⟨first, later⟩ := List.forall_mem_cons.1 unchanged
    exact .cons first (ih later)

theorem split (processed : generator.Processed (before ++ behind) tree after) :
    ∃ between, generator.Processed before tree between ∧ generator.Processed behind between after := by
  induction before generalizing tree with
  | nil => exact ⟨tree, .nil tree, processed⟩
  | cons name before ih =>
    cases processed with
    | cons first others =>
      obtain ⟨between, earlier, later⟩ := ih others
      exact ⟨between, .cons first earlier, later⟩

variable {failure : Failure}

theorem processAll_failed (processed : generator.Processed before tree between)
    (failed : Attempt.on (generator.process name) between = (.error failure, after))
    (behind : List String) :
    Attempt.on (generator.processAll (before ++ name :: behind)) tree = (.error failure, after) := by
  induction processed with
  | nil tree =>
    rw [List.nil_append, Generator.processAll, Attempt.on_bind, failed]
  | cons first others ih =>
    rw [List.cons_append, Generator.processAll, Attempt.on_bind_of_ok first, Attempt.on_bind,
      ih failed]

/-- Where a template fails, it makes no difference which templates were to come. -/
theorem sameCourse_failed (processed : generator.Processed before tree between)
    (failed : Attempt.on (generator.process name) between = (.error failure, after))
    (behind other : List String) :
    Attempt.SameCourse (generator.processAll (before ++ name :: behind))
      (generator.processAll (before ++ name :: other)) tree := by
  induction processed with
  | nil tree =>
    apply (Attempt.SameCourse.refl (generator.process name) tree).bind
    intro path left succeeded
    rw [failed] at succeeded
    cases succeeded
  | @cons first rest tree middle between succeeds others ih =>
    apply (Attempt.SameCourse.refl (generator.process first) tree).bind
    intro path left succeeded
    rw [succeeds] at succeeded
    cases succeeded
    exact (ih failed).bind fun paths left _ => .refl _ left

end Processed

/-- What has been processed with success has been processed one after another. -/
theorem processed_of_processAll {names paths : List String}
    (ran : Attempt.on (generator.processAll names) tree = (.ok paths, after)) :
    paths = names.map generator.settings.outputPath ∧ generator.Processed names tree after := by
  rcases processed_or_fails generator names tree with
    ⟨left, processed⟩ | ⟨before, name, behind, between, failure, left, rfl, processed, failed⟩
  · rw [processed.processAll] at ran
    cases ran
    exact ⟨rfl, processed⟩
  · rw [processed.processAll_failed failed behind] at ran
    cases ran

end ReqlLua.Generator
