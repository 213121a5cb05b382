import ReqlLua.Proofs.Job

/-! What a job does on the way to its result. Of two jobs in succession the second does nothing before
the first has come to its end. -/

namespace ReqlLua

/-- A report, or an operation on files. -/
inductive Deed where
  | noted (note : Note)
  | asked (path : String)
  | read (path : String)
  | wrote (path : String) (contents : ByteArray)
  | renamed (source target : String)
  | removed (path : String)

namespace Job

variable {α β : Type} {home : Location}

/-- All that a job does on a tree, in order. What is tried counts, whether it succeeds or not. -/
def deeds (tree : FileTree home) : Job α → List Deed
  | .done _ => []
  | .note entry next => .noted entry :: next.deeds tree
  | .isFile path next => .asked path :: (next (tree.isFile path)).deeds tree
  | .read path next => .read path :: (next (tree.read path)).deeds tree
  | .write path contents next =>
    let settled := settle tree (tree.write path contents)
    .wrote path contents :: (next settled.1).deeds settled.2
  | .rename source target next =>
    let settled := settle tree (tree.rename source target)
    .renamed source target :: (next settled.1).deeds settled.2
  | .remove path next =>
    let settled := settle tree (tree.remove path)
    .removed path :: (next settled.1).deeds settled.2

theorem deeds_bind (job : Job α) (follow : α → Job β) (tree : FileTree home) :
    (job >>= follow).deeds tree =
      job.deeds tree ++ (follow (job.runOn tree).result).deeds (job.runOn tree).tree := by
  change (job.bind follow).deeds tree = _
  induction job generalizing tree with
  | done result => rfl
  | note entry next ih => exact congrArg (Deed.noted entry :: ·) (ih tree)
  | isFile path next ih => exact congrArg (Deed.asked path :: ·) (ih _ tree)
  | read path next ih => exact congrArg (Deed.read path :: ·) (ih _ tree)
  | write path contents next ih => exact congrArg (Deed.wrote path contents :: ·) (ih _ _)
  | rename source target next ih => exact congrArg (Deed.renamed source target :: ·) (ih _ _)
  | remove path next ih => exact congrArg (Deed.removed path :: ·) (ih _ _)

end Job

namespace Attempt

variable {α β : Type} {home : Location} {tree : FileTree home}

/-- Attempts that do the same on a tree and come to the same end. -/
structure SameCourse (first second : Attempt α) (tree : FileTree home) : Prop where
  deeds : first.run.deeds tree = second.run.deeds tree
  outcome : first.run.runOn tree = second.run.runOn tree

theorem SameCourse.refl (attempt : Attempt α) (tree : FileTree home) : SameCourse attempt attempt tree :=
  ⟨rfl, rfl⟩

/-- What follows an attempt counts only if the attempt succeeds. -/
theorem SameCourse.bind {first second : Attempt α} {follow other : α → Attempt β}
    (same : SameCourse first second tree)
    (onward : ∀ value left, on first tree = (.ok value, left) →
      SameCourse (follow value) (other value) left) :
    SameCourse (first >>= follow) (second >>= other) tree := by
  cases reached : (first.run.runOn tree).result with
  | error failure =>
    constructor
    · simp only [ExceptT.run_bind, Job.deeds_bind, ← same.deeds, ← same.outcome, reached]
    · simp only [ExceptT.run_bind, Job.runOn_bind, ← same.outcome, reached]
  | ok value =>
    have later := onward value (first.run.runOn tree).tree (Prod.ext reached rfl)
    constructor
    · simp only [ExceptT.run_bind, Job.deeds_bind, ← same.deeds, ← same.outcome, reached, later.deeds]
    · simp only [ExceptT.run_bind, Job.runOn_bind, ← same.outcome, reached, later.outcome]

end Attempt

end ReqlLua
