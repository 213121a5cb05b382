import ReqlLua.Attempt

/-! Carrying jobs and attempts out step by step. The result of an attempt and the tree it leaves behind
do not depend on what is reported or to which template it is attributed. -/

namespace ReqlLua

/-- The texts of files are the files that are UTF-8. -/
theorem fromUTF8?_eq_some_iff {contents : ByteArray} {text : String} :
    String.fromUTF8? contents = some text ↔ contents = text.toUTF8 := by
  unfold String.fromUTF8?
  constructor
  · intro read
    split at read
    · cases read
      rfl
    · cases read
  · rintro rfl
    exact dif_pos text.isValidUTF8

theorem toUTF8_injective {first second : String} (same : first.toUTF8 = second.toUTF8) :
    first = second := by
  have read := fromUTF8?_eq_some_iff.2 same
  rw [fromUTF8?_eq_some_iff.2 rfl] at read
  exact Option.some.inj read

namespace Job

variable {α β : Type} {home : Location}

theorem runOn_bind (job : Job α) (follow : α → Job β) (tree : FileTree home) :
    (job >>= follow).runOn tree =
      let first := job.runOn tree
      let second := (follow first.result).runOn first.tree
      ⟨second.result, second.tree, first.notes ++ second.notes⟩ := by
  change (job.bind follow).runOn tree = _
  induction job generalizing tree with
  | done result => rfl
  | note entry next ih =>
    simp only [bind, runOn, ih]
    rfl
  | isFile path next ih => exact ih _ tree
  | read path next ih => exact ih _ tree
  | write path contents next ih => exact ih _ _
  | rename source target next ih => exact ih _ _
  | remove path next ih => exact ih _ _

theorem runOn_within (name : String) (job : Job α) (tree : FileTree home) :
    ((job.within name).runOn tree).result = (job.runOn tree).result ∧
      ((job.within name).runOn tree).tree = (job.runOn tree).tree := by
  induction job generalizing tree with
  | done result => exact ⟨rfl, rfl⟩
  | note entry next ih => exact ih tree
  | isFile path next ih => exact ih _ tree
  | read path next ih => exact ih _ tree
  | write path contents next ih => exact ih _ _
  | rename source target next ih => exact ih _ _
  | remove path next ih => exact ih _ _

theorem readsText_ok_iff {path text : String} {tree : FileTree home} :
    ((readsText path).runOn tree).result = .ok text ↔ tree.read path = .ok text.toUTF8 := by
  simp only [readsText, runOn]
  cases tree.read path with
  | error fault => simp [Bind.bind, Except.bind]
  | ok contents =>
    rw [Except.ok.injEq, ← fromUTF8?_eq_some_iff]
    cases decoded : String.fromUTF8? contents <;> simp [Bind.bind, Except.bind, decoded]

end Job

namespace Attempt

variable {α β : Type} {home : Location}

/-- The result of an attempt on a tree and the tree afterwards. -/
def on (attempt : Attempt α) (tree : FileTree home) : Except Failure α × FileTree home :=
  let outcome := attempt.run.runOn tree
  (outcome.result, outcome.tree)

@[simp] theorem on_pure (value : α) (tree : FileTree home) :
    on (pure value) tree = (.ok value, tree) := rfl

theorem on_bind (attempt : Attempt α) (follow : α → Attempt β) (tree : FileTree home) :
    on (attempt >>= follow) tree =
      match on attempt tree with
      | (.error failure, left) => (.error failure, left)
      | (.ok value, left) => on (follow value) left := by
  simp only [on, ExceptT.run_bind, Job.runOn_bind]
  cases (attempt.run.runOn tree).result <;> rfl

theorem on_bind_of_ok {attempt : Attempt α} {tree left : FileTree home} {value : α}
    (first : on attempt tree = (.ok value, left)) (follow : α → Attempt β) :
    on (attempt >>= follow) tree = on (follow value) left := by
  rw [on_bind, first]

/-- What succeeds has succeeded so far. -/
theorem of_on_bind_ok {attempt : Attempt α} {follow : α → Attempt β} {tree left : FileTree home}
    {result : β} (succeeds : on (attempt >>= follow) tree = (.ok result, left)) :
    ∃ value between, on attempt tree = (.ok value, between) ∧
      on (follow value) between = (.ok result, left) := by
  rw [on_bind] at succeeds
  cases first : on attempt tree with
  | mk reached between =>
    cases reached with
    | error failure => simp [first] at succeeds
    | ok value => exact ⟨value, between, rfl, by simpa [first] using succeeds⟩

/-- What fails has failed at first, or has succeeded at first and failed then. -/
theorem of_on_bind_error {attempt : Attempt α} {follow : α → Attempt β} {tree left : FileTree home}
    {failure : Failure} (fails : on (attempt >>= follow) tree = (.error failure, left)) :
    on attempt tree = (.error failure, left) ∨ ∃ value between,
      on attempt tree = (.ok value, between) ∧ on (follow value) between = (.error failure, left) := by
  rw [on_bind] at fails
  cases first : on attempt tree with
  | mk reached between =>
    cases reached with
    | error fault => exact .inl (by simpa [first] using fails)
    | ok value => exact .inr ⟨value, between, rfl, by simpa [first] using fails⟩

@[simp] theorem on_report (event : Event) (tree : FileTree home) :
    on (report event) tree = (.ok (), tree) := rfl

theorem on_ofExcept (wrap : β → Failure) (result : Except β α) (tree : FileTree home) :
    on (ofExcept wrap result) tree = (result.mapError wrap, tree) := rfl

theorem on_orFail (wrap : β → Failure) (job : Job (Except β α)) (tree : FileTree home) :
    on (orFail wrap job) tree = ((job.runOn tree).result.mapError wrap, (job.runOn tree).tree) := by
  change (_, _) = _
  rw [orFail, ExceptT.run_mk, Job.runOn_bind]
  rfl

theorem on_within (name : String) (attempt : Attempt α) (tree : FileTree home) :
    on (ExceptT.mk (Job.within name attempt.run)) tree = on attempt tree := by
  obtain ⟨result, left⟩ := Job.runOn_within name attempt.run tree
  exact Prod.ext result left

/-- Attempts that succeed and leave the tree as it is can be made for each element of a list. -/
theorem on_forM (action : α → Attempt PUnit) (tree : FileTree home)
    (harmless : ∀ element, on (action element) tree = (.ok (), tree)) (elements : List α) :
    on (elements.forM action) tree = (.ok (), tree) := by
  induction elements with
  | nil => rfl
  | cons element rest ih =>
    change on (action element >>= fun _ => rest.forM action) tree = _
    rw [on_bind_of_ok (harmless element), ih]

end Attempt

end ReqlLua
