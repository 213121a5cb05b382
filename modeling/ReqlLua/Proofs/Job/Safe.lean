import ReqlLua.Proofs.Job.Steps

/-! Jobs that keep their files good however their steps go. The files are good at every moment, since the
job may come to its end there by failures alone. -/

namespace ReqlLua

/-- What is to hold of files and of what has been read of them. -/
abbrev Good (home : Location) := FileTree home → Readings → Prop

namespace Job

variable {α β : Type} {home : Location} {good : Good home} {tree : FileTree home} {readings : Readings}

/-- Whatever fails on the way, the files are good in the end, and `post` holds of the result. A write may
fail behind each part of the contents. -/
def Safe (good : Good home) (post : α → Good home) : Job α → Good home
  | .done result, tree, readings => good tree readings ∧ post result tree readings
  | .note _ next, tree, readings => next.Safe good post tree readings
  | .isFile path next, tree, readings =>
    (next false).Safe good post tree readings ∧
      (next (tree.isFile path)).Safe good post tree readings
  | .read path next, tree, readings =>
    (∀ fault, (next (.error fault)).Safe good post tree readings) ∧
      ∀ contents, tree.read path = .ok contents →
        (next (.ok contents)).Safe good post tree ((path, contents) :: readings)
  | .write path contents next, tree, readings =>
    (∀ fault, (next (.error fault)).Safe good post tree readings) ∧
      (∀ part rest after, contents = part ++ rest → tree.write path part = .ok after →
        ∀ fault, (next (.error fault)).Safe good post after readings) ∧
      ∀ after, tree.write path contents = .ok after → (next (.ok ())).Safe good post after readings
  | .rename source target next, tree, readings =>
    (∀ fault, (next (.error fault)).Safe good post tree readings) ∧
      ∀ after, tree.rename source target = .ok after →
        (next (.ok ())).Safe good post after readings
  | .remove path next, tree, readings =>
    (∀ fault, (next (.error fault)).Safe good post tree readings) ∧
      ∀ after, tree.remove path = .ok after → (next (.ok ())).Safe good post after readings

namespace Safe

variable {post : α → Good home}

/-- Files are good where a job is safe. -/
theorem holds {job : Job α} (safe : job.Safe good post tree readings) : good tree readings := by
  induction job with
  | done result => exact safe.1
  | note entry next ih => exact ih safe
  | isFile path next ih => exact ih false safe.1
  | read path next ih => exact ih _ (safe.1 .notFound)
  | write path contents next ih => exact ih _ (safe.1 .notFound)
  | rename source target next ih => exact ih _ (safe.1 .notFound)
  | remove path next ih => exact ih _ (safe.1 .notFound)

theorem bind {job : Job α} {follow : α → Job β} {post' : β → Good home}
    (safe : job.Safe good post tree readings)
    (onward : ∀ value left later, good left later → post value left later →
      (follow value).Safe good post' left later) :
    (job >>= follow).Safe good post' tree readings := by
  change (job.bind follow).Safe good post' tree readings
  induction job generalizing tree readings with
  | done result => exact onward result tree readings safe.1 safe.2
  | note entry next ih => exact ih safe
  | isFile path next ih => exact ⟨ih _ safe.1, ih _ safe.2⟩
  | read path next ih =>
    exact ⟨fun fault => ih _ (safe.1 fault), fun contents held => ih _ (safe.2 contents held)⟩
  | write path contents next ih =>
    exact ⟨fun fault => ih _ (safe.1 fault),
      fun part rest after split begun fault => ih _ (safe.2.1 part rest after split begun fault),
      fun after written => ih _ (safe.2.2 after written)⟩
  | rename source target next ih =>
    exact ⟨fun fault => ih _ (safe.1 fault), fun after moved => ih _ (safe.2 after moved)⟩
  | remove path next ih =>
    exact ⟨fun fault => ih _ (safe.1 fault), fun after gone => ih _ (safe.2 after gone)⟩

theorem within {job : Job α} (safe : job.Safe good post tree readings) (name : String) :
    (job.within name).Safe good post tree readings := by
  induction job generalizing tree readings with
  | done result => exact safe
  | note entry next ih => exact ih safe
  | isFile path next ih => exact ⟨ih _ safe.1, ih _ safe.2⟩
  | read path next ih =>
    exact ⟨fun fault => ih _ (safe.1 fault), fun contents held => ih _ (safe.2 contents held)⟩
  | write path contents next ih =>
    exact ⟨fun fault => ih _ (safe.1 fault),
      fun part rest after split begun fault => ih _ (safe.2.1 part rest after split begun fault),
      fun after written => ih _ (safe.2.2 after written)⟩
  | rename source target next ih =>
    exact ⟨fun fault => ih _ (safe.1 fault), fun after moved => ih _ (safe.2 after moved)⟩
  | remove path next ih =>
    exact ⟨fun fault => ih _ (safe.1 fault), fun after gone => ih _ (safe.2 after gone)⟩

end Safe

end Job

namespace Moment

variable {α : Type} {home : Location} {good : Good home} {post : α → Good home} {moment next : Moment home α}

/-- A write in progress is safe if it is safe from its start. -/
def Safe (good : Good home) (post : α → Good home) (moment : Moment home α) : Prop :=
  match moment.stage with
  | .going job => job.Safe good post moment.tree moment.readings
  | .writing path rest next => ∃ start part, FileTree.write start path part = .ok moment.tree ∧
      (Job.write path (part ++ rest) next).Safe good post start moment.readings

theorem Safe.holds (safe : moment.Safe good post) : good moment.tree moment.readings := by
  obtain ⟨stage, tree, readings⟩ := moment
  cases stage with
  | going job => exact Job.Safe.holds safe
  | writing path rest next =>
    obtain ⟨start, part, begun, safe⟩ := safe
    exact (safe.2.1 part rest tree rfl begun .notFound).holds

theorem Safe.step (safe : moment.Safe good post) (step : Step moment next) :
    next.Safe good post := by
  cases step with
  | note => exact safe
  | asked => exact safe.2
  | notSeen => exact safe.1
  | read held => exact safe.2 _ held
  | readFails fault => exact safe.1 fault
  | @emptied tree after readings path contents next truncated =>
    refine ⟨tree, .empty, FileTree.write_empty_of_truncate truncated, ?_⟩
    rwa [ByteArray.empty_append]
  | added appended =>
    obtain ⟨start, part, begun, safe⟩ := safe
    refine ⟨start, _, FileTree.write_append begun appended, ?_⟩
    rwa [ByteArray.append_assoc]
  | written =>
    obtain ⟨start, part, begun, safe⟩ := safe
    rw [ByteArray.append_empty] at safe
    exact safe.2.2 _ begun
  | writeFails fault => exact safe.1 fault
  | addingFails fault =>
    obtain ⟨start, part, begun, safe⟩ := safe
    exact safe.2.1 part _ _ rfl begun fault
  | renamed moved => exact safe.2 _ moved
  | renameFails fault => exact safe.1 fault
  | removed gone => exact safe.2 _ gone
  | removeFails fault => exact safe.1 fault

/-- The files are good at every moment that a safe job can reach. -/
theorem Safe.reaches (safe : moment.Safe good post) (reaches : Reaches moment next) :
    next.Safe good post := by
  induction reaches with
  | refl => exact safe
  | tail earlier step ih => exact ih.step step

end Moment

namespace Attempt

variable {α β : Type} {home : Location} {good : Good home} {tree : FileTree home} {readings : Readings}

/-- An attempt that keeps files good, with `post` of what it yields if it succeeds. -/
def Safe (good : Good home) (post : α → Good home) (attempt : Attempt α) : Good home :=
  attempt.run.Safe good fun result left later => ∀ value, result = .ok value → post value left later

theorem Safe.bind {attempt : Attempt α} {follow : α → Attempt β} {post : α → Good home}
    {post' : β → Good home} (safe : attempt.Safe good post tree readings)
    (onward : ∀ value left later, good left later → post value left later →
      (follow value).Safe good post' left later) :
    (attempt >>= follow).Safe good post' tree readings := by
  unfold Safe
  rw [ExceptT.run_bind]
  apply Job.Safe.bind safe
  rintro (failure | value) left later kept found
  · exact ⟨kept, nofun⟩
  · exact onward value left later kept (found value rfl)

/-- The files are good at every moment that a safe attempt can reach. -/
theorem Safe.reaches {attempt : Attempt α} {post : α → Good home} (safe : attempt.Safe good post tree readings)
    {moment : Moment home (Except Failure α)}
    (reached : Moment.Reaches (.before attempt.run tree readings) moment) :
    good moment.tree moment.readings := by
  have start : (Moment.before attempt.run tree readings).Safe good
      fun result left later => ∀ value, result = .ok value → post value left later := safe
  exact (start.reaches reached).holds

theorem safe_pure {post : α → Good home} {value : α} (kept : good tree readings)
    (found : post value tree readings) : Safe good post (pure value) tree readings :=
  ⟨kept, fun _ same => Except.ok.inj same ▸ found⟩

theorem safe_report {event : Event} (kept : good tree readings) :
    Safe good (fun _ left later => left = tree ∧ later = readings) (report event) tree readings :=
  ⟨kept, fun _ _ => ⟨rfl, rfl⟩⟩

end Attempt

end ReqlLua
