import ReqlLua.Proofs.Job.Deeds

/-! Jobs on a machine that fails them. Reading, writing and renaming may fail with any fault at any time, and
a write may fail half way. Only questions and removals go as the files have it. -/

namespace ReqlLua

namespace Job

variable {α : Type} {home : Location}

/-- The ends that a job may come to. What has failed is listed with its fault. -/
inductive Ends : Job α → FileTree home → List (Deed × FileFault) → α → FileTree home → Prop where
  | done {result tree} : Ends (.done result) tree [] result tree
  | note {entry next tree failed result after} (later : Ends next tree failed result after) :
      Ends (.note entry next) tree failed result after
  | asked {path next tree failed result after}
      (later : Ends (next (tree.isFile path)) tree failed result after) :
      Ends (.isFile path next) tree failed result after
  | read {path next tree contents failed result after} (held : tree.read path = .ok contents)
      (later : Ends (next (.ok contents)) tree failed result after) :
      Ends (.read path next) tree failed result after
  | readFails {path next tree failed result after} (fault : FileFault)
      (later : Ends (next (.error fault)) tree failed result after) :
      Ends (.read path next) tree ((.read path, fault) :: failed) result after
  | wrote {path contents next tree between failed result after} (written : tree.write path contents = .ok between)
      (later : Ends (next (.ok ())) between failed result after) :
      Ends (.write path contents next) tree failed result after
  | writeFails {path contents next tree failed result after} (fault : FileFault)
      (later : Ends (next (.error fault)) tree failed result after) :
      Ends (.write path contents next) tree ((.wrote path contents, fault) :: failed) result after
  | writeBreaksOff {path part rest contents next tree between failed result after} (fault : FileFault)
      (split : contents = part ++ rest) (begun : tree.write path part = .ok between)
      (later : Ends (next (.error fault)) between failed result after) :
      Ends (.write path contents next) tree ((.wrote path contents, fault) :: failed) result after
  | renamed {source target next tree between failed result after}
      (moved : tree.rename source target = .ok between)
      (later : Ends (next (.ok ())) between failed result after) :
      Ends (.rename source target next) tree failed result after
  | renameFails {source target next tree failed result after} (fault : FileFault)
      (later : Ends (next (.error fault)) tree failed result after) :
      Ends (.rename source target next) tree ((.renamed source target, fault) :: failed) result after
  | removed {path next tree between failed result after} (gone : tree.remove path = .ok between)
      (later : Ends (next (.ok ())) between failed result after) :
      Ends (.remove path next) tree failed result after
  | notRemoved {path next tree fault failed result after} (refused : tree.remove path = .error fault)
      (later : Ends (next (.error fault)) tree failed result after) :
      Ends (.remove path next) tree ((.removed path, fault) :: failed) result after

/-- Carried out on files whose machine fails nothing, a job comes to one of its ends. -/
theorem ends_runOn (job : Job α) (tree : FileTree home) :
    ∃ failed, job.Ends tree failed (job.runOn tree).result (job.runOn tree).tree := by
  induction job generalizing tree with
  | done result => exact ⟨[], .done⟩
  | note entry next ih =>
    obtain ⟨failed, ends⟩ := ih tree
    exact ⟨failed, .note ends⟩
  | isFile path next ih =>
    obtain ⟨failed, ends⟩ := ih (tree.isFile path) tree
    exact ⟨failed, .asked ends⟩
  | read path next ih =>
    simp only [runOn]
    cases held : tree.read path with
    | error fault =>
      obtain ⟨failed, ends⟩ := ih (.error fault) tree
      exact ⟨_, .readFails fault ends⟩
    | ok contents =>
      obtain ⟨failed, ends⟩ := ih (.ok contents) tree
      exact ⟨failed, .read held ends⟩
  | write path contents next ih =>
    simp only [runOn]
    cases written : tree.write path contents with
    | error fault =>
      obtain ⟨failed, ends⟩ := ih (.error fault) tree
      exact ⟨_, .writeFails fault ends⟩
    | ok between =>
      obtain ⟨failed, ends⟩ := ih (.ok ()) between
      exact ⟨failed, .wrote written ends⟩
  | rename source target next ih =>
    simp only [runOn]
    cases moved : tree.rename source target with
    | error fault =>
      obtain ⟨failed, ends⟩ := ih (.error fault) tree
      exact ⟨_, .renameFails fault ends⟩
    | ok between =>
      obtain ⟨failed, ends⟩ := ih (.ok ()) between
      exact ⟨failed, .renamed moved ends⟩
  | remove path next ih =>
    simp only [runOn]
    cases gone : tree.remove path with
    | error fault =>
      obtain ⟨failed, ends⟩ := ih (.error fault) tree
      exact ⟨_, .notRemoved gone ends⟩
    | ok between =>
      obtain ⟨failed, ends⟩ := ih (.ok ()) between
      exact ⟨failed, .removed gone ends⟩

end Job

end ReqlLua
