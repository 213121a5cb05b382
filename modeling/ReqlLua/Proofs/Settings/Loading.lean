import ReqlLua.Proofs.Files.Tree
import ReqlLua.Proofs.Job
import ReqlLua.Settings.Load

/-! Finding the settings changes no file, whatever the files are and whether settings are found or not.
What is found follows from the two files that are read. -/

namespace ReqlLua

namespace Job

variable {α β : Type}

/-- A job that leaves every tree as it is. -/
def Quiet (job : Job α) : Prop := ∀ ⦃home : Location⦄ (tree : FileTree home), (job.runOn tree).tree = tree

theorem quiet_pure (value : α) : Quiet (pure value : Job α) := fun _ _ => rfl

theorem quiet_asksFile (path : String) : (asksFile path).Quiet := fun _ _ => rfl

theorem quiet_readsText (path : String) : (readsText path).Quiet := fun _ _ => rfl

theorem Quiet.bind {job : Job α} {follow : α → Job β} (quiet : job.Quiet)
    (onward : ∀ value, (follow value).Quiet) : (job >>= follow).Quiet := by
  intro home tree
  rw [runOn_bind]
  exact (onward _ _).trans (quiet tree)

/-- What comes of a job does not depend on the quiet jobs before it but for what came of them. -/
theorem Quiet.result_bind {home : Location} {job : Job α} (quiet : job.Quiet) (follow : α → Job β)
    (tree : FileTree home) :
    ((job >>= follow).runOn tree).result =
      ((follow (job.runOn tree).result).runOn tree).result := by
  rw [runOn_bind]
  exact congrArg (fun left => ((follow (job.runOn tree).result).runOn left).result) (quiet tree)

theorem Quiet.orFail {job : Job (Except β α)} (quiet : job.Quiet) (wrap : β → Failure) :
    Quiet (Attempt.orFail wrap job).run :=
  Quiet.bind quiet fun _ => quiet_pure _

theorem Quiet.andThen {attempt : Attempt α} {follow : α → Attempt β} (quiet : Quiet attempt.run)
    (onward : ∀ value, Quiet (follow value).run) : Quiet (attempt >>= follow).run := by
  rw [ExceptT.run_bind]
  apply quiet.bind
  rintro (failure | value)
  · exact quiet_pure _
  · exact onward value

end Job

namespace Settings

open Job

theorem quiet_findFile (directory path : String) : (findFile directory path).Quiet := by
  apply (quiet_asksFile path).bind
  intro there
  split
  · split <;> exact quiet_pure _
  · split
    · exact quiet_pure _
    · next other _ =>
      apply (quiet_asksFile other).bind
      intro there
      split <;> exact quiet_pure _

theorem quiet_readFile (directory path : String) : (readFile directory path).Quiet := by
  apply (quiet_findFile directory path).bind
  intro found
  split
  · exact quiet_pure _
  · next file =>
    apply (quiet_readsText file).bind
    intro contents
    split <;> exact quiet_pure _

theorem quiet_layLocal (directory : String) : (layLocal directory).Quiet := by
  apply (quiet_readFile directory localFile).bind
  intro read
  split <;> exact quiet_pure _

theorem quiet_layAsked (directory : String) (asked : Option String) (layers : Layers) :
    (layAsked directory asked layers).Quiet := by
  unfold layAsked
  split
  · exact quiet_pure _
  · next path =>
    apply (quiet_readFile directory path).bind
    intro read
    split <;> exact quiet_pure _

/-- Loading settings leaves the files as they are. -/
theorem on_load_tree {home : Location} (directory : String) (asked : Option String) (tree : FileTree home) :
    (Attempt.on (load directory asked) tree).2 = tree := by
  have quiet : Job.Quiet (load directory asked).run := by
    apply ((quiet_layLocal directory).orFail _).andThen
    intro below
    apply ((quiet_layAsked directory asked below).orFail _).andThen
    exact fun layers => quiet_pure _
  exact quiet tree

/-! ### What is found -/

variable {home : Location} {directory path : String} {tree : FileTree home}

theorem result_asksFile (path : String) (tree : FileTree home) :
    ((asksFile path).runOn tree).result = tree.isFile path := rfl

/-- The text of a settings file and the name that messages give the file. -/
def fileText (tree : FileTree home) (directory path : String) : Except SettingsFault (String × String) :=
  ((readFile directory path).runOn tree).result

/-- A file with the extension of settings files is found under its own path. -/
theorem fileText_of_read {text : String}
    (named : (Path.name? path).bind Path.extension? = some fileExtension)
    (held : tree.read path = .ok text.toUTF8) :
    fileText tree directory path = .ok (Path.relativeTo directory path, text) := by
  have there := FileTree.isFile_of_read held
  have found : ((findFile directory path).runOn tree).result = .ok path := by
    rw [findFile, (quiet_asksFile path).result_bind]
    simp only [result_asksFile, there, named, if_true]
    rfl
  rw [fileText, readFile, (quiet_findFile directory path).result_bind, found]
  dsimp only
  rw [(quiet_readsText path).result_bind, readsText_ok_iff.2 held]
  rfl

theorem result_layLocal (tree : FileTree home) (directory : String) :
    ((layLocal directory).runOn tree).result =
      match fileText tree directory localFile with
      | .error _ => .ok Layers.base
      | .ok (origin, text) => layText Layers.base (some origin) text := by
  rw [layLocal, (quiet_readFile directory localFile).result_bind, fileText]
  cases ((readFile directory localFile).runOn tree).result <;> rfl

theorem result_layAsked (tree : FileTree home) (directory path : String) (layers : Layers) :
    ((layAsked directory (some path) layers).runOn tree).result =
      match fileText tree directory path with
      | .error fault => .error fault
      | .ok (origin, text) => layText layers (some origin) text := by
  rw [layAsked, (quiet_readFile directory path).result_bind, fileText]
  cases ((readFile directory path).runOn tree).result <;> rfl

theorem on_load (directory : String) (asked : Option String) (tree : FileTree home) :
    Attempt.on (load directory asked) tree =
      (Except.mapError .settings do
        let below ← ((layLocal directory).runOn tree).result
        let layers ← ((layAsked directory asked below).runOn tree).result
        layers.toSettings, tree) := by
  rw [load, Attempt.on_bind, Attempt.on_orFail, quiet_layLocal directory tree]
  cases ((layLocal directory).runOn tree).result with
  | error fault => rfl
  | ok below =>
    change Attempt.on (Attempt.orFail .settings (layAsked directory asked below) >>= fun layers =>
      Attempt.ofExcept .settings layers.toSettings) tree = (Except.mapError .settings do
        let layers ← ((layAsked directory asked below).runOn tree).result
        layers.toSettings, tree)
    rw [Attempt.on_bind, Attempt.on_orFail, quiet_layAsked directory asked below tree]
    cases ((layAsked directory asked below).runOn tree).result with
    | error fault => rfl
    | ok layers => rfl

end Settings

end ReqlLua
