import ReqlLua.Proofs.Files.Sibling
import ReqlLua.Proofs.Generator.Process
import ReqlLua.Proofs.Job.Ends

/-! A file is replaced as a whole or not at all, wherever the machine fails. The text goes to a temporary file
beside the path first, so that the path itself only changes in the one step that moves the file over it. -/

namespace ReqlLua.Generator

open FileTree

variable {home : Location} {tree between after : FileTree home} {path text : String}

/-! ### What is left -/

/-- The path holds the contents. There is nothing under the name that they were written to, and all else is as it
was. -/
structure Replacement (tree after : FileTree home) (path : String) (contents : ByteArray) : Prop where
  held : after.read path = .ok contents
  alone : ∃ hidden, after.locate (path ++ ".tmp") = .ok hidden ∧ after.entry? hidden = none
  kept : ∀ location, tree.locate path ≠ .ok location → tree.locate (path ++ ".tmp") ≠ .ok location →
    after.entry? location = tree.entry? location

/-- No file is left under the name of the temporary file, and all else is as it was. -/
structure Restored (tree after : FileTree home) (path : String) : Prop where
  located : after.locate path = tree.locate path
  untouched : ∀ place, tree.locate path = .ok place → after.entry? place = tree.entry? place
  alone : after.isFile (path ++ ".tmp") = false
  kept : ∀ location, tree.locate (path ++ ".tmp") ≠ .ok location → after.entry? location = tree.entry? location
  directories : SameDirectories tree after

/-- The suffix of the temporary file adds to the name at the end of the path. -/
theorem plain_temporary : ReqlLua.Path.Plain ".tmp" := by decide

theorem replacement_of_rename {contents : ByteArray} (written : tree.write (path ++ ".tmp") contents = .ok between)
    (moved : between.rename (path ++ ".tmp") path = .ok after) : Replacement tree after path contents := by
  obtain ⟨hidden, place, hiddenAt, hiddenFree, target, rfl⟩ := write_rename_ok_iff.1 ⟨between, written, moved⟩
  obtain ⟨placeAt, placeFree⟩ := locate_of_locateTarget target
  have same := sameDirectories_move hiddenFree placeFree contents
  have entries := entry?_move hiddenFree placeFree contents
  have apart : place ≠ hidden := place_ne_sibling plain_temporary (by decide) placeAt hiddenAt
  refine ⟨read_ok_iff.2 ⟨place, same.locate placeAt, ?_⟩, ⟨hidden, same.locate hiddenAt, ?_⟩, ?_⟩
  · rw [entries, if_pos rfl]
  · rw [entries, if_neg apart.symm, if_pos rfl]
  · intro location away away'
    have notPlace : location ≠ place := fun here => away (here ▸ placeAt)
    have notHidden : location ≠ hidden := fun here => away' (here ▸ hiddenAt)
    rw [entries, if_neg notPlace, if_neg notHidden]

theorem restored_cleared (tree : FileTree home) (path : String) : Restored tree (cleared tree (path ++ ".tmp")) path := by
  unfold cleared
  cases removed : tree.remove (path ++ ".tmp") with
  | error fault =>
    refine ⟨rfl, fun _ _ => rfl, ?_, fun _ _ => rfl, .refl tree⟩
    -- A file could have been removed.
    rw [Bool.eq_false_iff]
    intro there
    obtain ⟨contents, held⟩ := read_of_isFile there
    obtain ⟨hidden, hiddenAt, found⟩ := read_ok_iff.1 held
    rw [remove_ok_iff.2 ⟨hidden, contents, hiddenAt, found, rfl⟩] at removed
    cases removed
  | ok rest =>
    obtain ⟨hidden, contents, hiddenAt, found, rfl⟩ := remove_ok_iff.1 removed
    have free := free_of_file found
    have same := sameDirectories_erase free
    have entries (location : Location) : entry? (tree.erase hidden) location =
        if location = hidden then none else tree.entry? location := entry?_erase (ne_nil_of_free free) location
    refine ⟨locate_beside same plain_temporary (by decide) hiddenAt, ?_, ?_, ?_, same⟩
    · intro place placeAt
      rw [entries, if_neg (place_ne_sibling plain_temporary (by decide) placeAt hiddenAt)]
    · rw [isFile, same.locate hiddenAt]
      simp only [entries, if_true]
    · intro location away
      have notHidden : location ≠ hidden := fun here => away (here ▸ hiddenAt)
      rw [entries, if_neg notHidden]

/-! ### Where it ends -/

/-- The operations of a replacement. -/
theorem run_replaceFile (path text : String) :
    (replaceFile path text).run =
      .write (path ++ ".tmp") text.toUTF8 fun written =>
        match written with
        | .error fault => .remove (path ++ ".tmp") fun _ => .done (.error (.file (path ++ ".tmp") fault))
        | .ok () => .rename (path ++ ".tmp") path fun moved =>
          match moved with
          | .error fault => .remove (path ++ ".tmp") fun _ => .done (.error (.file path fault))
          | .ok () => .done (.ok ()) := by
  refine congrArg (Job.write (path ++ ".tmp") text.toUTF8) (funext fun written => ?_)
  cases written with
  | error fault => rfl
  | ok =>
    refine congrArg (Job.rename (path ++ ".tmp") path) (funext fun moved => ?_)
    cases moved <;> rfl

theorem ends_removal {α : Type} {result result' : α} {failed : List (Deed × FileFault)}
    (ends : Job.Ends (.remove path fun _ => .done result) tree failed result' after) :
    result' = result ∧ after = cleared tree path := by
  unfold cleared
  cases ends with
  | removed gone later =>
    rw [gone]
    cases later
    exact ⟨rfl, rfl⟩
  | notRemoved refused later =>
    rw [refused]
    cases later
    exact ⟨rfl, rfl⟩

/-- The fault that a replacement reports is the fault of what failed first, and it is reported for the path that was to
be written or moved to. -/
inductive Reported (path text : String) : List (Deed × FileFault) → Except Failure Unit → Prop where
  | writing {fault later} : Reported path text ((.wrote (path ++ ".tmp") text.toUTF8, fault) :: later)
      (.error (.file (path ++ ".tmp") fault))
  | moving {fault later} : Reported path text ((.renamed (path ++ ".tmp") path, fault) :: later)
      (.error (.file path fault))

theorem ends_replaceFile {failed : List (Deed × FileFault)} {result : Except Failure Unit}
    (ends : (replaceFile path text).run.Ends tree failed result after) :
    result = .ok () ∧ failed = [] ∧ Replacement tree after path text.toUTF8 ∨
      Reported path text failed result ∧ Restored tree after path := by
  have leaves {between : FileTree home} (same : cleared between (path ++ ".tmp") = cleared tree (path ++ ".tmp"))
      (left : after = cleared between (path ++ ".tmp")) : Restored tree after path := by
    rw [left, same]
    exact restored_cleared tree path
  rw [run_replaceFile] at ends
  cases ends with
  | writeFails fault later =>
    obtain ⟨rfl, left⟩ := ends_removal later
    exact .inr ⟨.writing, leaves rfl left⟩
  | writeBreaksOff fault split begun later =>
    obtain ⟨rfl, left⟩ := ends_removal later
    exact .inr ⟨.writing, leaves (cleared_write begun) left⟩
  | wrote written later =>
    cases later with
    | renameFails fault later =>
      obtain ⟨rfl, left⟩ := ends_removal later
      exact .inr ⟨.moving, leaves (cleared_write written) left⟩
    | renamed moved later =>
      cases later
      exact .inl ⟨rfl, rfl, replacement_of_rename written moved⟩

theorem replaceFile_ok_iff :
    (Attempt.on (replaceFile path text) tree).1 = .ok () ↔
      (∃ hidden, tree.locate (path ++ ".tmp") = .ok hidden ∧ tree.entry? hidden ≠ some .directory) ∧
        ∃ place, tree.locateTarget path = .ok place := by
  constructor
  · intro succeeded
    obtain ⟨between, written, moved⟩ := on_replaceFile_ok.1 (Prod.ext succeeded rfl)
    obtain ⟨hidden, place, hiddenAt, free, target, -⟩ := write_rename_ok_iff.1 ⟨between, written, moved⟩
    exact ⟨⟨hidden, hiddenAt, free⟩, place, target⟩
  · rintro ⟨⟨hidden, hiddenAt, free⟩, place, target⟩
    have replaced : Attempt.on (replaceFile path text) tree = (.ok (), _) :=
      on_replaceFile_ok.2 (write_rename_ok_iff.2 ⟨hidden, place, hiddenAt, free, target, rfl⟩)
    exact congrArg Prod.fst replaced

theorem temporary_ne (path : String) : path ++ ".tmp" ≠ path := by
  intro same
  have lengths := congrArg String.length same
  rw [String.length_append] at lengths
  exact absurd lengths (by simp)

theorem replaceFile_writing_iff {fault : FileFault} :
    (Attempt.on (replaceFile path text) tree).1 = .error (.file (path ++ ".tmp") fault) ↔
      tree.write (path ++ ".tmp") text.toUTF8 = .error fault := by
  rw [on_replaceFile]
  simp only
  cases tree.write (path ++ ".tmp") text.toUTF8 with
  | error fault' => simp
  | ok between =>
    simp only
    cases between.rename (path ++ ".tmp") path with
    | error fault' => simp [(temporary_ne path).symm]
    | ok after => simp

theorem replaceFile_moving_iff {fault : FileFault} :
    (Attempt.on (replaceFile path text) tree).1 = .error (.file path fault) ↔
      ∃ between, tree.write (path ++ ".tmp") text.toUTF8 = .ok between ∧
        between.rename (path ++ ".tmp") path = .error fault := by
  rw [on_replaceFile]
  simp only
  cases tree.write (path ++ ".tmp") text.toUTF8 with
  | error fault' => simp [temporary_ne path]
  | ok between =>
    simp only [Except.ok.injEq, exists_eq_left']
    cases between.rename (path ++ ".tmp") path with
    | error fault' => simp
    | ok after => simp

/-- A file is replaced as a whole or not at all, whatever fails. Where the machine fails nothing, it is replaced as soon
as a file may be written under the name of the temporary file and may take the name of the path. -/
theorem replaceFile_all_or_nothing (path text : String) (tree : FileTree home) :
    let temporary := path ++ ".tmp"
    let outcome := Attempt.on (replaceFile path text) tree
    (∀ failed result after, (replaceFile path text).run.Ends tree failed result after →
      result = .ok () ∧ failed = [] ∧ Replacement tree after path text.toUTF8 ∨
        Reported path text failed result ∧ Restored tree after path) ∧
    (∃ failed, (replaceFile path text).run.Ends tree failed outcome.1 outcome.2) ∧
    (outcome.1 = .ok () ↔
      (∃ hidden, tree.locate temporary = .ok hidden ∧ tree.entry? hidden ≠ some .directory) ∧
        ∃ place, tree.locateTarget path = .ok place) ∧
    (∀ fault, outcome.1 = .error (.file temporary fault) ↔
      tree.write temporary text.toUTF8 = .error fault) ∧
    ∀ fault, outcome.1 = .error (.file path fault) ↔
      ∃ between, tree.write temporary text.toUTF8 = .ok between ∧
        between.rename temporary path = .error fault :=
  ⟨fun _ _ _ => ends_replaceFile, Job.ends_runOn _ tree, replaceFile_ok_iff, fun _ => replaceFile_writing_iff,
    fun _ => replaceFile_moving_iff⟩

/-- A file away from the working directory, and beside it what an earlier replacement has left. -/
def staleFiles : FileTree ["work"] :=
  ⟨.ofList [(["tmp"], .directory), (["tmp", "a.lua"], .file "old".toUTF8),
    (["tmp", "a.lua.tmp"], .file "stale".toUTF8), (["work"], .directory)]⟩

/-- The device is full after the first letter. The temporary file is gone with the text that was in it, and the file
itself is as it was. -/
theorem replaceFile_all_or_nothing_full_device :
    let fault : FileFault := .other "No space left on device (os error 28)"
    ∃ after, (replaceFile "/tmp/a.lua" "new").run.Ends staleFiles
        [(.wrote "/tmp/a.lua.tmp" "new".toUTF8, fault)] (.error (.file "/tmp/a.lua.tmp" fault)) after ∧
      after.read "/tmp/a.lua" = .ok "old".toUTF8 ∧ Restored staleFiles after "/tmp/a.lua" := by
  intro fault
  let begun : FileTree ["work"] := staleFiles.insert ["tmp", "a.lua.tmp"] (.file "n".toUTF8)
  let after : FileTree ["work"] := staleFiles.erase ["tmp", "a.lua.tmp"]
  have written : staleFiles.write "/tmp/a.lua.tmp" "n".toUTF8 = .ok begun := by rfl
  have removed : begun.remove "/tmp/a.lua.tmp" = .ok after := by rfl
  have ends : (replaceFile "/tmp/a.lua" "new").run.Ends staleFiles
      [(.wrote "/tmp/a.lua.tmp" "new".toUTF8, fault)] (.error (.file "/tmp/a.lua.tmp" fault)) after := by
    have split : "new".toUTF8 = "n".toUTF8 ++ "ew".toUTF8 := by rfl
    rw [run_replaceFile]
    exact .writeBreaksOff fault split written (.removed removed .done)
  refine ⟨after, ends, by rfl, ?_⟩
  obtain ⟨every, -⟩ := replaceFile_all_or_nothing "/tmp/a.lua" "new" staleFiles
  rcases every _ _ _ ends with ⟨-, nothing, -⟩ | ⟨-, restored⟩
  · cases nothing
  · exact restored

end ReqlLua.Generator
