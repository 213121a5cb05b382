import Mathlib.Logic.Relation
import ReqlLua.Proofs.Files.Effect
import ReqlLua.Proofs.Job.Ends

/-! Jobs in small steps. A file is written by emptying it first and adding to it bit by bit; a name is
changed in one step. Every operation may fail at any time, and a write may fail half way. -/

namespace ReqlLua

/-- The files that have been read, with what was found in them. -/
abbrev Readings := List (String × ByteArray)

/-- Where a job stands: before its next operation, or in the middle of a write with `rest` still to be
added. -/
inductive Stage (α : Type) where
  | going (job : Job α)
  | writing (path : String) (rest : ByteArray) (next : Except FileFault Unit → Job α)

/-- A job on its way, and what there is of its files and readings. -/
structure Moment (home : Location) (α : Type) where
  stage : Stage α
  tree : FileTree home
  readings : Readings

namespace Moment

variable {α : Type} {home : Location}

/-- A moment before an operation. -/
def before (job : Job α) (tree : FileTree home) (readings : Readings) : Moment home α :=
  ⟨.going job, tree, readings⟩

/-- What can happen next. -/
inductive Step : Moment home α → Moment home α → Prop where
  | note {tree readings entry next} :
      Step (before (.note entry next) tree readings) (before next tree readings)
  | asked {tree readings path next} :
      Step (before (.isFile path next) tree readings) (before (next (tree.isFile path)) tree readings)
  | notSeen {tree readings path next} :
      Step (before (.isFile path next) tree readings) (before (next false) tree readings)
  | read {tree readings path next contents} (held : tree.read path = .ok contents) :
      Step (before (.read path next) tree readings)
        (before (next (.ok contents)) tree ((path, contents) :: readings))
  | readFails {tree readings path next} (fault : FileFault) :
      Step (before (.read path next) tree readings) (before (next (.error fault)) tree readings)
  | emptied {tree after readings path contents next} (truncated : tree.truncate path = .ok after) :
      Step (before (.write path contents next) tree readings)
        ⟨.writing path contents next, after, readings⟩
  | added {tree after readings path part rest next} (appended : tree.append path part = .ok after) :
      Step ⟨.writing path (part ++ rest) next, tree, readings⟩ ⟨.writing path rest next, after, readings⟩
  | written {tree readings path next} :
      Step ⟨.writing path .empty next, tree, readings⟩ (before (next (.ok ())) tree readings)
  | writeFails {tree readings path contents next} (fault : FileFault) :
      Step (before (.write path contents next) tree readings)
        (before (next (.error fault)) tree readings)
  | addingFails {tree readings path rest next} (fault : FileFault) :
      Step ⟨.writing path rest next, tree, readings⟩ (before (next (.error fault)) tree readings)
  | renamed {tree after readings source target next} (moved : tree.rename source target = .ok after) :
      Step (before (.rename source target next) tree readings) (before (next (.ok ())) after readings)
  | renameFails {tree readings source target next} (fault : FileFault) :
      Step (before (.rename source target next) tree readings)
        (before (next (.error fault)) tree readings)
  | removed {tree after readings path next} (gone : tree.remove path = .ok after) :
      Step (before (.remove path next) tree readings) (before (next (.ok ())) after readings)
  | removeFails {tree readings path next} (fault : FileFault) :
      Step (before (.remove path next) tree readings) (before (next (.error fault)) tree readings)

/-- What can happen in any number of steps. -/
abbrev Reaches : Moment home α → Moment home α → Prop := Relation.ReflTransGen Step

end Moment

namespace FileTree

variable {home : Location} {tree between after : FileTree home} {path : String} {part more : ByteArray}

/-- A file that has just been emptied is a file to which nothing has been written yet. -/
theorem write_empty_of_truncate (truncated : tree.truncate path = .ok after) :
    tree.write path .empty = .ok after := write_ok_iff.2 (truncate_ok_iff.1 truncated)

/-- A file that is added to is a file to which more has been written. -/
theorem write_append (written : tree.write path part = .ok between)
    (appended : between.append path more = .ok after) : tree.write path (part ++ more) = .ok after := by
  obtain ⟨place, located, free, rfl⟩ := write_ok_iff.1 written
  obtain ⟨place', contents, located', found, rfl⟩ := append_ok_iff.1 appended
  cases locate_unique located located'
  rw [entry?_insert (ne_nil_of_free free), if_pos rfl] at found
  cases found
  rw [insert_insert]
  exact write_ok_iff.2 ⟨place, located, free, rfl⟩

end FileTree

namespace Job

open FileTree Moment

variable {α : Type} {home : Location}

/-- A write has come half way when what has been added is all of a smaller write. -/
theorem reaches_begun {tree after : FileTree home} {readings : Readings} {path : String}
    {part rest : ByteArray} {next : Except FileFault Unit → Job α}
    (begun : tree.write path part = .ok after) :
    Reaches (before (.write path (part ++ rest) next) tree readings)
      ⟨.writing path rest next, after, readings⟩ := by
  unfold FileTree.write at begun
  cases truncated : tree.truncate path with
  | error fault =>
    rw [truncated] at begun
    cases begun
  | ok between =>
    rw [truncated] at begun
    exact .head (.emptied truncated) (.single (.added begun))

theorem reaches_write {tree after : FileTree home} {readings : Readings} {path : String}
    {contents : ByteArray} {next : Except FileFault Unit → Job α}
    (written : tree.write path contents = .ok after) :
    Reaches (before (.write path contents next) tree readings) (before (next (.ok ())) after readings) := by
  have added : Reaches (before (.write path (contents ++ .empty) next) tree readings)
      ⟨.writing path .empty next, after, readings⟩ := reaches_begun written
  rw [ByteArray.append_empty] at added
  exact added.tail .written

/-- Every end of a job is come to in steps. -/
theorem Ends.reaches {job : Job α} {tree after : FileTree home} {failed : List (Deed × FileFault)} {result : α}
    (ends : job.Ends tree failed result after) (readings : Readings) :
    ∃ later, Reaches (before job tree readings) (before (.done result) after later) := by
  induction ends generalizing readings with
  | done => exact ⟨readings, .refl⟩
  | note _ ih => exact (ih readings).imp fun _ => .head .note
  | asked _ ih => exact (ih readings).imp fun _ => .head .asked
  | read held _ ih => exact (ih _).imp fun _ => .head (.read held)
  | readFails fault _ ih => exact (ih readings).imp fun _ => .head (.readFails fault)
  | wrote written _ ih => exact (ih readings).imp fun _ => (reaches_write written).trans
  | writeFails fault _ ih => exact (ih readings).imp fun _ => .head (.writeFails fault)
  | writeBreaksOff fault split begun _ ih =>
    rw [split]
    exact (ih readings).imp fun _ => ((reaches_begun begun).tail (.addingFails fault)).trans
  | renamed moved _ ih => exact (ih readings).imp fun _ => .head (.renamed moved)
  | renameFails fault _ ih => exact (ih readings).imp fun _ => .head (.renameFails fault)
  | removed gone _ ih => exact (ih readings).imp fun _ => .head (.removed gone)
  | notRemoved _ _ ih => exact (ih readings).imp fun _ => .head (.removeFails _)

/-- Carrying a job out is one of the ways in which its steps can go. -/
theorem reaches_runOn (job : Job α) (tree : FileTree home) (readings : Readings) :
    ∃ later, Reaches (before job tree readings)
      (before (.done (job.runOn tree).result) (job.runOn tree).tree later) := by
  obtain ⟨failed, ends⟩ := ends_runOn job tree
  exact ends.reaches readings

end Job

end ReqlLua
