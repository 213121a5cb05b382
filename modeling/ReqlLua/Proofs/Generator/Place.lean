import ReqlLua.Proofs.Files.Place
import ReqlLua.Proofs.Settings.Accepted

/-! Where a run finds and puts its files. All of them are in one directory: the templates, the sources and
the temporary files of the sources. -/

namespace ReqlLua.Generator

open FileTree ReqlLua.Path

variable {home : Location}

/-! ### Places -/

def outputPlace (above : Location) (name : String) : Location := above ++ [name ++ ".lua"]

def hiddenPlace (above : Location) (name : String) : Location := above ++ [name ++ ".lua.tmp"]

/-- The template of a source is where the source of a longer name would be. -/
def templatePlace (above : Location) (name : String) : Location := outputPlace above (name ++ ".pre")

theorem outputPlace_injective {above : Location} {first second : String}
    (same : outputPlace above first = outputPlace above second) : first = second := by
  have names := List.append_cancel_left same
  obtain ⟨names, -⟩ := List.cons_eq_cons.1 names
  have letters := congrArg String.toList names
  rw [String.toList_append, String.toList_append] at letters
  exact String.toList_injective (List.append_cancel_right letters)

theorem outputPlace_ne_hiddenPlace (above : Location) (first second : String) :
    outputPlace above first ≠ hiddenPlace above second := by
  intro same
  have names := List.append_cancel_left same
  obtain ⟨names, -⟩ := List.cons_eq_cons.1 names
  have last := congrArg (fun name => name.toList.getLast?) names
  simp [String.toList_append] at last

theorem outputPlace_ne_nil (above : Location) (name : String) : outputPlace above name ≠ [] :=
  List.append_ne_nil_of_right_ne_nil above (List.cons_ne_nil _ _)

theorem hiddenPlace_ne_nil (above : Location) (name : String) : hiddenPlace above name ≠ [] :=
  List.append_ne_nil_of_right_ne_nil above (List.cons_ne_nil _ _)

/-! ### Paths -/

theorem plain_of_isTemplateName {name : String} (valid : Settings.isTemplateName name = true) :
    Plain name := by
  unfold Plain
  simp only [Settings.isTemplateName, Bool.and_eq_true] at valid
  simpa using valid.1.2

theorem plain_of_valid {settings : Settings} (valid : settings.validate = .ok settings) :
    ∀ name ∈ settings.templates, Plain name := fun name member =>
  plain_of_isTemplateName ((Settings.validate_ok valid).2.names name member)

theorem proper_output {name : String} (plain : Plain name) : Proper (name ++ ".lua") :=
  Proper.of_append plain (by decide) (by decide)

theorem proper_hidden {name : String} (plain : Plain name) : Proper (name ++ ".lua.tmp") :=
  Proper.of_append plain (by decide) (by decide)

/-- The temporary file is in the directory of the source. -/
theorem hiddenPath_eq (settings : Settings) {name : String} (plain : Plain name) :
    settings.outputPath name ++ ".tmp" = join settings.srcDir (name ++ ".lua.tmp") := by
  have suffix : Plain ".lua" := by decide
  rw [Settings.outputPath, join_append _ (plain.append suffix) (by decide), String.append_assoc]
  rfl

theorem locate_templatePath {settings : Settings} {name : String} (plain : Plain name)
    {tree : FileTree home} {place : Location} (located : tree.locate (settings.templatePath name) = .ok place) :
    ∃ above, tree.enter settings.srcDir = .ok above ∧ place = templatePlace above name := by
  have proper := Proper.of_append plain (show Plain ".pre.lua" by decide) (by decide)
  obtain ⟨above, entered, -, same⟩ := locate_join proper located
  refine ⟨above, entered, ?_⟩
  rw [same, templatePlace, outputPlace, String.append_assoc]
  rfl

theorem locate_outputPath {settings : Settings} {name : String} (plain : Plain name)
    {tree : FileTree home} {place : Location} (located : tree.locate (settings.outputPath name) = .ok place) :
    ∃ above, tree.enter settings.srcDir = .ok above ∧ place = outputPlace above name := by
  obtain ⟨above, entered, -, same⟩ := locate_join (proper_output plain) located
  exact ⟨above, entered, same⟩

theorem locate_hiddenPath {settings : Settings} {name : String} (plain : Plain name)
    {tree : FileTree home} {place : Location}
    (located : tree.locate (settings.outputPath name ++ ".tmp") = .ok place) :
    ∃ above, tree.enter settings.srcDir = .ok above ∧ place = hiddenPlace above name := by
  rw [hiddenPath_eq settings plain] at located
  obtain ⟨above, entered, -, same⟩ := locate_join (proper_hidden plain) located
  exact ⟨above, entered, same⟩

theorem directory_of_outputPath {settings : Settings} {name : String} (plain : Plain name)
    {tree : FileTree home} {above : Location}
    (located : tree.locate (settings.outputPath name) = .ok (outputPlace above name)) :
    tree.follow settings.srcDir = .ok above ∧ tree.entry? above = some .directory := by
  obtain ⟨above', followed, directory, same⟩ := locate_child (proper_output plain) located
  rw [List.append_cancel_right same]
  exact ⟨followed, directory⟩

end ReqlLua.Generator
