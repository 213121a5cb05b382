import ReqlLua.Proofs.Generator.Process

/-! What a run does to the files, template by template. All the files that it touches are in one
directory: the templates, the sources and the temporary files of the sources. -/

namespace ReqlLua.Generator

open FileTree

variable {home : Location}

/-! ### One template -/

/-- The text of a template is spliced and takes the place of the source. The temporary file is gone
afterwards, and no other place changes. -/
structure Turn (generator : Generator) (above : Location) (name source text : String)
    (tree after : FileTree home) : Prop where
  templateAt : tree.locate (generator.settings.templatePath name) = .ok (templatePlace above name)
  outputAt : tree.locate (generator.settings.outputPath name) = .ok (outputPlace above name)
  hiddenAt : tree.locate (generator.settings.outputPath name ++ ".tmp") =
    .ok (hiddenPlace above name)
  held : tree.entry? (templatePlace above name) = some (.file source.toUTF8)
  spliced : Template.splice source generator.substitutions = .ok text
  left : ∀ location, after.entry? location =
    if location = outputPlace above name then some (.file text.toUTF8)
    else if location = hiddenPlace above name then none else tree.entry? location
  directories : SameDirectories tree after

theorem turn_of_process {generator : Generator} {name path : String} {tree after : FileTree home}
    (valid : Settings.isTemplateName name = true)
    (processed : Attempt.on (generator.process name) tree = (.ok path, after)) :
    ∃ above source text, tree.enter generator.settings.srcDir = .ok above ∧
      Turn generator above name source text tree after := by
  have plain := plain_of_isTemplateName valid
  obtain ⟨-, above, text, ready, rfl⟩ := ready_of_process plain processed
  obtain ⟨above', entered, same⟩ := locate_outputPath plain ready.outputAt
  obtain ⟨source, text', held, spliced, output⟩ := ready.yields
  cases List.append_cancel_right same
  rw [Option.some.injEq, Entry.file.injEq] at output
  rw [← toUTF8_injective output] at spliced
  exact ⟨above, source, text, entered, ready.templateAt, ready.outputAt, ready.hiddenAt, held, spliced,
    entry?_replaced tree above name text, sameDirectories_replaced ready⟩

/-! ### All templates -/

/-- Templates are turned into sources one after another. -/
inductive Turns (generator : Generator) (above : Location) :
    List String → FileTree home → FileTree home → Prop where
  | done (tree : FileTree home) : Turns generator above [] tree tree
  | next {name : String} {rest : List String} {source text : String} {tree between after : FileTree home}
      (first : Turn generator above name source text tree between)
      (others : Turns generator above rest between after) :
      Turns generator above (name :: rest) tree after

theorem turns_of_processAll {generator : Generator} {names paths : List String}
    {tree after : FileTree home} (valid : ∀ name ∈ names, Settings.isTemplateName name = true)
    {above : Location} (entered : tree.enter generator.settings.srcDir = .ok above)
    (processed : Attempt.on (generator.processAll names) tree = (.ok paths, after)) :
    Turns generator above names tree after := by
  induction names generalizing tree paths with
  | nil =>
    cases processed
    exact .done tree
  | cons name rest ih =>
    obtain ⟨path, between, first, processed⟩ := Attempt.of_on_bind_ok processed
    obtain ⟨later, last, others, processed⟩ := Attempt.of_on_bind_ok processed
    cases processed
    obtain ⟨above', source, text, entered', turn⟩ :=
      turn_of_process (valid name List.mem_cons_self) first
    rw [entered] at entered'
    cases entered'
    have onward := turn.directories.enter entered
    exact .next turn (ih (fun other member => valid other (List.mem_cons_of_mem _ member)) onward others)

theorem turns_of_run {generator : Generator} (valid : generator.settings.Valid)
    {paths : List String} {tree after : FileTree home}
    (ran : Attempt.on generator.run tree = (.ok paths, after)) :
    ∃ above, Turns generator above generator.settings.templates tree after := by
  have names := valid.names
  unfold run at ran
  cases templates : generator.settings.templates with
  | nil => exact absurd templates valid.someTemplate
  | cons name rest =>
    rw [templates] at ran names
    obtain ⟨path, between, first, -⟩ := Attempt.of_on_bind_ok ran
    obtain ⟨above, source, text, entered, -⟩ := turn_of_process (names name List.mem_cons_self) first
    exact ⟨above, turns_of_processAll names entered ran⟩

namespace Turns

variable {generator : Generator} {above : Location} {names : List String} {tree after : FileTree home}

theorem append {before behind : List String} {between : FileTree home}
    (first : Turns generator above before tree between)
    (second : Turns generator above behind between after) :
    Turns generator above (before ++ behind) tree after := by
  induction first with
  | done => exact second
  | next turn others ih => exact .next turn (ih second)

theorem directories (turns : Turns generator above names tree after) :
    SameDirectories tree after := by
  induction turns with
  | done tree => exact .refl tree
  | next turn others ih => exact turn.directories.trans ih

/-- The places of every template are found as they are before the run. -/
theorem located (turns : Turns generator above names tree after) :
    ∀ name ∈ names,
      tree.locate (generator.settings.templatePath name) = .ok (templatePlace above name) ∧
      tree.locate (generator.settings.outputPath name) = .ok (outputPlace above name) ∧
      tree.locate (generator.settings.outputPath name ++ ".tmp") = .ok (hiddenPlace above name) := by
  induction turns with
  | done => exact fun _ member => absurd member List.not_mem_nil
  | next turn others ih =>
    intro name member
    rcases List.mem_cons.1 member with rfl | member
    · exact ⟨turn.templateAt, turn.outputAt, turn.hiddenAt⟩
    · obtain ⟨template, output, hidden⟩ := ih name member
      have back := turn.directories.symm
      exact ⟨back.locate template, back.locate output, back.locate hidden⟩

theorem template_free (turns : Turns generator above names tree after) :
    ∀ name ∈ names, tree.entry? (templatePlace above name) ≠ some .directory := by
  induction turns with
  | done => exact fun _ member => absurd member List.not_mem_nil
  | next turn others ih =>
    intro name member directory
    rcases List.mem_cons.1 member with rfl | member
    · rw [turn.held] at directory
      cases directory
    · exact ih name member ((turn.directories _).1 directory)

/-- Only the sources and their temporary files change. -/
theorem frame (turns : Turns generator above names tree after) {location : Location}
    (apart : ∀ name ∈ names,
      location ≠ outputPlace above name ∧ location ≠ hiddenPlace above name) :
    after.entry? location = tree.entry? location := by
  induction turns with
  | done => rfl
  | next turn others ih =>
    obtain ⟨notOutput, notHidden⟩ := apart _ List.mem_cons_self
    rw [ih fun name member => apart name (List.mem_cons_of_mem _ member), turn.left,
      if_neg notOutput, if_neg notHidden]

/-- No temporary file is left. -/
theorem hidden_gone (turns : Turns generator above names tree after) {name : String}
    (touched : name ∈ names ∨ tree.entry? (hiddenPlace above name) = none) :
    after.entry? (hiddenPlace above name) = none := by
  induction turns with
  | done =>
    rcases touched with member | gone
    · exact absurd member List.not_mem_nil
    · exact gone
  | @next other rest source text tree between after turn others ih =>
    apply ih
    have left := turn.left (hiddenPlace above name)
    rw [if_neg (outputPlace_ne_hiddenPlace above other name).symm] at left
    by_cases here : hiddenPlace above name = hiddenPlace above other
    · rw [if_pos here] at left
      exact .inr left
    · rw [if_neg here] at left
      rcases touched with member | gone
      · rcases List.mem_cons.1 member with rfl | member
        · exact absurd rfl here
        · exact .inl member
      · exact .inr (left.trans gone)

/-- A place that holds the same at every moment of the run. -/
def Steady (generator : Generator) (above : Location) (names : List String) (tree after : FileTree home)
    (place : Location) (entry : Option Entry) : Prop :=
  ∀ before behind between, names = before ++ behind → Turns generator above before tree between →
    Turns generator above behind between after → between.entry? place = entry

namespace Steady

variable {place : Location} {entry : Option Entry}

theorem tail {name source text : String} {rest : List String} {between : FileTree home}
    (steady : Steady generator above (name :: rest) tree after place entry)
    (turn : Turn generator above name source text tree between) :
    Steady generator above rest between after place entry := by
  intro before behind middle split first second
  apply steady (name :: before) behind middle _ (.next turn first) second
  rw [split, List.cons_append]

theorem initial {before behind : List String} {between : FileTree home}
    (steady : Steady generator above (before ++ behind) tree after place entry)
    (second : Turns generator above behind between after) :
    Steady generator above before tree between place entry := by
  intro before' behind' middle split first others
  apply steady before' (behind' ++ behind) middle _ first (others.append second)
  rw [split, List.append_assoc]

theorem start (steady : Steady generator above names tree after place entry)
    (turns : Turns generator above names tree after) : tree.entry? place = entry :=
  steady [] names tree rfl (.done tree) turns

end Steady

/-- A source whose template stays the same during the run holds what that template yields, and what
it held before if the template is not among those that are processed. -/
theorem output_cases (turns : Turns generator above names tree after) {name : String}
    {template : Option Entry}
    (steady : Steady generator above names tree after (templatePlace above name) template) :
    (name ∉ names ∧ after.entry? (outputPlace above name) = tree.entry? (outputPlace above name)) ∨
      (name ∈ names ∧ generator.Yields template (after.entry? (outputPlace above name))) := by
  induction turns with
  | done => exact .inl ⟨List.not_mem_nil, rfl⟩
  | @next other rest source text tree between after turn others ih =>
    rcases ih (steady.tail turn) with ⟨notLater, same⟩ | ⟨later, yields⟩
    · have left := turn.left (outputPlace above name)
      by_cases here : name = other
      · subst here
        rw [if_pos rfl] at left
        have held := steady.start (.next turn others)
        rw [turn.held] at held
        exact .inr ⟨List.mem_cons_self, source, text, held.symm, turn.spliced, same.trans left⟩
      · rw [if_neg fun places => here (outputPlace_injective places),
          if_neg (outputPlace_ne_hiddenPlace above name other)] at left
        exact .inl ⟨fun member => (List.mem_cons.1 member).elim here notLater, same.trans left⟩
    · exact .inr ⟨List.mem_cons_of_mem _ later, yields⟩

end Turns

end ReqlLua.Generator
