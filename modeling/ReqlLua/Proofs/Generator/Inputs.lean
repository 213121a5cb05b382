import Mathlib
import ReqlLua.Proofs.Generator.Run
import ReqlLua.Proofs.Protocol.RoundTrip

/-! Which runs leave their own inputs alone. A run writes sources and nothing else, but a source may lie
where a template or the protocol definition is: the source of a name that ends in `.pre` is the
template of the shorter name. -/

namespace ReqlLua

/-- The files that a run reads. -/
def Settings.inputs (settings : Settings) : List String :=
  settings.protodef :: settings.templates.map settings.templatePath

namespace Generator

open FileTree

variable {home : Location}

namespace Turns

variable {generator : Generator} {above : Location} {names : List String} {tree after : FileTree home}

/-! ### Templates that are there again -/

/-- If all templates are in the end what they were, then no template changed on the way: one that
changed can only be restored by another that changed too, whose name is longer. -/
theorem steady_of_longest (turns : Turns generator above names tree after)
    (kept : ∀ name ∈ names,
      after.entry? (templatePlace above name) = tree.entry? (templatePlace above name))
    {longest : Nat} (short : ∀ name ∈ names, name.length ≤ longest) (room : Nat) :
    ∀ name ∈ names, longest < name.length + room →
      Steady generator above names tree after (templatePlace above name)
        (tree.entry? (templatePlace above name)) := by
  induction room with
  | zero =>
    intro name member long
    exact absurd (short name member) (Nat.not_le.2 long)
  | succ room ih =>
    intro name member long before behind between split first second
    have known : ∀ other ∈ before, other ∈ names := by
      intro other earlier
      rw [split]
      exact List.mem_append_left behind earlier
    by_cases overwritten : name ++ ".pre" ∈ names
    · have longer : longest < (name ++ ".pre").length + room := by
        rw [String.length_append, show ".pre".length = 4 from rfl]
        omega
      have steady := ih (name ++ ".pre") overwritten longer
      have early := (split ▸ steady).initial second
      rcases first.output_cases early with ⟨-, same⟩ | ⟨-, yields⟩
      · exact same
      · -- What is written last is the same, and it is what the template was.
        rcases turns.output_cases steady with ⟨missing, -⟩ | ⟨-, last⟩
        · exact absurd overwritten missing
        · calc
            between.entry? (templatePlace above name) = after.entry? (templatePlace above name) :=
              yields.unique last
            _ = tree.entry? (templatePlace above name) := kept name member
    · apply first.frame
      intro other earlier
      refine ⟨?_, outputPlace_ne_hiddenPlace above _ other⟩
      intro here
      rw [outputPlace_injective here] at overwritten
      exact overwritten (known other earlier)

theorem steady_templates (turns : Turns generator above names tree after)
    (kept : ∀ name ∈ names,
      after.entry? (templatePlace above name) = tree.entry? (templatePlace above name))
    {name : String} (member : name ∈ names) :
    Steady generator above names tree after (templatePlace above name)
      (tree.entry? (templatePlace above name)) := by
  let longest := (names.map String.length).max (List.ne_nil_of_mem (List.mem_map_of_mem member))
  have short : ∀ other ∈ names, other.length ≤ longest :=
    fun other known => List.le_max_of_mem (List.mem_map_of_mem known)
  exact turns.steady_of_longest kept short (longest + 1) name member (by omega)

/-! ### Inputs that are left alone -/

/-- Places keep what they hold if no temporary file is among them, and each source among them is
what its template yields, for templates that are among them. -/
theorem inputs_kept (turns : Turns generator above names tree after) (inputs : Location → Prop)
    (templates : ∀ name ∈ names, inputs (templatePlace above name))
    (visible : ∀ name ∈ names, ¬ inputs (hiddenPlace above name))
    (yields : ∀ name ∈ names, inputs (outputPlace above name) →
      generator.Yields (tree.entry? (templatePlace above name)) (tree.entry? (outputPlace above name))) :
    ∀ place, inputs place → after.entry? place = tree.entry? place := by
  induction turns with
  | done => exact fun _ _ => rfl
  | @next name rest source text tree between after turn others ih =>
    have first : ∀ place, inputs place → between.entry? place = tree.entry? place := by
      intro place input
      rw [turn.left]
      by_cases output : place = outputPlace above name
      · subst output
        rw [if_pos rfl]
        have written : generator.Yields (tree.entry? (templatePlace above name))
            (some (.file text.toUTF8)) := ⟨source, text, turn.held, turn.spliced, rfl⟩
        exact written.unique (yields name List.mem_cons_self input)
      · have notHidden : place ≠ hiddenPlace above name := by
          rintro rfl
          exact visible name List.mem_cons_self input
        rw [if_neg output, if_neg notHidden]
    have later : ∀ other ∈ rest, inputs (outputPlace above other) →
        generator.Yields (between.entry? (templatePlace above other))
          (between.entry? (outputPlace above other)) := by
      intro other member input
      have known := List.mem_cons_of_mem name member
      rw [first _ (templates other known), first _ input]
      exact yields other known input
    have onward := ih (fun other member => templates other (List.mem_cons_of_mem name member))
      (fun other member => visible other (List.mem_cons_of_mem name member)) later
    intro place input
    calc
      after.entry? place = between.entry? place := onward place input
      _ = tree.entry? place := first place input

end Turns

/-! ### Runs -/

/-- The template of a name yields what a file holds already. -/
def Reproduces (generator : Generator) (tree : FileTree home) (name path : String) : Prop :=
  ∃ text, Attempt.on (generator.render name) tree = (.ok text, tree) ∧
    tree.read path = .ok text.toUTF8

/-- No source takes the place of a file that the run reads, unless it is the same as that file. -/
structure Harmless (generator : Generator) (tree : FileTree home) : Prop where
  hidden : ∀ name ∈ generator.settings.templates,
    tree.locate generator.settings.protodef ≠
      tree.locate (generator.settings.outputPath name ++ ".tmp")
  definition : ∀ name ∈ generator.settings.templates,
    tree.locate generator.settings.protodef = tree.locate (generator.settings.outputPath name) →
      generator.Reproduces tree name generator.settings.protodef
  template : ∀ name ∈ generator.settings.templates,
    name ++ ".pre" ∈ generator.settings.templates →
      generator.Reproduces tree (name ++ ".pre") (generator.settings.templatePath name)

theorem reproduces_iff {generator : Generator} {tree : FileTree home} {name path : String}
    {template place : Location}
    (templateAt : tree.locate (generator.settings.templatePath name) = .ok template)
    (located : tree.locate path = .ok place) :
    generator.Reproduces tree name path ↔
      generator.Yields (tree.entry? template) (tree.entry? place) := by
  constructor
  · rintro ⟨text, rendered, held⟩
    obtain ⟨-, source, read, spliced⟩ := on_render_ok.1 rendered
    exact ⟨source, text, (read_ok_iff_of_locate templateAt).1 read, spliced,
      (read_ok_iff_of_locate located).1 held⟩
  · rintro ⟨source, text, held, spliced, output⟩
    have read := (read_ok_iff_of_locate templateAt).2 held
    exact ⟨text, on_render_ok.2 ⟨rfl, source, read, spliced⟩,
      (read_ok_iff_of_locate located).2 output⟩

/-- Inputs are what they were when their places hold what they held. -/
theorem inputs_read_iff {generator : Generator} {above definition : Location}
    {tree after : FileTree home} {contents : ByteArray}
    (turns : Turns generator above generator.settings.templates tree after)
    (definitionAt : tree.locate generator.settings.protodef = .ok definition)
    (held : tree.entry? definition = some (.file contents)) :
    (∀ path ∈ generator.settings.inputs, after.read path = tree.read path) ↔
      after.entry? definition = tree.entry? definition ∧
        ∀ name ∈ generator.settings.templates,
          after.entry? (templatePlace above name) = tree.entry? (templatePlace above name) := by
  have same := turns.directories
  have free : tree.entry? definition ≠ some .directory := by
    rw [held]
    exact nofun
  unfold Settings.inputs
  rw [List.forall_mem_cons, List.forall_mem_map, read_eq_iff same definitionAt free]
  apply and_congr_right
  intro _
  apply forall₂_congr
  intro name member
  exact read_eq_iff same (turns.located name member).1 (turns.template_free name member)

theorem harmless_of_kept {generator : Generator} {above definition : Location}
    {tree after : FileTree home} {contents : ByteArray}
    (turns : Turns generator above generator.settings.templates tree after)
    (definitionAt : tree.locate generator.settings.protodef = .ok definition)
    (held : tree.entry? definition = some (.file contents))
    (keptDefinition : after.entry? definition = tree.entry? definition)
    (keptTemplates : ∀ name ∈ generator.settings.templates,
      after.entry? (templatePlace above name) = tree.entry? (templatePlace above name)) :
    generator.Harmless tree := by
  have written {name : String} (member : name ∈ generator.settings.templates) :
      generator.Yields (tree.entry? (templatePlace above name))
        (after.entry? (outputPlace above name)) := by
    rcases turns.output_cases (turns.steady_templates keptTemplates member) with
      ⟨missing, -⟩ | ⟨-, yields⟩
    · exact absurd member missing
    · exact yields
  constructor
  case hidden =>
    intro name member here
    rw [definitionAt, (turns.located name member).2.2] at here
    cases here
    rw [turns.hidden_gone (.inl member), held] at keptDefinition
    cases keptDefinition
  case definition =>
    intro name member here
    obtain ⟨templateAt, outputAt, -⟩ := turns.located name member
    rw [definitionAt, outputAt] at here
    cases here
    rw [reproduces_iff templateAt definitionAt, ← keptDefinition]
    exact written member
  case template =>
    intro name member longer
    rw [reproduces_iff (turns.located _ longer).1 (turns.located name member).1,
      ← keptTemplates name member]
    exact written longer

theorem kept_of_harmless {generator : Generator} {above definition : Location}
    {tree after : FileTree home}
    (turns : Turns generator above generator.settings.templates tree after)
    (definitionAt : tree.locate generator.settings.protodef = .ok definition)
    (harmless : generator.Harmless tree) :
    after.entry? definition = tree.entry? definition ∧
      ∀ name ∈ generator.settings.templates,
        after.entry? (templatePlace above name) = tree.entry? (templatePlace above name) := by
  let inputs (place : Location) : Prop :=
    place = definition ∨ ∃ name ∈ generator.settings.templates, place = templatePlace above name
  have visible : ∀ name ∈ generator.settings.templates, ¬ inputs (hiddenPlace above name) := by
    rintro name member (here | ⟨other, -, here⟩)
    · apply harmless.hidden name member
      rw [definitionAt, (turns.located name member).2.2, here]
    · exact outputPlace_ne_hiddenPlace above _ name here.symm
  have yields : ∀ name ∈ generator.settings.templates, inputs (outputPlace above name) →
      generator.Yields (tree.entry? (templatePlace above name))
        (tree.entry? (outputPlace above name)) := by
    rintro name member (here | ⟨other, known, here⟩)
    · obtain ⟨templateAt, outputAt, -⟩ := turns.located name member
      have reproduces := harmless.definition name member (by rw [definitionAt, outputAt, here])
      rw [here]
      exact (reproduces_iff templateAt definitionAt).1 reproduces
    · obtain rfl := outputPlace_injective here
      have reproduces := harmless.template other known member
      exact (reproduces_iff (turns.located _ member).1 (turns.located other known).1).1 reproduces
  have kept := turns.inputs_kept inputs (fun name member => .inr ⟨name, member, rfl⟩) visible yields
  exact ⟨kept definition (.inl rfl), fun name member => kept _ (.inr ⟨name, member, rfl⟩)⟩

/-- A run leaves its inputs as they are exactly if it is harmless. -/
theorem run_keeps_inputs_iff {settings : Settings} (accepted : settings.Accepted)
    {generator : Generator} {paths : List String} {tree between after : FileTree home}
    (prepared : Attempt.on (prepare settings) tree = (.ok generator, between))
    (ran : Attempt.on generator.run between = (.ok paths, after)) :
    (∀ path ∈ settings.inputs, after.read path = tree.read path) ↔ generator.Harmless tree := by
  have valid := accepted.valid
  obtain ⟨rfl, rfl, source, read⟩ := prepare_ok prepared
  obtain ⟨definition, definitionAt, held⟩ := read_ok_iff.1 read
  obtain ⟨above, turns⟩ := turns_of_run valid ran
  rw [inputs_read_iff turns definitionAt held]
  constructor
  · rintro ⟨keptDefinition, keptTemplates⟩
    exact harmless_of_kept turns definitionAt held keptDefinition keptTemplates
  · intro harmless
    exact kept_of_harmless turns definitionAt harmless

/-- In particular if no name is another name and `.pre`, and no source nor its temporary file is where
the definition is. -/
theorem harmless_of_apart {generator : Generator} {tree : FileTree home}
    (apart : ∀ name ∈ generator.settings.templates,
      name ++ ".pre" ∉ generator.settings.templates ∧
      tree.locate generator.settings.protodef ≠ tree.locate (generator.settings.outputPath name) ∧
      tree.locate generator.settings.protodef ≠
        tree.locate (generator.settings.outputPath name ++ ".tmp")) :
    generator.Harmless tree where
  hidden name member := (apart name member).2.2
  definition name member here := absurd here (apart name member).2.1
  template name member longer := absurd longer (apart name member).1

/-! ### A clash -/

/-- Two names, the first of which has its template where the source of the second goes. -/
def clash : Settings := ⟨"proto/reql_protodef.json", "lua", ["a", "a.pre"], 77⟩

def clashDefinition : Definition := ⟨.empty, .empty, .ofList [("ADD", 24)]⟩

def luaFile (name text : String) : Location × Entry := (["work", "lua", name], .file text.toUTF8)

/-- The definition beside other files in the working directory. -/
def clashTree (files : List (Location × Entry)) : FileTree ["work"] where
  entries := .ofList <|
    (["work"], .directory) ::
    (["work", "proto"], .directory) ::
    (["work", "proto", "reql_protodef.json"], .file clashDefinition.json.toUTF8) ::
    (["work", "lua"], .directory) :: files

theorem mem_clash {name : String} : name ∈ clash.templates ↔ name = "a" ∨ name = "a.pre" := by
  simp [clash]

theorem clash_accepted : clash.Accepted :=
  @Settings.Accepted.ofToml clash "templates = [\"a\", \"a.pre\"]\n" (by cbv)

theorem prepare_clash {settings : Settings} {files : List (Location × Entry)}
    (held : (clashTree files).read settings.protodef = .ok clashDefinition.json.toUTF8) :
    ∃ blocks, Attempt.on (prepare settings) (clashTree files) =
      (.ok ⟨settings, substitutionsOf clashDefinition blocks⟩, clashTree files) := by
  have written := Definition.ofJson_of_written (Definition.definitionText_json clashDefinition)
  have loaded := on_loadDefinition_ok.2 ⟨rfl, _, held, written⟩
  rw [on_prepare loaded, on_ofTables]
  exact ⟨_, rfl⟩

/-- A template is processed by its steps, for settings that are known. -/
theorem process_of_steps {generator : Generator} {settings : Settings}
    (known : generator.settings = settings) {name source text : String}
    {tree between after : FileTree home}
    (held : tree.read (settings.templatePath name) = .ok source.toUTF8)
    (spliced : Template.splice source generator.substitutions = .ok text)
    (written : tree.write (settings.outputPath name ++ ".tmp") text.toUTF8 = .ok between)
    (renamed : between.rename (settings.outputPath name ++ ".tmp") (settings.outputPath name) =
      .ok after) :
    Attempt.on (generator.process name) tree = (.ok (settings.outputPath name), after) := by
  subst known
  exact on_process_ok.2 ⟨rfl, text, on_render_ok.2 ⟨rfl, source, held, spliced⟩,
    on_replaceFile_ok.2 ⟨between, written, renamed⟩⟩

theorem run_clash (generator : Generator) (settings : generator.settings = clash)
    {first second text text' : String}
    (spliced : Template.splice first generator.substitutions = .ok text)
    (spliced' : Template.splice second generator.substitutions = .ok text') :
    Attempt.on generator.run
        (clashTree [luaFile "a.pre.lua" first, luaFile "a.pre.pre.lua" second]) =
      (.ok ["lua/a.lua", "lua/a.pre.lua"], clashTree
        [luaFile "a.lua" text, luaFile "a.pre.lua" text', luaFile "a.pre.pre.lua" second]) := by
  have one : Attempt.on (generator.process "a")
      (clashTree [luaFile "a.pre.lua" first, luaFile "a.pre.pre.lua" second]) =
      (.ok "lua/a.lua", clashTree
        [luaFile "a.lua" text, luaFile "a.pre.lua" first, luaFile "a.pre.pre.lua" second]) :=
    process_of_steps settings (by rfl) spliced (by rfl) (by rfl)
  have other : Attempt.on (generator.process "a.pre") (clashTree
        [luaFile "a.lua" text, luaFile "a.pre.lua" first, luaFile "a.pre.pre.lua" second]) =
      (.ok "lua/a.pre.lua", clashTree
        [luaFile "a.lua" text, luaFile "a.pre.lua" text', luaFile "a.pre.pre.lua" second]) :=
    process_of_steps settings (by rfl) spliced' (by rfl) (by rfl)
  unfold run
  rw [settings]
  simp only [clash, processAll, Attempt.on_bind_of_ok one, Attempt.on_bind_of_ok other,
    Attempt.on_pure, Attempt.on_bind]

theorem harmless_clash {generator : Generator} (settings : generator.settings = clash)
    {text : String} (spliced : Template.splice text generator.substitutions = .ok text) :
    generator.Harmless
      (clashTree [luaFile "a.pre.lua" text, luaFile "a.pre.pre.lua" text]) := by
  let tree := clashTree [luaFile "a.pre.lua" text, luaFile "a.pre.pre.lua" text]
  have definitionAt : tree.locate clash.protodef = .ok ["work", "proto", "reql_protodef.json"] := by rfl
  have places : ∀ name ∈ clash.templates,
      tree.locate (clash.outputPath name) = .ok (outputPlace ["work", "lua"] name) ∧
      tree.locate (clash.outputPath name ++ ".tmp") = .ok (hiddenPlace ["work", "lua"] name) := by
    intro name member
    rcases mem_clash.1 member with rfl | rfl
    · exact ⟨by rfl, by rfl⟩
    · exact ⟨by rfl, by rfl⟩
  constructor
  case hidden =>
    intro name member here
    rw [settings] at member here
    have same := definitionAt.symm.trans (here.trans (places name member).2)
    exact absurd (List.cons.inj (List.cons.inj (Except.ok.inj same)).2).1 (by decide)
  case definition =>
    intro name member here
    rw [settings] at member here
    have same := definitionAt.symm.trans (here.trans (places name member).1)
    exact absurd (List.cons.inj (List.cons.inj (Except.ok.inj same)).2).1 (by decide)
  case template =>
    intro name member longer
    rw [settings] at member longer
    rcases mem_clash.1 member with rfl | rfl
    · have held : tree.read (clash.templatePath "a.pre") = .ok text.toUTF8 := by rfl
      have held' : tree.read (clash.templatePath "a") = .ok text.toUTF8 := by rfl
      rw [← settings] at held held'
      exact ⟨text, on_render_ok.2 ⟨rfl, text, held, spliced⟩, held'⟩
    · exact absurd longer (by decide)

/-- The template of the first name is lost. -/
theorem run_overwrites_template :
    let tree := clashTree [luaFile "a.pre.lua" "-- written by hand\n",
      luaFile "a.pre.pre.lua" "-- another\n"]
    clash.Accepted ∧ ∃ generator after,
      Attempt.on (prepare clash) tree = (.ok generator, tree) ∧
      Attempt.on generator.run tree = (.ok ["lua/a.lua", "lua/a.pre.lua"], after) ∧
      tree.read (clash.templatePath "a") = .ok "-- written by hand\n".toUTF8 ∧
      after.read (clash.templatePath "a") = .ok "-- another\n".toUTF8 ∧
      ¬ ∀ path ∈ clash.inputs, after.read path = tree.read path := by
  intro tree
  obtain ⟨blocks, prepared⟩ := prepare_clash (show tree.read clash.protodef = _ by rfl)
  have ran := run_clash ⟨clash, substitutionsOf clashDefinition blocks⟩ rfl
    (show Template.splice "-- written by hand\n" _ = .ok "-- written by hand\n" by rfl)
    (show Template.splice "-- another\n" _ = .ok "-- another\n" by rfl)
  have before : tree.read (clash.templatePath "a") = .ok "-- written by hand\n".toUTF8 := by rfl
  refine ⟨clash_accepted, _, _, prepared, ran, before, by rfl, ?_⟩
  intro kept
  have lost : "-- another\n".toUTF8 = "-- written by hand\n".toUTF8 := by
    apply Except.ok.inj
    calc
      Except.ok "-- another\n".toUTF8 = FileTree.read _ (clash.templatePath "a") := by rfl
      _ = tree.read (clash.templatePath "a") := kept (clash.templatePath "a") (by decide)
      _ = .ok "-- written by hand\n".toUTF8 := before
  exact absurd (toUTF8_injective lost) (by decide)

/-- A clash does no harm if the template that is replaced is what replaces it. -/
theorem run_keeps_inputs_iff_clash :
    let tree := clashTree [luaFile "a.pre.lua" "-- the same\n",
      luaFile "a.pre.pre.lua" "-- the same\n"]
    ∃ generator after,
      Attempt.on (prepare clash) tree = (.ok generator, tree) ∧
      Attempt.on generator.run tree = (.ok ["lua/a.lua", "lua/a.pre.lua"], after) ∧
      generator.Harmless tree ∧ ∀ path ∈ clash.inputs, after.read path = tree.read path := by
  intro tree
  obtain ⟨blocks, prepared⟩ := prepare_clash (show tree.read clash.protodef = _ by rfl)
  let generator : Generator := ⟨clash, substitutionsOf clashDefinition blocks⟩
  have spliced : Template.splice "-- the same\n" generator.substitutions = .ok "-- the same\n" := by
    rfl
  have ran := run_clash generator rfl spliced spliced
  have harmless : generator.Harmless tree := harmless_clash rfl spliced
  exact ⟨generator, _, prepared, ran, harmless,
    (run_keeps_inputs_iff clash_accepted prepared ran).2 harmless⟩

end Generator

end ReqlLua
