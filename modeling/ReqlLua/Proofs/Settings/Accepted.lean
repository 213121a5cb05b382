import ReqlLua.Proofs.Job
import ReqlLua.Settings.Load

/-! Settings that are accepted, from a text or from the files of a working directory. However they were
found, they are valid. -/

namespace ReqlLua.Settings

/-- What accepted settings have been checked for. -/
structure Valid (settings : Settings) : Prop where
  someTemplate : settings.templates ≠ []
  names : ∀ name ∈ settings.templates, isTemplateName name = true
  wide : leastWidth ≤ settings.wrapWidth

theorem validate_ok {settings checked : Settings} (valid : settings.validate = .ok checked) :
    checked = settings ∧ settings.Valid := by
  unfold validate at valid
  split at valid
  · cases valid
  · next someTemplate =>
    split at valid
    · cases valid
    · next names =>
      split at valid
      · cases valid
      · next wide =>
        cases valid
        refine ⟨rfl, ?_, ?_, Nat.le_of_not_lt wide⟩
        · intro empty
          rw [empty] at someTemplate
          exact someTemplate rfl
        · intro name member
          simpa using List.find?_eq_none.1 names name member

theorem validate_of_valid {settings : Settings} (valid : settings.Valid) :
    settings.validate = .ok settings := by
  have someTemplate : settings.templates.isEmpty = false := by
    rw [List.isEmpty_eq_false_iff]
    exact valid.someTemplate
  have names : settings.templates.find? (fun name => !isTemplateName name) = none := by
    apply List.find?_eq_none.2
    intro name member
    rw [valid.names name member]
    decide
  unfold validate
  rw [someTemplate, names]
  exact if_neg (Nat.not_lt.2 valid.wide)

/-- The settings that four values amount to, each under its key. -/
def ofNodes (node : String → Node) : Except SettingsFault Settings := do
  let protodef ← (node "protodef").toText "protodef"
  let srcDir ← (node "src_dir").toText "src_dir"
  let templates ← (node "templates").toList "templates"
  let wrapWidth ← (node "wrap_width").toWidth "wrap_width"
  validate ⟨protodef, srcDir, templates, wrapWidth⟩

theorem toSettings_eq (layers : Layers) : layers.toSettings = ofNodes layers.node := rfl

/-- The values are converted one by one; only what they amount to is validated. -/
theorem ofNodes_ok_iff {node : String → Node} {settings : Settings} :
    ofNodes node = .ok settings ↔
      (node "protodef").toText "protodef" = .ok settings.protodef ∧
      (node "src_dir").toText "src_dir" = .ok settings.srcDir ∧
      (node "templates").toList "templates" = .ok settings.templates ∧
      (node "wrap_width").toWidth "wrap_width" = .ok settings.wrapWidth ∧ settings.Valid := by
  constructor
  · intro converted
    unfold ofNodes at converted
    simp only [bind, Except.bind] at converted
    split at converted
    · cases converted
    · next protodef =>
      split at converted
      · cases converted
      · next srcDir =>
        split at converted
        · cases converted
        · next templates =>
          split at converted
          · cases converted
          · next wrapWidth =>
            obtain ⟨rfl, valid⟩ := validate_ok converted
            exact ⟨protodef, srcDir, templates, wrapWidth, valid⟩
  · rintro ⟨protodef, srcDir, templates, wrapWidth, valid⟩
    simp only [ofNodes, bind, Except.bind, protodef, srcDir, templates, wrapWidth]
    exact validate_of_valid valid

theorem valid_of_toSettings {layers : Layers} {settings : Settings}
    (converted : layers.toSettings = .ok settings) : settings.Valid :=
  (ofNodes_ok_iff.1 converted).2.2.2.2

/-- The settings of a text, or those that are found in a working directory. -/
inductive Accepted (settings : Settings) : Prop where
  | ofToml {text : String} (read : Settings.ofToml text = .ok settings)
  | load {home : Location} {directory : String} {asked : Option String} {tree left : FileTree home}
      (loaded : Attempt.on (Settings.load directory asked) tree = (.ok settings, left))

theorem Accepted.valid {settings : Settings} (accepted : settings.Accepted) : settings.Valid := by
  cases accepted with
  | @ofToml text read =>
    unfold Settings.ofToml at read
    cases layered : layText Layers.base none text with
    | error fault =>
      rw [layered] at read
      cases read
    | ok layers =>
      rw [layered] at read
      exact valid_of_toSettings read
  | load loaded =>
    obtain ⟨below, first, -, loaded⟩ := Attempt.of_on_bind_ok loaded
    obtain ⟨layers, second, -, converted⟩ := Attempt.of_on_bind_ok loaded
    rw [Attempt.on_ofExcept] at converted
    cases settled : layers.toSettings with
    | error fault =>
      rw [settled] at converted
      cases converted
    | ok found =>
      rw [settled] at converted
      cases converted
      exact valid_of_toSettings settled

end ReqlLua.Settings
