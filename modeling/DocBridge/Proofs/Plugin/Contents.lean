import DocBridge.Proofs.Engine.Chains
import DocBridge.Proofs.Except
import DocBridge.Proofs.Plugin.Order

/-!
# What engines of plugins do with content

A converter that a plugin registers takes texts or takes trees, and refuses the other. The same is
then true of a conversion, since its first converter gets what is converted. A language that a
plugin registers opens files as their text, if it can open any. Only the language of the tree does
not: it opens files as the trees that are written in them.

The engine of a command has nothing in it but what plugins have registered.
-/

namespace DocBridge

open Plugin Registration

/-- Opening a file gives its text. -/
def OpenFile.ReadsText (read : OpenFile) : Prop :=
  ∀ files path, (read files path).toOption = (files.read path).toOption.map .text

/-- Trees are refused, or texts are. -/
def Converter.TakesOneKind (converter : Converter) : Prop :=
  (∀ root, converter.run (.tree root) = .error (.unexpectedContent .text .tree)) ∨
    ∀ s, converter.run (.text s) = .error (.unexpectedContent .tree .text)

theorem Converter.OfPlugin.takesOneKind {converter : Converter} (h : converter.OfPlugin) :
    converter.TakesOneKind := by
  cases h with
  | reader label read => exact .inl fun _ => rfl
  | writer label write => exact .inr fun _ => rfl
  | passing => exact .inl fun _ => rfl

/-- A language of a plugin that opens files opens them as text, or it is that of the tree. -/
theorem Language.OfPlugin.readsText_or {language : Language} {read : OpenFile}
    (h : language.OfPlugin) (hopens : language.open? = some read) :
    read.ReadsText ∨
      language.name = treeLanguage ∧ read = openTree ∧ language.save? = some saveTree := by
  cases h with
  | tree => exact .inr ⟨rfl, (Option.some.inj hopens).symm, rfl⟩
  | closed name extension? => simp at hopens
  | text language =>
      obtain rfl := Option.some.inj hopens
      refine .inl fun files path => ?_
      simp only [readText]
      cases files.read path <;> rfl

/-- What opens as a tree is the tree that the text of the file stands for. -/
theorem Plugin.exists_of_openTree {files : Files.Store} {path : Files.Path} {content : Content}
    (h : openTree files path = .ok content) :
    ∃ text root, files.read path = .ok text ∧ content = .tree root := by
  rw [openTree, Language.readText] at h
  cases hread : files.read path with
  | error fault => simp [hread, mapError_error, bind, Except.bind] at h
  | ok text =>
      simp only [hread, mapError_ok, bind, Except.bind] at h
      split at h
      · rename_i v hv
        cases hroot : Node.ofValue v with
        | error e => simp [hroot] at h
        | ok root =>
            rw [hroot] at h
            exact ⟨text, root, rfl, (Except.ok.inj h).symm⟩
      · simp at h

namespace Engine

variable {engine : Engine}

/-- There is nothing in the engine but what plugins register. -/
structure OfPlugins (engine : Engine) : Prop where
  language : ∀ language ∈ engine.languages, language.OfPlugin
  converter : ∀ pair converter, engine.converter? pair = some converter → converter.OfPlugin

theorem ofPlugins_empty : OfPlugins .empty where
  language := by simp [empty]
  converter := by simp

theorem keeps_addLanguage_ofPlugins {language : Language} (h : language.OfPlugin) :
    Keeps OfPlugins (addLanguage language) := by
  refine keeps_addLanguage fun engine hengine _ => ⟨fun other hother => ?_, hengine.converter⟩
  rcases List.mem_append.mp hother with hother | hother
  · exact hengine.language other hother
  · obtain rfl := List.mem_singleton.mp hother
    exact h

theorem keeps_addConverter_ofPlugins {source target : String} {converter : Converter}
    (h : converter.OfPlugin) : Keeps OfPlugins (addConverter source target converter) := by
  refine keeps_addConverter fun engine hengine _ _ =>
    ⟨hengine.language, fun pair other hother => ?_⟩
  rw [converter?, Entries.find?_put] at hother
  split at hother
  · obtain rfl := Option.some.inj hother
    exact h
  · exact hengine.converter pair other hother

/-- Of a text and a tree one at least is refused, whatever the languages are. -/
theorem OfPlugins.convertTo_eq_error (h : engine.OfPlugins) (source target : String) (s : String)
    (root : Node) : ∃ e, (engine.convertTo source target (.text s)).outcome = .error e ∨
      (engine.convertTo source target (.tree root)).outcome = .error e := by
  cases hroute : engine.route source target with
  | error e => exact ⟨e, .inl (by rw [convertTo, hroute]; rfl)⟩
  | ok chain =>
      rw [convertTo_of_route hroute, convertTo_of_route hroute]
      cases hcheck : engine.check chain with
      | error e => exact ⟨e, .inl (by rw [convert_of_check_error hcheck]; rfl)⟩
      | ok converters =>
          obtain ⟨converter, rest, rfl⟩ := List.exists_cons_of_ne_nil (ne_nil_of_check hcheck)
          obtain ⟨hop, hhop⟩ := exists_converter?_of_check hcheck List.mem_cons_self
          rw [convert_of_check hcheck, convert_of_check hcheck]
          obtain htree | htext := (h.converter hop converter hhop).takesOneKind
          · exact ⟨_, .inr (by rw [Conversion.run_cons_of_error (htree root)])⟩
          · exact ⟨_, .inl (by rw [Conversion.run_cons_of_error (htext s)])⟩

end Engine

/-! ### The engine of a command -/

/-- An engine has what all plugins keep that were attached to it. -/
theorem Registry.of_keeps {P : Engine → Prop} {registry : Registry} {engine : Engine}
    (h : ∀ plugin ∈ registry.plugins, Keeps P plugin.attach) (hempty : P .empty)
    (hengine : Engine.ofRegistry registry = .ok engine) : P engine := by
  have hafter : P (registry.attachAll.after .empty) := keeps_forM h _ hempty
  rw [after, EStateM.run] at hafter
  rw [Engine.ofRegistry] at hengine
  split at hengine
  · rename_i hrun
    rw [hrun] at hafter
    exact Except.ok.inj hengine ▸ hafter
  · simp at hengine

theorem Settings.ofPlugins_ofRegistry {settings : Settings} {files : Files.Store}
    {registry : Registry} {engine : Engine} (h : settings.registry files = .ok registry)
    (hengine : Engine.ofRegistry registry = .ok engine) : engine.OfPlugins := by
  have hlanguage : ∀ language, language.OfPlugin →
      Keeps Engine.OfPlugins (Engine.addLanguage language) :=
    fun _ => Engine.keeps_addLanguage_ofPlugins
  have hconverter : ∀ source target converter, converter.OfPlugin →
      Keeps Engine.OfPlugins (Engine.addConverter source target converter) :=
    fun _ _ _ => Engine.keeps_addConverter_ofPlugins
  refine Registry.of_keeps (fun plugin hmem => ?_) Engine.ofPlugins_empty hengine
  obtain rfl | ⟨bullet, rfl⟩ | ⟨version, rfl⟩ | ⟨manifest, rfl⟩ :=
    cases_of_mem_registry h hmem
  · exact keeps_ensureTreeLanguage hlanguage
  · exact keeps_attach_markdown hlanguage hconverter bullet
  · exact keeps_attach_pandoc hlanguage hconverter version
  · exact keeps_attach_manifest hlanguage hconverter manifest

end DocBridge
