import DocBridge.Plugin.Builtin
import DocBridge.Plugin.Manifest
import DocBridge.Proofs.Engine.Registration

/-!
# Engines that can be reached

An engine is built from the empty one by single registrations and by plugins that are attached. All
of these may fail on the way, and what was registered until then stays. Since plugins only make
registrations, a property of engines that the two single registrations keep is kept by everything,
and every engine that can be reached has it if the empty one does. Plugins register languages and
converters of a few kinds only, so for what plugins keep it is enough to look at those.

Two properties are shown here. No pair is without its languages: both of its ends are registered.
And the pairs are in step with the converters, though the one are searched for routes and the other
are what a conversion runs: a pair has a converter, and whatever has a converter is a pair.
-/

namespace DocBridge

/-- The engine that a registration leaves, also when it stops at an error. -/
def Registration.after {α : Type} (program : Registration α) (engine : Engine) : Engine :=
  match program.run engine with
  | .ok _ engine => engine
  | .error _ engine => engine

/-- What can be done to an engine: a single registration, or a plugin attached. -/
inductive Operation where
  | addLanguage (language : Language)
  | addConverter (source target : String) (converter : Converter)
  | attachTree
  | attachMarkdown (bullet : Char)
  | attachPandoc (version : Pandoc.Version)
  | attachManifest (manifest : Manifest)

def Operation.registration : Operation → Registration Unit
  | addLanguage language => Engine.addLanguage language
  | addConverter source target converter => Engine.addConverter source target converter
  | attachTree => Plugin.tree.attach
  | attachMarkdown bullet => (Plugin.markdown bullet).attach
  | attachPandoc version => (Plugin.pandoc version).attach
  | attachManifest manifest => manifest.attach

namespace Engine

/-- The engine that operations make of the empty one, those that fail included. -/
def built (operations : List Operation) : Engine :=
  operations.foldl (fun engine operation => operation.registration.after engine) .empty

def Reachable (engine : Engine) : Prop := ∃ operations, engine = built operations

end Engine

/-! ### What registrations keep -/

/-- An engine with a property is left with it, also by a registration that stops at an error. -/
def Registration.Keeps {α : Type} (P : Engine → Prop) (program : Registration α) : Prop :=
  ∀ engine, P engine → P (program.after engine)

namespace Registration

variable {α β : Type} {P : Engine → Prop}

theorem keeps_pure (a : α) : Keeps P (pure a) := fun _ h => h

theorem keeps_get : Keeps P (get : Registration Engine) := fun _ h => h

theorem keeps_throw (e : Error) : Keeps P (throw e : Registration α) := fun _ h => h

theorem Keeps.bind {first : Registration α} {next : α → Registration β} (hfirst : Keeps P first)
    (hnext : ∀ a, Keeps P (next a)) : Keeps P (first >>= next) := by
  intro engine h
  have hmiddle := hfirst engine h
  unfold after at hmiddle ⊢
  rw [EStateM.run_bind]
  cases hrun : first.run engine with
  | ok a middle =>
      rw [hrun] at hmiddle
      exact hnext a middle hmiddle
  | error e middle =>
      rw [hrun] at hmiddle
      exact hmiddle

theorem keeps_forM {items : List α} {body : α → Registration Unit}
    (h : ∀ a ∈ items, Keeps P (body a)) : Keeps P (items.forM body) := by
  induction items with
  | nil => exact keeps_pure ()
  | cons a rest ih =>
      obtain ⟨hfirst, hrest⟩ := List.forall_mem_cons.mp h
      exact hfirst.bind fun _ => ih hrest

/-- A language that is refused leaves the engine as it was. -/
theorem keeps_addLanguage {language : Language}
    (h : ∀ engine, P engine → language.name ∉ engine.languageNames →
      P { engine with languages := engine.languages ++ [language] }) :
    Keeps P (Engine.addLanguage language) := by
  intro engine hengine
  by_cases hname : language.name ∈ engine.languageNames
  · rw [after, Engine.run_addLanguage_of_mem hname]
    exact hengine
  · rw [after, Engine.run_addLanguage hname]
    exact h engine hengine hname

/-- A converter that is refused leaves the engine as it was. -/
theorem keeps_addConverter {source target : String} {converter : Converter}
    (h : ∀ engine, P engine → source ∈ engine.languageNames → target ∈ engine.languageNames →
      P { engine with
        pairs := Engine.addPair (source, target) engine.pairs
        converters := engine.converters.put (source, target) converter }) :
    Keeps P (Engine.addConverter source target converter) := by
  intro engine hengine
  by_cases hends : source ∈ engine.languageNames ∧ target ∈ engine.languageNames
  · rw [after, Engine.run_addConverter hends.1 hends.2]
    exact h engine hengine hends.1 hends.2
  · obtain ⟨e, hrun⟩ := Engine.run_addConverter_of_not_mem hends
    rw [after, hrun]
    exact hengine

end Registration

open Registration

/-- A series of operations keeps what each of them keeps. -/
theorem Engine.built_of_keeps {P : Engine → Prop} {operations : List Operation}
    (h : ∀ operation ∈ operations, Keeps P operation.registration) (hempty : P .empty) :
    P (built operations) := by
  unfold built
  generalize Engine.empty = start at hempty
  induction operations generalizing start with
  | nil => exact hempty
  | cons operation rest ih =>
      obtain ⟨hoperation, hrest⟩ := List.forall_mem_cons.mp h
      exact ih hrest _ (hoperation start hempty)

/-! ### What plugins register -/

/-- A language as plugins register it: that of the tree, one of text, or one without files. -/
inductive Language.OfPlugin : Language → Prop
  | tree : OfPlugin {
      name := Plugin.treeLanguage, extension? := some ".ast", open? := some Plugin.openTree,
      save? := some Plugin.saveTree }
  | text (language : Language) : OfPlugin language.withTextFiles
  | closed (name : String) (extension? : Option String) :
      OfPlugin { name := name, extension? := extension? }

/-- A converter as plugins register it: a reader, a writer, or one that passes text through. -/
inductive Converter.OfPlugin : Converter → Prop
  | reader (label : String) (read : String → Except Error Node) :
      OfPlugin (Plugin.textToTree label read)
  | writer (label : String) (write : Node → Except Error String) :
      OfPlugin (Plugin.treeToText label write)
  | passing : OfPlugin Manifest.passing

theorem Manifest.ofPlugin_language (declared : DeclaredLanguage) :
    (DeclaredLanguage.language declared).OfPlugin := by
  rw [DeclaredLanguage.language]
  split
  · exact .text _
  · exact .closed _ _

section Plugins

variable {P : Engine → Prop}
  (hlanguage : ∀ language, language.OfPlugin → Keeps P (Engine.addLanguage language))
  (hconverter : ∀ source target converter, converter.OfPlugin →
    Keeps P (Engine.addConverter source target converter))

include hlanguage in
theorem keeps_ensureTreeLanguage : Keeps P Plugin.ensureTreeLanguage := by
  refine keeps_get.bind fun engine => ?_
  split
  · exact hlanguage _ .tree
  · exact keeps_pure ()

include hlanguage hconverter in
theorem keeps_attach_markdown (bullet : Char) : Keeps P (Plugin.markdown bullet).attach :=
  (keeps_ensureTreeLanguage hlanguage).bind fun _ => (hlanguage _ (.text _)).bind fun _ =>
    (hconverter _ _ _ (.reader _ _)).bind fun _ => hconverter _ _ _ (.writer _ _)

include hlanguage hconverter in
theorem keeps_attach_pandoc (version : Pandoc.Version) : Keeps P (Plugin.pandoc version).attach :=
  (keeps_ensureTreeLanguage hlanguage).bind fun _ => (hlanguage _ (.text _)).bind fun _ =>
    (hconverter _ _ _ (.writer _ _)).bind fun _ => hconverter _ _ _ (.reader _ _)

include hlanguage hconverter in
theorem keeps_attach_manifest (manifest : Manifest) : Keeps P manifest.attach := by
  refine keeps_get.bind fun engine => ?_
  split
  · exact keeps_throw _
  · exact (keeps_forM fun declared _ => hlanguage _ (Manifest.ofPlugin_language declared)).bind
      fun _ => keeps_forM fun pair _ => hconverter _ _ _ .passing

end Plugins

section Operations

variable {P : Engine → Prop} (hlanguage : ∀ language, Keeps P (Engine.addLanguage language))
  (hconverter : ∀ source target converter, Keeps P (Engine.addConverter source target converter))

include hlanguage hconverter in
/-- What the single registrations keep is kept by every operation. -/
theorem Operation.keeps (operation : Operation) : Keeps P operation.registration := by
  have hlanguage' : ∀ language : Language, language.OfPlugin →
      Keeps P (Engine.addLanguage language) := fun language _ => hlanguage language
  have hconverter' : ∀ source target (converter : Converter), converter.OfPlugin →
      Keeps P (Engine.addConverter source target converter) :=
    fun source target converter _ => hconverter source target converter
  cases operation with
  | addLanguage language => exact hlanguage language
  | addConverter source target converter => exact hconverter source target converter
  | attachTree => exact keeps_ensureTreeLanguage hlanguage'
  | attachMarkdown bullet => exact keeps_attach_markdown hlanguage' hconverter' bullet
  | attachPandoc version => exact keeps_attach_pandoc hlanguage' hconverter' version
  | attachManifest manifest => exact keeps_attach_manifest hlanguage' hconverter' manifest

include hlanguage hconverter in
theorem Engine.Reachable.of_keeps {engine : Engine} (h : engine.Reachable) (hempty : P .empty) :
    P engine := by
  obtain ⟨operations, rfl⟩ := h
  exact built_of_keeps (fun operation _ => operation.keeps hlanguage hconverter) hempty

end Operations

/-! ### Stores in step -/

namespace Engine

/-- Both ends of every pair are registered. -/
def PairsKnown (engine : Engine) : Prop :=
  ∀ pair ∈ engine.pairs, pair.1 ∈ engine.languageNames ∧ pair.2 ∈ engine.languageNames

theorem pairsKnown_addLanguage (language : Language) : Keeps PairsKnown (addLanguage language) := by
  refine keeps_addLanguage fun engine h _ pair hpair => ?_
  have hends := h pair hpair
  simp only [languageNames, List.map_append]
  exact ⟨List.mem_append_left _ hends.1, List.mem_append_left _ hends.2⟩

theorem pairsKnown_addConverter (source target : String) (converter : Converter) :
    Keeps PairsKnown (addConverter source target converter) := by
  refine keeps_addConverter fun engine h hsource htarget pair hpair => ?_
  obtain hpair | rfl := mem_addPair.mp hpair
  · exact h pair hpair
  · exact ⟨hsource, htarget⟩

theorem Reachable.pairsKnown {engine : Engine} (h : engine.Reachable) : engine.PairsKnown :=
  h.of_keeps pairsKnown_addLanguage pairsKnown_addConverter nofun

/-- The pairs and the converters are in step: a pair has a converter, and nothing else has. -/
def InStep (engine : Engine) : Prop :=
  ∀ pair, (∃ converter, engine.converter? pair = some converter) ↔ pair ∈ engine.pairs

theorem InStep.converter?_eq_none {engine : Engine} (h : engine.InStep) {pair : String × String}
    (hpair : pair ∉ engine.pairs) : engine.converter? pair = none :=
  Option.eq_none_iff_forall_ne_some.mpr fun converter hconverter =>
    hpair ((h pair).mp ⟨converter, hconverter⟩)

theorem inStep_addLanguage (language : Language) : Keeps InStep (addLanguage language) :=
  keeps_addLanguage fun _ h _ => h

theorem inStep_addConverter (source target : String) (converter : Converter) :
    Keeps InStep (addConverter source target converter) := by
  refine keeps_addConverter fun engine h _ _ pair => ?_
  rw [converter?, Entries.find?_put, mem_addPair, ← h pair]
  by_cases hpair : pair = (source, target)
  · simp [hpair]
  · simp [hpair, converter?]

theorem Reachable.inStep {engine : Engine} (h : engine.Reachable) : engine.InStep :=
  h.of_keeps inStep_addLanguage inStep_addConverter fun pair => by simp

end Engine

end DocBridge
