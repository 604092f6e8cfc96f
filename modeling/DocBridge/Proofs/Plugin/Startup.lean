import DocBridge.Proofs.Files.Names
import DocBridge.Proofs.Plugin.Attachment
import DocBridge.Proofs.Plugin.Listing
import DocBridge.Proofs.Plugin.Order

/-!
# Starting with discovered plugins

With the default fallback a new engine gets the tree and Markdown first, then the manifests in the
order in which they were found, and Pandoc last. So what a manifest may take for granted is what is
there at its turn: the tree, Markdown, and the languages of manifests before it. Pandoc is not there
yet, and a manifest that passes text to it or from it is refused.
-/

namespace DocBridge

open Plugin

namespace Manifest

/-- The name is an end of a pair of the manifest. -/
def Mentions (manifest : Manifest) (name : String) : Prop :=
  ∃ pair ∈ manifest.passThrough, name = pair.1 ∨ name = pair.2

variable {manifest : Manifest} {manifests rest : List Manifest} {engine : Engine}
  {known : List String} {outside : String}

/-- Manifests that can be attached one after another where some languages are known, but for pairs
that mention a name from outside: they declare different new languages, and what their pairs mention
is known, declared by the same manifest, or the name from outside. -/
structure Compatible (outside : String) (known : List String) (manifests : List Manifest) :
    Prop where
  absent : outside ∉ known ++ manifests.flatMap (·.declaredNames)
  new : ∀ name ∈ manifests.flatMap (·.declaredNames), name ∉ known
  distinct : (manifests.flatMap (·.declaredNames)).Nodup
  ends : ∀ manifest ∈ manifests, ∀ name, manifest.Mentions name →
    name = outside ∨ name ∈ known ∨ name ∈ manifest.declaredNames

namespace Compatible

theorem new_here (h : Compatible outside known (manifest :: rest)) :
    ∀ name ∈ manifest.declaredNames, name ∉ known :=
  fun name hname => h.new name (List.mem_flatMap.mpr ⟨manifest, List.mem_cons_self, hname⟩)

theorem distinct_here (h : Compatible outside known (manifest :: rest)) :
    manifest.declaredNames.Nodup :=
  (List.nodup_append.mp (List.flatMap_cons ▸ h.distinct)).1

/-- The manifests that are left are compatible with what the first one declares. -/
theorem tail (h : Compatible outside known (manifest :: rest)) :
    Compatible outside (known ++ manifest.declaredNames) rest where
  absent := by
    have habsent := h.absent
    rwa [List.flatMap_cons, ← List.append_assoc] at habsent
  new := by
    intro name hname
    have hdistinct := h.distinct
    rw [List.flatMap_cons, List.nodup_append] at hdistinct
    refine List.not_mem_append (h.new name ?_) fun hdeclared => ?_
    · rw [List.flatMap_cons]
      exact List.mem_append_right _ hname
    · exact hdistinct.2.2 name hdeclared name hname rfl
  distinct := (List.nodup_append.mp (List.flatMap_cons ▸ h.distinct)).2.1
  ends := by
    intro later hlater name hname
    obtain hout | hknown | hown := h.ends later (List.mem_cons_of_mem _ hlater) name hname
    · exact .inl hout
    · exact .inr (.inl (List.mem_append_left _ hknown))
    · exact .inr (.inr hown)

theorem not_refused (h : Compatible outside engine.languageNames (manifest :: rest))
    (hmentioned : ¬ manifest.Mentions outside) : ¬ manifest.Refused engine := by
  refine not_refused_iff.mpr ⟨?_, h.distinct_here, ?_⟩
  · exact fun language hlanguage => h.new_here _ (List.mem_map_of_mem hlanguage)
  · intro pair hpair name hname
    obtain rfl | hknown := h.ends manifest List.mem_cons_self name ⟨pair, hpair, hname⟩
    · exact absurd ⟨pair, hpair, hname⟩ hmentioned
    · exact hknown

/-- The name from outside is the only one that can be unknown, so it is the first that is. -/
theorem firstUnknown?_eq_some (h : Compatible outside engine.languageNames (manifest :: rest))
    (hmentioned : manifest.Mentions outside) :
    firstUnknown? engine manifest = some outside := by
  cases hfirst : firstUnknown? engine manifest with
  | none =>
      obtain ⟨pair, hpair, hend⟩ := hmentioned
      have habsent := h.absent
      simp only [List.flatMap_cons, List.mem_append, not_or] at habsent
      have hknown := firstUnknown?_eq_none_iff.mp hfirst pair hpair outside hend
      exact absurd hknown (not_or.mpr ⟨habsent.1, habsent.2.1⟩)
  | some name =>
      have hmem := List.mem_of_find?_eq_some hfirst
      have hunknown := List.find?_some hfirst
      simp only [List.mem_flatMap, List.mem_cons, List.not_mem_nil, or_false] at hmem
      obtain hname | hname | hname := h.ends manifest List.mem_cons_self name hmem
      · rw [hname]
      · rw [← Engine.hasLanguage_iff] at hname
        simp [hname] at hunknown
      · obtain ⟨language, hlanguage, hname⟩ := List.mem_map.mp hname
        have hdeclared : manifest.languages.any (·.name = name) = true :=
          List.any_eq_true.mpr ⟨language, hlanguage, by simpa using hname⟩
        simp [hdeclared] at hunknown

theorem run_attach_of_mentions (h : Compatible outside engine.languageNames (manifest :: rest))
    (hmentioned : manifest.Mentions outside) :
    manifest.attach.run engine = .error (.unknownLanguage outside) engine := by
  have htaken : firstTaken? engine [] manifest.languages = none := by
    refine firstTaken?_eq_none_iff.mpr ⟨fun language hlanguage => ⟨List.not_mem_nil, ?_⟩,
      h.distinct_here⟩
    exact h.new_here _ (List.mem_map_of_mem hlanguage)
  have hcheck : manifest.check engine = .error (.unknownLanguage outside) := by
    rw [check, htaken, h.firstUnknown?_eq_some hmentioned]
  rw [attach, EStateM.run_bind, EStateM.run_get]
  simp only [hcheck]
  rfl

end Compatible

theorem languageNames_attached :
    (manifest.attached engine).languageNames = engine.languageNames ++ manifest.declaredNames := by
  simp [attached, Engine.languageNames, declaredNames, Function.comp_def]

/-- Compatible manifests are attached up to the first that mentions the name from outside. -/
theorem run_forM_attach (h : Compatible outside engine.languageNames manifests) :
    ((∀ manifest ∈ manifests, ¬ manifest.Mentions outside) ∧ ∃ after,
      (manifests.forM (·.attach)).run engine = .ok () after ∧
        after.languageNames = engine.languageNames ++ manifests.flatMap (·.declaredNames)) ∨
    ((∃ manifest ∈ manifests, manifest.Mentions outside) ∧ ∃ after,
      (manifests.forM (·.attach)).run engine = .error (.unknownLanguage outside) after) := by
  induction manifests generalizing engine with
  | nil => exact .inl ⟨by simp, engine, rfl, by simp⟩
  | cons manifest rest ih =>
      have hrun : ((manifest :: rest).forM (·.attach)).run engine =
          (manifest.attach >>= fun _ => rest.forM (·.attach)).run engine := rfl
      rw [hrun, EStateM.run_bind]
      by_cases hmentioned : manifest.Mentions outside
      · refine .inr ⟨⟨manifest, List.mem_cons_self, hmentioned⟩, engine, ?_⟩
        rw [h.run_attach_of_mentions hmentioned]
      · have hnames := @languageNames_attached manifest engine
        rw [run_attach_of_not_refused (h.not_refused hmentioned)]
        obtain ⟨hnone, after, hlast, hall⟩ | ⟨⟨later, hmem, hlast⟩, after, herror⟩ :=
          ih (hnames ▸ h.tail)
        · refine .inl ⟨List.forall_mem_cons.mpr ⟨hmentioned, hnone⟩, after, hlast, ?_⟩
          rw [hall, hnames, List.flatMap_cons, List.append_assoc]
        · exact .inr ⟨⟨later, List.mem_cons_of_mem _ hmem, hlast⟩, after, herror⟩

end Manifest

/-! ### The built-in plugins -/

/-- Pandoc is attached to an engine that knows the tree and does not know Pandoc. -/
theorem run_attach_pandoc {engine : Engine} (version : Pandoc.Version)
    (htree : treeLanguage ∈ engine.languageNames) (hnew : pandocLanguage ∉ engine.languageNames) :
    ∃ after, (Plugin.pandoc version).attach.run engine = .ok () after := by
  have hensure : ensureTreeLanguage.run engine = .ok () engine := by
    rw [ensureTreeLanguage, EStateM.run_bind, EStateM.run_get]
    simp only [Engine.hasLanguage_iff.mpr htree, Bool.not_true, Bool.false_eq_true, if_false]
    rfl
  let language : Language :=
    Language.withTextFiles { name := pandocLanguage, extension? := some ".json" }
  let next : Engine := { engine with languages := engine.languages ++ [language] }
  have hlanguage : (Engine.addLanguage language).run engine = .ok () next :=
    Engine.run_addLanguage hnew
  have hnames : next.languageNames = engine.languageNames ++ [pandocLanguage] := by
    simp [next, Engine.languageNames, language, Language.withTextFiles]
  have htree' : treeLanguage ∈ next.languageNames := by simp [hnames, htree]
  have hpandoc : pandocLanguage ∈ next.languageNames := by simp [hnames]
  rw [Plugin.pandoc, EStateM.run_bind, hensure]
  simp only
  rw [EStateM.run_bind, hlanguage]
  simp only
  rw [EStateM.run_bind, Engine.run_addConverter htree' hpandoc]
  exact ⟨_, Engine.run_addConverter hpandoc htree'⟩

theorem Engine.ofRegistry_eq_ok {registry : Registry} {engine : Engine}
    (h : registry.attachAll.run .empty = .ok () engine) : ofRegistry registry = .ok engine := by
  rw [EStateM.run] at h
  rw [ofRegistry, h]

theorem Engine.ofRegistry_eq_error {registry : Registry} {engine : Engine} {e : Error}
    (h : registry.attachAll.run .empty = .error e engine) : ofRegistry registry = .error e := by
  rw [EStateM.run] at h
  rw [ofRegistry, h]

namespace Settings

variable {settings : Settings} {files : Files.Store} {manifests : List Manifest}

/-- With the default fallback the plugins of manifests stand between Markdown and Pandoc. -/
theorem registry_eq_ok (hfallback : settings.fallback = ({} : Settings).fallback)
    (hfound : Discovery.manifests files settings.pluginDirectories = .ok manifests) :
    settings.registry files = .ok ⟨[Plugin.tree, Plugin.markdown settings.bullet] ++
      manifests.map Manifest.plugin ++ [Plugin.pandoc settings.pandocVersion]⟩ := by
  rw [registry_eq, hfound, hfallback]
  rfl

/-- The engine that manifests with other languages than the built-in ones are attached to. -/
theorem exists_run_tree_markdown (bullet : Char) : ∃ engine : Engine,
    (Registry.attachAll ⟨[Plugin.tree, Plugin.markdown bullet]⟩).run .empty = .ok () engine ∧
      engine.languageNames = [treeLanguage, markdownLanguage] :=
  ⟨_, rfl, rfl⟩

/-- Plugins of manifests are attached between those before them and one after them. -/
theorem run_attachAll_between {first : List Plugin} {start : Engine}
    (hstart : (Registry.attachAll ⟨first⟩).run .empty = .ok () start)
    (manifests : List Manifest) (last : Plugin) :
    (Registry.attachAll ⟨first ++ manifests.map Manifest.plugin ++ [last]⟩).run .empty =
      (manifests.forM (·.attach) >>= fun _ => last.attach).run start := by
  have hlast : [last].forM (·.attach) = last.attach := bind_pure_unit
  have hmap : (manifests.map Manifest.plugin).forM (·.attach) = manifests.forM (·.attach) :=
    List.forM_map
  have happend : ∀ before after : List Plugin, (before ++ after).forM (·.attach) =
      before.forM (·.attach) >>= fun _ => after.forM (·.attach) :=
    fun _ _ => List.forM_append
  rw [Registry.attachAll] at hstart ⊢
  rw [happend, happend, hlast, hmap, bind_assoc, EStateM.run_bind, hstart]

/-- Compatible manifests are attached if none mentions Pandoc, and else the first that does is
refused. -/
theorem ofRegistry_cases (hfallback : settings.fallback = ({} : Settings).fallback)
    (hfound : Discovery.manifests files settings.pluginDirectories = .ok manifests)
    (hcompatible :
      Manifest.Compatible pandocLanguage [treeLanguage, markdownLanguage] manifests) :
    ∃ registry, settings.registry files = .ok registry ∧
      (((∀ manifest ∈ manifests, ¬ manifest.Mentions pandocLanguage) ∧
          ∃ engine, Engine.ofRegistry registry = .ok engine) ∨
        ((∃ manifest ∈ manifests, manifest.Mentions pandocLanguage) ∧
          Engine.ofRegistry registry = .error (.unknownLanguage pandocLanguage))) := by
  refine ⟨_, registry_eq_ok hfallback hfound, ?_⟩
  obtain ⟨start, hstart, hnames⟩ := exists_run_tree_markdown settings.bullet
  rw [← hnames] at hcompatible
  have hsplit := run_attachAll_between hstart manifests (Plugin.pandoc settings.pandocVersion)
  rw [EStateM.run_bind] at hsplit
  obtain ⟨hnone, after, hrun, hafter⟩ | ⟨hsome, after, hrun⟩ :=
    Manifest.run_forM_attach hcompatible
  · have htree : treeLanguage ∈ after.languageNames := by simp [hafter, hnames]
    have hpandoc : pandocLanguage ∉ after.languageNames := hafter ▸ hcompatible.absent
    obtain ⟨engine, hengine⟩ := run_attach_pandoc settings.pandocVersion htree hpandoc
    rw [hrun] at hsplit
    exact .inl ⟨hnone, engine, Engine.ofRegistry_eq_ok (hsplit.trans hengine)⟩
  · rw [hrun] at hsplit
    exact .inr ⟨hsome, Engine.ofRegistry_eq_error hsplit⟩

/-! ### A manifest in a file -/

/-- A manifest of one language, which passes text on to another one. -/
def notesText (target : String) : String :=
  "[plugin]\nname = 'Notes'\n[[languages]]\nname = 'notes'\n" ++
    "[[passthrough]]\nsource = 'notes'\ntarget = '" ++ target ++ "'"

/-- A store with this manifest below `plugins`. -/
def storedNotes (target : String) : Files.Store where
  root := [("plugins", .directory [("notes.toml", .file (notesText target).toUTF8)])]

def notes (target : String) : Manifest where
  origin := "plugins/notes.toml"
  name := "Notes"
  description := ""
  languages := [⟨"notes", none, false⟩]
  passThrough := [("notes", target)]

theorem ofFile_storedNotes (target : String) :
    Manifest.ofFile (storedNotes target) "plugins/notes.toml" =
      Manifest.ofToml "plugins/notes.toml" (notesText target) := by
  have hentry : (storedNotes target).entryAt "plugins/notes.toml" =
      .ok (.file (notesText target).toUTF8) := by
    simp only [Files.Store.entryAt, Files.Path.check_eq]
    rfl
  have hfile : (storedNotes target).isFile "plugins/notes.toml" = true := by
    rw [Files.Store.isFile, hentry]
  have hread : (storedNotes target).read "plugins/notes.toml" = .ok (notesText target) := by
    rw [Files.Store.read, hentry]
    simp only [Except.bind, bind, Files.fromUTF8?_toUTF8]
  have htext : Config.fileText? (storedNotes target) "plugins/notes.toml" =
      some (notesText target) := by
    rw [Config.fileText?, if_pos hfile, Option.bind_some, hread]
    rfl
  rw [Manifest.ofFile, htext]

theorem findManifests_storedNotes (target : String) :
    Discovery.findManifests (storedNotes target) "plugins" = .ok ["plugins/notes.toml"] := by
  have hentry : (storedNotes target).entryAt "plugins" =
      .ok (.directory [("notes.toml", .file (notesText target).toUTF8)]) := by
    simp only [Files.Store.entryAt, Files.Path.check_eq]
    rfl
  have hlisted (bytes : ByteArray) :
      Discovery.listed "plugins" "notes.toml" (.file bytes) = ["plugins/notes.toml"] := rfl
  rw [Discovery.findManifests_eq_ok hentry, Discovery.manifestsIn_visitsAt_directory,
    List.mergeSort_singleton, List.flatMap_singleton, hlisted]

section

variable {target : String}
  (h : (Manifest.ofToml "plugins/notes.toml" (notesText target)).toOption = some (notes target))

include h

theorem ofFile_storedNotes_eq_ok :
    Manifest.ofFile (storedNotes target) "plugins/notes.toml" = .ok (notes target) := by
  rw [ofFile_storedNotes]
  cases hread : Manifest.ofToml "plugins/notes.toml" (notesText target) with
  | error e => simp [hread, Except.toOption] at h
  | ok manifest => simpa [hread, Except.toOption] using h

theorem manifests_storedNotes :
    Discovery.manifests (storedNotes target) ["plugins"] = .ok [notes target] := by
  rw [Discovery.manifests, List.mapM_cons, Discovery.manifestsBelow, findManifests_storedNotes]
  simp only [Except.bind, List.mapM_cons, ofFile_storedNotes_eq_ok h]
  rfl

end

theorem mentions_notes_iff {target name : String} :
    (notes target).Mentions name ↔ name = "notes" ∨ name = target := by
  simp [Manifest.Mentions, notes]

/-! ### Attaching under the default fallback -/

/-- Manifests that declare different languages, none of them a built-in one, and pass text between
these and the built-in ones are all attached under the default fallback, unless one of them mentions
Pandoc. Then the language that is not known is Pandoc, which is attached after them. -/
theorem attaches_iff_fallback_unused (hfallback : settings.fallback = ({} : Settings).fallback)
    (hfound : Discovery.manifests files settings.pluginDirectories = .ok manifests)
    (hdistinct : (manifests.flatMap (·.declaredNames)).Nodup)
    (hnew : ∀ name ∈ manifests.flatMap (·.declaredNames),
      name ∉ [treeLanguage, markdownLanguage, pandocLanguage])
    (hends : ∀ manifest ∈ manifests, ∀ name, manifest.Mentions name →
      name ∈ [treeLanguage, markdownLanguage, pandocLanguage] ∨ name ∈ manifest.declaredNames) :
    ∃ registry, settings.registry files = .ok registry ∧
      ((∃ engine, Engine.ofRegistry registry = .ok engine) ↔
        ∀ manifest ∈ manifests, ¬ manifest.Mentions pandocLanguage) ∧
      ((∃ manifest ∈ manifests, manifest.Mentions pandocLanguage) →
        Engine.ofRegistry registry = .error (.unknownLanguage pandocLanguage)) := by
  have hcompatible :
      Manifest.Compatible pandocLanguage [treeLanguage, markdownLanguage] manifests := by
    refine ⟨?_, ?_, hdistinct, ?_⟩
    · refine List.not_mem_append (by decide) fun hdeclared => ?_
      exact hnew pandocLanguage hdeclared (by simp)
    · intro name hname hknown
      exact hnew name hname (List.mem_append_left [pandocLanguage] hknown)
    · intro manifest hmem name hname
      obtain hbuiltin | hown := hends manifest hmem name hname
      · simp only [List.mem_cons, List.not_mem_nil, or_false] at hbuiltin ⊢
        tauto
      · exact .inr (.inr hown)
  obtain ⟨registry, hregistry, hcases⟩ := ofRegistry_cases hfallback hfound hcompatible
  refine ⟨registry, hregistry, ?_⟩
  obtain ⟨hnone, hok⟩ | ⟨⟨manifest, hmem, hmentioned⟩, herror⟩ := hcases
  · refine ⟨⟨fun _ => hnone, fun _ => hok⟩, ?_⟩
    rintro ⟨manifest, hmem, hmentioned⟩
    exact absurd hmentioned (hnone manifest hmem)
  · refine ⟨⟨?_, fun hnone => absurd hmentioned (hnone manifest hmem)⟩, fun _ => herror⟩
    rintro ⟨engine, hengine⟩
    rw [herror] at hengine
    simp at hengine

theorem attaches_iff_fallback_unused_notes :
    let settings : Settings := { pluginDirectories := ["plugins"] }
    Discovery.manifests (storedNotes markdownLanguage) settings.pluginDirectories =
        .ok [notes markdownLanguage] ∧
      ∃ registry engine, settings.registry (storedNotes markdownLanguage) = .ok registry ∧
        Engine.ofRegistry registry = .ok engine := by
  intro settings
  have hfound : Discovery.manifests (storedNotes markdownLanguage) settings.pluginDirectories =
      .ok [notes markdownLanguage] := manifests_storedNotes (by decide +kernel)
  have hends : ∀ manifest ∈ [notes markdownLanguage], ∀ name, manifest.Mentions name →
      name ∈ [treeLanguage, markdownLanguage, pandocLanguage] ∨ name ∈ manifest.declaredNames := by
    intro manifest hmem name hname
    obtain rfl := List.mem_singleton.mp hmem
    obtain rfl | rfl := mentions_notes_iff.mp hname
    · exact .inr (by decide)
    · exact .inl (by decide)
  have hfallback : settings.fallback = ({} : Settings).fallback := rfl
  obtain ⟨registry, hregistry, hiff, -⟩ :=
    attaches_iff_fallback_unused hfallback hfound (by decide) (by decide) hends
  refine ⟨hfound, registry, ?_⟩
  obtain ⟨engine, hengine⟩ := hiff.mpr fun manifest hmem hmentioned => by
    obtain rfl := List.mem_singleton.mp hmem
    exact absurd (mentions_notes_iff.mp hmentioned) (by decide)
  exact ⟨engine, hregistry, hengine⟩

/-- A manifest that passes its own language on to Pandoc is refused. -/
theorem not_attaches_passing_to_fallback :
    let settings : Settings := { pluginDirectories := ["plugins"] }
    let manifest := notes pandocLanguage
    Discovery.manifests (storedNotes pandocLanguage) settings.pluginDirectories =
        .ok [manifest] ∧
      manifest.declaredNames = ["notes"] ∧ manifest.passThrough = [("notes", pandocLanguage)] ∧
      ∃ registry, settings.registry (storedNotes pandocLanguage) = .ok registry ∧
        Engine.ofRegistry registry = .error (.unknownLanguage pandocLanguage) := by
  intro settings manifest
  have hfound : Discovery.manifests (storedNotes pandocLanguage) settings.pluginDirectories =
      .ok [manifest] := manifests_storedNotes (by decide +kernel)
  refine ⟨hfound, rfl, rfl, ?_⟩
  have hmentioned : manifest.Mentions pandocLanguage := mentions_notes_iff.mpr (.inr rfl)
  have hcompatible :
      Manifest.Compatible pandocLanguage [treeLanguage, markdownLanguage] [manifest] := by
    refine ⟨by decide, by decide, by decide, fun other hmem name hname => ?_⟩
    obtain rfl := List.mem_singleton.mp hmem
    obtain rfl | rfl := mentions_notes_iff.mp hname
    · exact .inr (.inr (by decide))
    · exact .inl rfl
  have hfallback : settings.fallback = ({} : Settings).fallback := rfl
  obtain ⟨registry, hregistry, ⟨hnone, -⟩ | ⟨-, herror⟩⟩ :=
    ofRegistry_cases hfallback hfound hcompatible
  · exact absurd hmentioned (hnone manifest List.mem_cons_self)
  · exact ⟨registry, hregistry, herror⟩

end Settings

end DocBridge
