import DocBridge.Proofs.Plugin.Discovery
import DocBridge.Settings

/-!
# The order of the plugins

In the registry of a command the built-in plugins come first and those of manifests follow in the
order of discovery. The fallback is then the last: of the plugins of its name the first is taken out
and put behind all others, which keep their order. So no plugin is lost and none is doubled. A
command is refused at a fault of discovery, or where no plugin has the name of the fallback.
-/

namespace DocBridge

/-- The second list is the first one without its first plugin of the name, followed by it. -/
def FirstMoved (name : String) (plugins moved : List Plugin) : Prop :=
  ∃ before first after, plugins = before ++ first :: after ∧ first.name = name ∧
    (∀ other ∈ before, other.name ≠ name) ∧ moved = before ++ after ++ [first]

theorem FirstMoved.perm {name : String} {plugins moved : List Plugin}
    (h : FirstMoved name plugins moved) : moved.Perm plugins := by
  obtain ⟨before, first, after, rfl, -, -, rfl⟩ := h
  exact (List.perm_append_singleton first _).trans List.perm_middle.symm

namespace Registry

/-- Moving a plugin finds the first of the name, or finds none and leaves the registry as it is. -/
theorem run_moving_cases (registry : Registry) (name : String) :
    ((∀ plugin ∈ registry.plugins, plugin.name ≠ name) ∧
        (moving name).run registry = .error (.pluginNotFound name) registry) ∨
      ∃ moved, FirstMoved name registry.plugins moved ∧
        (moving name).run registry = .ok () ⟨moved⟩ := by
  cases hindex : registry.plugins.findIdx? (·.name = name) with
  | none =>
      refine .inl ⟨by simpa using hindex, ?_⟩
      simp only [moving, EStateM.run_bind, EStateM.run_get, hindex]
      rfl
  | some index =>
      obtain ⟨hbound, hname, hbefore⟩ := List.findIdx?_eq_some_iff_getElem.mp hindex
      refine .inr ⟨_, ⟨registry.plugins.take index, registry.plugins[index],
        registry.plugins.drop (index + 1), ?_, by simpa using hname, ?_, rfl⟩, ?_⟩
      · rw [← List.drop_eq_getElem_cons hbound, List.take_append_drop]
      · intro other hother
        obtain ⟨i, hi, rfl⟩ := List.mem_take_iff_getElem.mp hother
        simpa using hbefore i (by omega)
      · simp only [moving, EStateM.run_bind, EStateM.run_get, hindex,
          List.eraseIdx_eq_take_drop_succ, List.getElem?_eq_getElem hbound, Option.toList_some]
        rfl

theorem moveToEnd_cases (registry : Registry) (name : String) :
    ((∀ plugin ∈ registry.plugins, plugin.name ≠ name) ∧
        registry.moveToEnd name = .error (.pluginNotFound name)) ∨
      ∃ moved, FirstMoved name registry.plugins moved ∧
        registry.moveToEnd name = .ok ⟨moved⟩ := by
  obtain ⟨hnone, hrun⟩ | ⟨moved, hmoved, hrun⟩ := run_moving_cases registry name
  · exact .inl ⟨hnone, by rw [moveToEnd, hrun]⟩
  · exact .inr ⟨moved, hmoved, by rw [moveToEnd, hrun]⟩

theorem moveToEnd_eq_error_iff {registry : Registry} {name : String} {e : Error} :
    registry.moveToEnd name = .error e ↔
      (∀ plugin ∈ registry.plugins, plugin.name ≠ name) ∧ e = .pluginNotFound name := by
  obtain ⟨hnone, hmove⟩ | ⟨moved, ⟨before, first, after, hplugins, hname, -⟩, hmove⟩ :=
    moveToEnd_cases registry name
  · rw [hmove, Except.error.injEq, eq_comm, and_iff_right hnone]
  · simp only [hmove, reduceCtorEq, false_iff, not_and]
    intro hnone
    exact absurd hname (hnone first (by simp [hplugins]))

theorem firstMoved_of_moveToEnd {registry moved : Registry} {name : String}
    (h : registry.moveToEnd name = .ok moved) : FirstMoved name registry.plugins moved.plugins := by
  obtain ⟨-, hmove⟩ | ⟨plugins, hplugins, hmove⟩ := moveToEnd_cases registry name
  · rw [hmove] at h
    cases h
  · obtain rfl := Except.ok.inj (hmove.symm.trans h)
    exact hplugins

end Registry

namespace Settings

variable {settings : Settings} {files : Files.Store} {registry : Registry}

/-- The plugins of manifests stand behind the built-in ones, before the fallback is moved. -/
theorem registry_eq (settings : Settings) (files : Files.Store) :
    settings.registry files =
      (Discovery.manifests files settings.pluginDirectories).bind fun found =>
        let all : Registry := ⟨settings.builtinPlugins ++ found.map Manifest.plugin⟩
        if settings.fallback = "" then .ok all else all.moveToEnd settings.fallback := by
  have hadds := Discovery.adds_discover files settings.pluginDirectories
  cases hfound : Discovery.manifests files settings.pluginDirectories with
  | error e =>
      rw [hfound] at hadds
      obtain ⟨left, hrun⟩ := hadds ⟨settings.builtinPlugins⟩
      rw [EStateM.run] at hrun
      rw [Settings.registry, hrun]
      rfl
  | ok found =>
      rw [hfound] at hadds
      have hrun := hadds ⟨settings.builtinPlugins⟩
      rw [EStateM.run] at hrun
      rw [Settings.registry, hrun]
      rfl

/-- What a command's registry holds: the built-in plugins and those of the found manifests, but for
the place of the fallback. -/
theorem exists_of_registry_eq_ok (h : settings.registry files = .ok registry) :
    ∃ found, Discovery.manifests files settings.pluginDirectories = .ok found ∧
      (settings.fallback = "" ∧
          registry.plugins = settings.builtinPlugins ++ found.map Manifest.plugin ∨
        settings.fallback ≠ "" ∧ FirstMoved settings.fallback
          (settings.builtinPlugins ++ found.map Manifest.plugin) registry.plugins) := by
  rw [registry_eq] at h
  cases hfound : Discovery.manifests files settings.pluginDirectories with
  | error e => simp [hfound, Except.bind] at h
  | ok found =>
      simp only [hfound, Except.bind] at h
      refine ⟨found, rfl, ?_⟩
      split at h
      · rename_i hempty
        obtain rfl := Except.ok.inj h
        exact .inl ⟨hempty, rfl⟩
      · rename_i hname
        exact .inr ⟨hname, Registry.firstMoved_of_moveToEnd h⟩

/-- The plugins of a command are built in or come from manifests. -/
theorem cases_of_mem_registry (h : settings.registry files = .ok registry) {plugin : Plugin}
    (hmem : plugin ∈ registry.plugins) :
    plugin = Plugin.tree ∨ (∃ bullet, plugin = Plugin.markdown bullet) ∨
      (∃ version, plugin = Plugin.pandoc version) ∨
      ∃ manifest : Manifest, plugin = manifest.plugin := by
  obtain ⟨found, -, hplugins⟩ := exists_of_registry_eq_ok h
  have hperm : registry.plugins.Perm (settings.builtinPlugins ++ found.map Manifest.plugin) := by
    obtain ⟨-, hsame⟩ | ⟨-, hmoved⟩ := hplugins
    · rw [hsame]
    · exact hmoved.perm
  rw [hperm.mem_iff] at hmem
  simp only [builtinPlugins, List.cons_append, List.nil_append, List.mem_cons, List.mem_map] at hmem
  obtain rfl | rfl | rfl | ⟨manifest, -, rfl⟩ := hmem
  · exact .inl rfl
  · exact .inr (.inr (.inl ⟨_, rfl⟩))
  · exact .inr (.inl ⟨_, rfl⟩)
  · exact .inr (.inr (.inr ⟨manifest, rfl⟩))

/-- A command's registry fails with the fault of discovery, or where no plugin has the name of the
fallback. Else it holds the built-in plugins and one for each manifest that is found, in the order
of the directories and the paths in them; of those with the name of the fallback the first is the
last of all. Moving a plugin to the end of any registry does the same, or leaves it as it is. -/
theorem registry_order (settings : Settings) (files : Files.Store) :
    (∀ e, settings.registry files = .error e ↔
      (∃ left, (Discovery.discover files settings.pluginDirectories).run
          ⟨settings.builtinPlugins⟩ = .error e left) ∨
        ∃ held, (Discovery.discover files settings.pluginDirectories).run
            ⟨settings.builtinPlugins⟩ = .ok () held ∧
          settings.fallback ≠ "" ∧ (∀ plugin ∈ held.plugins, plugin.name ≠ settings.fallback) ∧
          e = .pluginNotFound settings.fallback) ∧
    (∀ registry, settings.registry files = .ok registry →
      ∃ (scans : List (List Files.Path)) (found : List Manifest),
        settings.pluginDirectories.map (Discovery.findManifests files) = scans.map .ok ∧
        scans.flatten.map (Manifest.ofFile files) = found.map .ok ∧
        (settings.fallback = "" ∧
            registry.plugins = settings.builtinPlugins ++ found.map Manifest.plugin ∨
          settings.fallback ≠ "" ∧ FirstMoved settings.fallback
            (settings.builtinPlugins ++ found.map Manifest.plugin) registry.plugins)) ∧
    ∀ (registry : Registry) (name : String),
      ((∀ plugin ∈ registry.plugins, plugin.name ≠ name) ∧
          (Registry.moving name).run registry = .error (.pluginNotFound name) registry) ∨
        ∃ moved, FirstMoved name registry.plugins moved ∧
          (Registry.moving name).run registry = .ok () ⟨moved⟩ := by
  refine ⟨fun e => ?_, fun registry hregistry => ?_, Registry.run_moving_cases⟩
  · have hadds := Discovery.adds_discover files settings.pluginDirectories
    rw [registry_eq]
    cases hfound : Discovery.manifests files settings.pluginDirectories with
    | error fault =>
        rw [hfound] at hadds
        obtain ⟨left, hrun⟩ := hadds ⟨settings.builtinPlugins⟩
        simp [hrun, Except.bind]
    | ok found =>
        rw [hfound] at hadds
        have hrun := hadds ⟨settings.builtinPlugins⟩
        by_cases hempty : settings.fallback = ""
        · simp [hrun, hempty, Except.bind]
        · simp [hrun, hempty, Except.bind, Registry.moveToEnd_eq_error_iff]
  · obtain ⟨found, hfound, hplugins⟩ := exists_of_registry_eq_ok hregistry
    obtain ⟨scans, hscans, hread⟩ := Discovery.manifests_eq_ok hfound
    exact ⟨scans, found, hscans, hread, hplugins⟩

end Settings

end DocBridge
