import DocBridge.Proofs.Plugin.Startup

/-!
# Discovery that fails

A manifest is registered as soon as it is read, and nothing takes it out of the registry again. So
where a later directory cannot be searched, or a later manifest not be read, discovery fails with
this fault and leaves the plugins of all manifests before it behind. The registry is as it was only
if the fault is the first thing that is met.
-/

namespace DocBridge

open Plugin

section Results

variable {ε α : Type} {e : ε} {results rest : List (Except ε α)} {found : List α}

@[simp] theorem firstFault?_ok_append_error :
    firstFault? (found.map .ok ++ .error e :: rest) = some e := by
  induction found with
  | nil => rfl
  | cons a found ih => exact ih

@[simp] theorem beforeFault_ok_append_error :
    beforeFault (found.map .ok ++ .error e :: rest) = found := by
  induction found with
  | nil => rfl
  | cons a found ih => exact congrArg (a :: ·) ih

theorem eq_append_of_firstFault? (h : firstFault? results = some e) :
    ∃ rest, results = (beforeFault results).map .ok ++ .error e :: rest := by
  induction results with
  | nil => cases h
  | cons result results ih =>
      cases result with
      | error e' =>
          obtain rfl := Option.some.inj h
          exact ⟨results, rfl⟩
      | ok a =>
          obtain ⟨rest, hrest⟩ := ih h
          exact ⟨rest, congrArg (.ok a :: ·) hrest⟩

end Results

namespace Discovery

variable {files : Files.Store} {directories : List Files.Path} {registry left : Registry}
  {e : Error}

theorem run_discover_eq_error_iff :
    (discover files directories).run registry = .error e left ↔
      firstFault? (readings files directories) = some e ∧
        left = registered registry (readings files directories) := by
  rw [registers_discover]
  cases firstFault? (readings files directories) with
  | none => simp
  | some fault =>
      simp only [EStateM.Result.error.injEq, Option.some.injEq]
      exact and_congr_right' eq_comm

/-- Discovery fails with the first fault it meets, and the registry keeps the plugins of all
manifests that are read before. It is as it was before if and only if there are none of these. -/
theorem failed_discovery_keeps (files : Files.Store) (directories : List Files.Path)
    (registry left : Registry) (e : Error) :
    (discover files directories).run registry = .error e left ↔
      ∃ found rest, readings files directories = found.map .ok ++ .error e :: rest ∧
        left.plugins = registry.plugins ++ found.map Manifest.plugin ∧
        (left.plugins = registry.plugins ↔ found = []) := by
  rw [run_discover_eq_error_iff]
  constructor
  · rintro ⟨hfault, rfl⟩
    obtain ⟨rest, hreadings⟩ := eq_append_of_firstFault? hfault
    refine ⟨_, rest, hreadings, rfl, ?_⟩
    rw [registered, List.append_right_eq_self, List.map_eq_nil_iff]
  · rintro ⟨found, rest, hreadings, hleft, -⟩
    rw [hreadings]
    refine ⟨firstFault?_ok_append_error, ?_⟩
    rw [registered, beforeFault_ok_append_error, ← hleft]

/-- A manifest stays behind where the directory after its own is missing. -/
theorem failed_discovery_keeps_notes :
    ¬ ∀ (files : Files.Store) (directories : List Files.Path) (registry left : Registry)
      (e : Error), (discover files directories).run registry = .error e left →
        left.plugins = registry.plugins := by
  intro hunchanged
  let files := Settings.storedNotes markdownLanguage
  let manifest := Settings.notes markdownLanguage
  have hfile : Manifest.ofFile files "plugins/notes.toml" = .ok manifest :=
    Settings.ofFile_storedNotes_eq_ok (by decide +kernel)
  have hfind : findManifests files "plugins" = .ok ["plugins/notes.toml"] :=
    Settings.findManifests_storedNotes markdownLanguage
  have hentry : files.entryAt "missing" = .error .notFound := by
    simp only [Files.Store.entryAt, Files.Path.check_eq]
    rfl
  have hmissing : findManifests files "missing" = .error (.manifest "missing" .unreadable) :=
    findManifests_eq_error hentry
  have hreadings : readings files ["plugins", "missing"] =
      [.ok manifest, .error (.manifest "missing" .unreadable)] := by
    simp [readings, readingsBelow, hfind, hfile, hmissing]
  have hrun : (discover files ["plugins", "missing"]).run ⟨[]⟩ =
      .error (.manifest "missing" .unreadable) ⟨[manifest.plugin]⟩ := by
    rw [registers_discover, hreadings]
    rfl
  have hempty := hunchanged _ _ _ _ _ hrun
  cases hempty

end Discovery

end DocBridge
