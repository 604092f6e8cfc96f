import DocBridge.Plugin.Discovery
import DocBridge.Proofs.Except
import Mathlib.Data.List.Basic

/-!
# The manifests that discovery finds

Discovery adds one plugin for each manifest it finds, behind those that the registry holds, in the
order in which the directories are given and searched. It fails where a directory cannot be searched
or a manifest not be read, and the first such fault is its error; the plugins of the manifests read
before stay in the registry. Which manifests are found, or which fault is met, does not depend on
the registry, so it is said here apart from it.
-/

namespace DocBridge

variable {ε α : Type}

/-- The results before the first fault. -/
def beforeFault : List (Except ε α) → List α
  | [] => []
  | .error _ :: _ => []
  | .ok a :: rest => a :: beforeFault rest

def firstFault? : List (Except ε α) → Option ε
  | [] => none
  | .error e :: _ => some e
  | .ok _ :: rest => firstFault? rest

theorem mapM_id_eq (results : List (Except ε α)) :
    results.mapM id = match firstFault? results with
      | none => .ok (beforeFault results)
      | some e => .error e := by
  induction results with
  | nil => rfl
  | cons result rest ih =>
      rw [List.mapM_cons, ih]
      cases result with
      | error e => rfl
      | ok a =>
          rw [firstFault?, beforeFault]
          cases firstFault? rest <;> rfl

/-- Without a fault in the first results those before the fault go on into the others. -/
theorem beforeFault_append_of_none {results : List (Except ε α)} (h : firstFault? results = none)
    (others : List (Except ε α)) :
    beforeFault (results ++ others) = beforeFault results ++ beforeFault others ∧
      firstFault? (results ++ others) = firstFault? others := by
  induction results with
  | nil => exact ⟨rfl, rfl⟩
  | cons result rest ih =>
      cases result with
      | error e => cases h
      | ok a => exact ⟨congrArg (a :: ·) (ih h).1, (ih h).2⟩

theorem beforeFault_append_of_some {results : List (Except ε α)} {e : ε}
    (h : firstFault? results = some e) (others : List (Except ε α)) :
    beforeFault (results ++ others) = beforeFault results ∧
      firstFault? (results ++ others) = some e := by
  induction results with
  | nil => cases h
  | cons result rest ih =>
      cases result with
      | error e' => exact ⟨rfl, h⟩
      | ok a => exact ⟨congrArg (a :: ·) (ih h).1, (ih h).2⟩

namespace Discovery

/-- The manifests below a directory. -/
def manifestsBelow (files : Files.Store) (directory : Files.Path) :
    Except Error (List Manifest) :=
  (findManifests files directory).bind fun paths => paths.mapM (Manifest.ofFile files)

/-- The manifests below each of the directories. -/
def manifests (files : Files.Store) (directories : List Files.Path) :
    Except Error (List Manifest) :=
  (directories.mapM (manifestsBelow files)).map List.flatten

/-- What reading each manifest below a directory gives. A directory that cannot be searched gives
its fault. -/
def readingsBelow (files : Files.Store) (directory : Files.Path) : List (Except Error Manifest) :=
  match findManifests files directory with
  | .error e => [.error e]
  | .ok paths => paths.map (Manifest.ofFile files)

/-- What reading each manifest below the directories gives, in the order of discovery. It goes on
behind the faults, where discovery stops. -/
def readings (files : Files.Store) (directories : List Files.Path) :
    List (Except Error Manifest) :=
  directories.flatMap (readingsBelow files)

/-- A search adds the plugins of these manifests to any registry, or fails with this error. -/
def Adds (search : Search Unit) : Except Error (List Manifest) → Prop
  | .ok found => ∀ registry : Registry,
      search.run registry = .ok () ⟨registry.plugins ++ found.map Manifest.plugin⟩
  | .error e => ∀ registry, ∃ left, search.run registry = .error e left

/-- The registry with the plugins of the manifests that are read before the first fault. -/
def registered (registry : Registry) (found : List (Except Error Manifest)) : Registry :=
  ⟨registry.plugins ++ (beforeFault found).map Manifest.plugin⟩

/-- A search adds the plugins of the manifests that are read before the first fault, and fails with
this fault if there is one. -/
def Registers (search : Search Unit) (found : List (Except Error Manifest)) : Prop :=
  ∀ registry, search.run registry = match firstFault? found with
    | none => .ok () (registered registry found)
    | some e => .error e (registered registry found)

section Searching

variable {first second search : Search Unit} {found later : List (Except Error Manifest)}

theorem registers_nothing : Registers (pure ()) [] := by
  intro registry
  rw [registered, beforeFault, List.map_nil, List.append_nil]
  rfl

theorem Registers.bind (hfirst : Registers first found) (hsecond : Registers second later) :
    Registers (first >>= fun _ => second) (found ++ later) := by
  intro registry
  rw [EStateM.run_bind, hfirst registry]
  cases hfault : firstFault? found with
  | some e =>
      obtain ⟨hbefore, hsome⟩ := beforeFault_append_of_some hfault later
      rw [registered, registered, hbefore, hsome]
  | none =>
      obtain ⟨hbefore, hnone⟩ := beforeFault_append_of_none hfault later
      have hregistered : registered (registered registry found) later =
          registered registry (found ++ later) := by
        simp [registered, hbefore]
      simp only [hsecond (registered registry found), hregistered, hnone]

theorem Registers.forM {items : List α} {search : α → Search Unit}
    {found : α → List (Except Error Manifest)} (h : ∀ item, Registers (search item) (found item)) :
    Registers (items.forM search) (items.flatMap found) := by
  induction items with
  | nil => exact registers_nothing
  | cons item rest ih =>
      rw [List.flatMap_cons]
      exact (h item).bind ih

theorem registers_addManifest (files : Files.Store) (path : Files.Path) :
    Registers (addManifest files path) [Manifest.ofFile files path] := by
  intro registry
  rw [addManifest]
  cases Manifest.ofFile files path with
  | error e =>
      rw [registered, beforeFault, List.map_nil, List.append_nil]
      rfl
  | ok manifest => rfl

theorem registers_discover (files : Files.Store) (directories : List Files.Path) :
    Registers (discover files directories) (readings files directories) := by
  refine Registers.forM fun directory => ?_
  rw [readingsBelow]
  cases findManifests files directory with
  | error e =>
      intro registry
      rw [registered, beforeFault, List.map_nil, List.append_nil]
      rfl
  | ok paths =>
      have hpaths : Registers (paths.forM (addManifest files))
          (paths.flatMap fun path => [Manifest.ofFile files path]) :=
        .forM (registers_addManifest files)
      rwa [← List.map_eq_flatMap] at hpaths

theorem Registers.adds (h : Registers search found) : Adds search (found.mapM id) := by
  rw [mapM_id_eq]
  cases hfault : firstFault? found with
  | none =>
      intro registry
      rw [h registry, hfault]
      rfl
  | some e =>
      intro registry
      rw [h registry, hfault]
      exact ⟨_, rfl⟩

end Searching

theorem manifestsBelow_eq (files : Files.Store) (directory : Files.Path) :
    manifestsBelow files directory = (readingsBelow files directory).mapM id := by
  rw [manifestsBelow, readingsBelow]
  cases findManifests files directory with
  | error e => rfl
  | ok paths =>
      rw [List.mapM_map]
      rfl

theorem manifests_eq (files : Files.Store) (directories : List Files.Path) :
    manifests files directories = (readings files directories).mapM id := by
  induction directories with
  | nil => rfl
  | cons directory rest ih =>
      rw [readings, List.flatMap_cons, List.mapM_append, ← readings, ← ih, ← manifestsBelow_eq,
        manifests, manifests, List.mapM_cons]
      cases manifestsBelow files directory with
      | error e => rfl
      | ok found => cases rest.mapM (manifestsBelow files) <;> rfl

/-- The manifests that are found come from the paths that the directories hold, one from each and in
the order of the paths. -/
theorem manifests_eq_ok {files : Files.Store} {directories : List Files.Path}
    {found : List Manifest} (h : manifests files directories = .ok found) :
    ∃ scans : List (List Files.Path), directories.map (findManifests files) = scans.map .ok ∧
      scans.flatten.map (Manifest.ofFile files) = found.map .ok := by
  rw [manifests_eq, mapM_eq_ok_iff, List.map_id] at h
  induction directories generalizing found with
  | nil => exact ⟨[], rfl, h⟩
  | cons directory rest ih =>
      rw [readings, List.flatMap_cons, ← readings, List.append_eq_map_iff] at h
      obtain ⟨here, later, rfl, hhere, hlater⟩ := h
      obtain ⟨scans, hscans, hread⟩ := ih hlater.symm
      rw [readingsBelow] at hhere
      cases hpaths : findManifests files directory with
      | error e => simp [hpaths, List.map_eq_singleton_iff] at hhere
      | ok paths =>
          rw [hpaths] at hhere
          refine ⟨paths :: scans, ?_, ?_⟩
          · rw [List.map_cons, List.map_cons, hpaths, hscans]
          · rw [List.flatten_cons, List.map_append, List.map_append, hread, hhere]

/-- Discovery adds the plugins of the manifests below the directories, or fails as they do. -/
theorem adds_discover (files : Files.Store) (directories : List Files.Path) :
    Adds (discover files directories) (manifests files directories) := by
  rw [manifests_eq]
  exact (registers_discover files directories).adds

end Discovery

end DocBridge
