import DocBridge.Plugin.Discovery
import DocBridge.Proofs.Except
import DocBridge.Proofs.Files.Below
import DocBridge.Proofs.Text.Utf8

/-!
# Which manifests are found

A search below a directory finds the files with the extension of manifests that are not private, in
every directory below it that is neither private nor for tests nor inside of one that is. It goes
through the entries of a directory by their names and through all that is below one entry before it
comes to the next, which is the order of the paths when they are compared step by step: two paths
part at the names of two entries of one directory.
-/

namespace DocBridge.Discovery

open Files

variable {entries inner : Directory} {entry : Entry} {directory path : Path} {name : String}
  {route : List String} {bytes : ByteArray}

/-! ### Names -/

/-- The name of a private file or directory. -/
def IsPrivate (name : String) : Prop := ['_'] <+: name.toList ∨ ['.'] <+: name.toList

/-- The name of a file that is taken for a manifest. -/
structure IsManifestName (name : String) : Prop where
  extension : ∃ stem, stem ≠ "" ∧ name = stem ++ ".toml"
  notPrivate : ¬IsPrivate name

/-- The name of a directory that is searched. -/
structure IsSearchedName (name : String) : Prop where
  notTest : ¬"test".toList <:+: name.toList
  notPrivate : ¬IsPrivate name

theorem isPrivate_iff : isPrivate name = true ↔ IsPrivate name := by
  rw [isPrivate, IsPrivate]
  cases name.toList with
  | nil => simp
  | cons c rest => simp [List.cons_prefix_cons, eq_comm (a := c)]

theorem occursIn_iff {part whole : List Char} :
    Text.occursIn part whole = true ↔ part <:+: whole := by
  induction whole with
  | nil => simp [Text.occursIn]
  | cons c rest ih =>
      rw [Text.occursIn, Bool.or_eq_true, List.isPrefixOf_iff_prefix, ih, List.infix_cons_iff]

theorem not_isSkipped_file_iff : ¬isSkipped name (.file bytes) = true ↔ ¬IsPrivate name :=
  not_congr isPrivate_iff

theorem not_isSkipped_directory_iff :
    ¬isSkipped name (.directory inner) = true ↔ IsSearchedName name := by
  rw [isSkipped, Bool.or_eq_true, isPrivate_iff, occursIn_iff, not_or]
  exact ⟨fun h => ⟨h.2, h.1⟩, fun h => ⟨h.notPrivate, h.notTest⟩⟩

/-! ### Routes -/

/-- A file that is found, by the names that lead to it: that of the entry it is, or is below, and
those from there on. -/
inductive Found : String → Entry → List String → Prop
  | file {name : String} {bytes : ByteArray} (hname : IsManifestName name) :
      Found name (.file bytes) [name]
  | inside {name next : String} {entries : Directory} {entry : Entry} {route : List String}
      (hname : IsSearchedName name) (hmem : (next, entry) ∈ entries)
      (hroute : Found next entry route) : Found name (.directory entries) (name :: route)

theorem Found.exists_cons (h : Found name entry route) : ∃ rest, route = name :: rest := by
  cases h with
  | file => exact ⟨[], rfl⟩
  | inside => exact ⟨_, rfl⟩

theorem Found.exists_leads (h : Found name entry route) (hmem : (name, entry) ∈ entries) :
    ∃ above last bytes, route = above ++ [last] ∧
      Entry.Leads (.directory entries) route (.file bytes) ∧ IsManifestName last ∧
        ∀ parent ∈ above, IsSearchedName parent := by
  induction h generalizing entries with
  | file hname => exact ⟨[], _, _, rfl, .inside hmem (.here _), hname, nofun⟩
  | inside hname hnext _ ih =>
      obtain ⟨above, last, bytes, rfl, hleads, hlast, habove⟩ := ih hnext
      exact ⟨_ :: above, last, bytes, rfl, .inside hmem hleads, hlast,
        List.forall_mem_cons.mpr ⟨hname, habove⟩⟩

theorem exists_found_of_leads {above : List String} {last : String}
    (hleads : Entry.Leads (.directory entries) (above ++ [last]) (.file bytes))
    (hlast : IsManifestName last) (habove : ∀ parent ∈ above, IsSearchedName parent) :
    ∃ e ∈ entries, Found e.1 e.2 (above ++ [last]) := by
  induction above generalizing entries with
  | nil =>
      cases hleads with
      | inside hmem hroute =>
          cases hroute
          exact ⟨_, hmem, .file hlast⟩
  | cons parent above ih =>
      obtain ⟨hparent, habove⟩ := List.forall_mem_cons.mp habove
      cases hleads with
      | inside hmem hroute =>
          obtain ⟨inner, rfl⟩ := hroute.exists_directory (by simp)
          obtain ⟨e, he, hfound⟩ := ih hroute habove
          exact ⟨_, hmem, .inside hparent he hfound⟩

/-! ### The walk -/

/-- The entries of a directory in the order of their names, in whatever order they were read. -/
theorem sorted_mergeSort_byName (hnames : (entries.map Prod.fst).Nodup) :
    Dictionary.Sorted (entries.mergeSort byName) := by
  have hle : (entries.mergeSort byName).Pairwise fun e f => byName e f = true := by
    apply List.pairwise_mergeSort
    · intro e f g hef hfg
      simp only [byName, decide_eq_true_eq] at *
      exact String.le_trans hef hfg
    · intro e f
      simpa [byName] using String.le_total e.1 f.1
  have hne : (entries.mergeSort byName).Pairwise fun e f => e.1 ≠ f.1 := by
    rw [← List.pairwise_map]
    exact ((List.mergeSort_perm entries byName).map Prod.fst).nodup_iff.mpr hnames
  refine hle.imp₂ (fun e f hef hne => ?_) hne
  exact String.not_le.mp fun hfe => hne (String.le_antisymm (of_decide_eq_true hef) hfe)

/-- A walk through one entry of a directory. -/
def visitsOf (directory : Path) (name : String) (entry : Entry) : List Visit :=
  if isSkipped name entry then [] else visitsAt (Path.join directory name) entry

theorem visitsAmong_eq_map (directory : Path) (entries : Directory) :
    visitsAmong directory entries = entries.map fun e => (e.1, visitsOf directory e.1 e.2) := by
  induction entries with
  | nil => rfl
  | cons e rest ih => rw [visitsAmong, ih, List.map_cons, visitsOf]

theorem visitsAt_directory (path : Path) (entries : Directory) :
    visitsAt path (.directory entries) = ⟨path, false⟩ ::
      (entries.mergeSort byName).flatMap fun e => visitsOf path e.1 e.2 := by
  -- The walks stand beside the names, so it is the same to sort them and to sort the entries.
  have hsort : (visitsAmong path entries).mergeSort byName =
      (entries.mergeSort byName).map fun e => (e.1, visitsOf path e.1 e.2) := by
    rw [visitsAmong_eq_map, List.map_mergeSort]
    intro e _ f _
    rfl
  rw [visitsAt, hsort, List.flatMap_map]

/-! ### The listing -/

/-- The manifests among the entries that a walk comes to. -/
def manifestsIn (visits : List Visit) : List Path := visits.filterMap Visit.manifest?

theorem findManifests_eq_ok {files : Store} (hentry : files.entryAt directory = .ok entry) :
    findManifests files directory = .ok (manifestsIn (visitsAt directory entry)) := by
  rw [findManifests, walk, hentry, bind_eq_ok_iff]
  refine ⟨visitsAt directory entry, ?_, rfl⟩
  rw [mapM_eq_ok_iff, List.map_map]
  rfl

theorem findManifests_eq_error {files : Store} {fault : Fault}
    (hentry : files.entryAt directory = .error fault) :
    findManifests files directory = .error (.manifest directory .unreadable) := by
  rw [findManifests, walk, hentry]
  rfl

/-- What is listed for an entry of a directory. -/
def listed (directory : Path) (name : String) (entry : Entry) : List Path :=
  manifestsIn (visitsOf directory name entry)

theorem manifestsIn_visitsAt_directory (directory : Path) (entries : Directory) :
    manifestsIn (visitsAt directory (.directory entries)) =
      (entries.mergeSort byName).flatMap fun e => listed directory e.1 e.2 := by
  rw [manifestsIn, visitsAt_directory, List.filterMap_cons_none rfl, List.filterMap_flatMap]
  rfl

theorem listed_file (directory : Path) (name : String) (bytes : ByteArray) :
    listed directory name (.file bytes) =
      if ¬isSkipped name (.file bytes) ∧
        Path.extension? (Path.join directory name) = some "toml" then [Path.join directory name]
      else [] := by
  rw [listed, manifestsIn, visitsOf, visitsAt]
  by_cases hskipped : isSkipped name (.file bytes) <;>
    by_cases hextension : Path.extension? (Path.join directory name) = some "toml" <;>
      simp [hskipped, hextension, Visit.manifest?]

theorem listed_directory (directory : Path) (name : String) (inner : Directory) :
    listed directory name (.directory inner) = if isSkipped name (.directory inner) then [] else
      (inner.mergeSort byName).flatMap fun e => listed (Path.join directory name) e.1 e.2 := by
  rw [listed, visitsOf, ← manifestsIn_visitsAt_directory]
  split <;> rfl

theorem mem_listed_directory_iff : path ∈ listed directory name (.directory inner) ↔
    IsSearchedName name ∧ ∃ e ∈ inner, path ∈ listed (Path.join directory name) e.1 e.2 := by
  have hsearched : ¬isSkipped name (.directory inner) = true ↔ IsSearchedName name :=
    not_isSkipped_directory_iff
  rw [listed_directory, ← hsearched]
  split
  · next hskipped => simp [hskipped]
  · next hkept => simp [hkept, List.mem_flatMap, List.mem_mergeSort]

theorem mem_listed_file_iff (hname : Path.IsName name) :
    path ∈ listed directory name (.file bytes) ↔
      IsManifestName name ∧ path = Path.join directory name := by
  have hextension : Path.extension? (Path.join directory name) = some "toml" ↔
      ∃ stem, stem ≠ "" ∧ name = stem ++ ".toml" := by
    rw [Path.extension?_join_eq_some_iff hname]
    refine exists_congr fun stem => and_congr_right fun _ => ?_
    rw [String.append_assoc]
    exact and_iff_left (by decide)
  rw [listed_file, List.mem_ite_nil_right, List.mem_singleton, not_isSkipped_file_iff, hextension]
  exact and_congr_left' ⟨fun h => ⟨h.2, h.1⟩, fun h => ⟨h.notPrivate, h.extension⟩⟩

/-- The paths that are listed are those of the files that are found. -/
theorem mem_listed_iff (h : entry.InOrder) (hname : Path.IsName name) :
    path ∈ listed directory name entry ↔
      ∃ route, path = Path.below directory route ∧ Found name entry route := by
  induction h generalizing directory name with
  | file bytes =>
      rw [mem_listed_file_iff hname]
      constructor
      · rintro ⟨hmanifest, rfl⟩
        exact ⟨[name], rfl, .file hmanifest⟩
      · rintro ⟨route, rfl, hroute⟩
        cases hroute with
        | file hmanifest => exact ⟨hmanifest, rfl⟩
  | directory _ hnames _ ih =>
      rw [mem_listed_directory_iff]
      constructor
      · rintro ⟨hsearched, e, he, hpath⟩
        obtain ⟨route, rfl, hroute⟩ := (ih e he (hnames e he)).mp hpath
        exact ⟨name :: route, rfl, .inside hsearched he hroute⟩
      · rintro ⟨route, rfl, hroute⟩
        cases hroute with
        | inside hsearched hmem hroute =>
            exact ⟨hsearched, _, hmem, (ih _ hmem (hnames _ hmem)).mpr ⟨_, rfl, hroute⟩⟩

/-! ### The order of the listing -/

/-- Paths compared step by step, and steps by their bytes. -/
def Precedes (left right : Path) : Prop :=
  (Path.steps left).map Text.bytes < (Path.steps right).map Text.bytes

theorem exists_steps_of_mem_listed (h : entry.InOrder) (hname : Path.IsName name)
    (hpath : path ∈ listed directory name entry) :
    ∃ rest, Path.steps path = Path.stem directory ++ name :: rest := by
  obtain ⟨route, rfl, hroute⟩ := (mem_listed_iff h hname).mp hpath
  have hnames : ∀ step ∈ route, Path.IsName step := by
    have hmem : (name, entry) ∈ [(name, entry)] := List.mem_cons_self
    obtain ⟨above, last, bytes, rfl, hleads, -⟩ := hroute.exists_leads hmem
    exact (Entry.inOrder_singleton hname h).isName_of_leads hleads
  obtain ⟨rest, rfl⟩ := hroute.exists_cons
  exact ⟨rest, Path.steps_below hnames (List.cons_ne_nil name rest)⟩

/-- What is listed in a directory stands in the order of its paths, if that for each entry does. -/
theorem pairwise_manifestsIn_directory (hsorted : Dictionary.Sorted entries)
    (hnames : ∀ e ∈ entries, Path.IsName e.1) (hbelow : ∀ e ∈ entries, e.2.InOrder)
    (hlisted : ∀ e ∈ entries, (listed directory e.1 e.2).Pairwise Precedes) :
    (manifestsIn (visitsAt directory (.directory entries))).Pairwise Precedes := by
  have hnodup : (entries.map Prod.fst).Nodup := List.pairwise_map.mpr (hsorted.imp String.ne_of_lt)
  rw [manifestsIn_visitsAt_directory]
  refine List.pairwise_flatMap.mpr ⟨fun e he => hlisted e (List.mem_mergeSort.mp he),
    (sorted_mergeSort_byName hnodup).imp_of_mem ?_⟩
  intro e f he hf hlt p hp q hq
  rw [List.mem_mergeSort] at he hf
  obtain ⟨rest, hsteps⟩ := exists_steps_of_mem_listed (hbelow e he) (hnames e he) hp
  obtain ⟨rest', hsteps'⟩ := exists_steps_of_mem_listed (hbelow f hf) (hnames f hf) hq
  rw [Precedes, hsteps, hsteps', List.map_append, List.map_append]
  refine List.append_left_lt (List.cons_lt_cons_iff.mpr (.inl ?_))
  exact Text.bytes_lt_bytes hlt

theorem pairwise_listed (h : entry.InOrder) : (listed directory name entry).Pairwise Precedes := by
  induction h generalizing directory name with
  | file bytes =>
      rw [listed_file]
      split
      · exact List.pairwise_singleton _ _
      · exact .nil
  | directory hsorted hnames hbelow ih =>
      rw [listed, visitsOf]
      split
      · exact .nil
      · exact pairwise_manifestsIn_directory hsorted hnames hbelow fun e he => ih e he

/-- A search below a directory lists the files that are called like manifests and are in no
directory below it that is not searched, each of them once, in the order of their paths. -/
theorem findManifests_lists {files : Store}
    (hentry : files.entryAt directory = .ok (.directory entries))
    (horder : Entry.InOrder (.directory entries)) :
    ∃ paths, findManifests files directory = .ok paths ∧
      (∀ path, path ∈ paths ↔ ∃ above name bytes, path = Path.below directory (above ++ [name]) ∧
        Entry.Leads (.directory entries) (above ++ [name]) (.file bytes) ∧
          IsManifestName name ∧ ∀ parent ∈ above, IsSearchedName parent) ∧
      paths.Pairwise Precedes := by
  cases horder with
  | directory hsorted hnames hbelow =>
      refine ⟨_, findManifests_eq_ok hentry, fun path => ?_, ?_⟩
      · simp only [manifestsIn_visitsAt_directory, List.mem_flatMap, List.mem_mergeSort]
        constructor
        · rintro ⟨e, he, hpath⟩
          obtain ⟨route, rfl, hroute⟩ := (mem_listed_iff (hbelow e he) (hnames e he)).mp hpath
          obtain ⟨above, last, bytes, rfl, hleads, hlast, habove⟩ := hroute.exists_leads he
          exact ⟨above, last, bytes, rfl, hleads, hlast, habove⟩
        · rintro ⟨above, last, bytes, rfl, hleads, hlast, habove⟩
          obtain ⟨e, he, hfound⟩ := exists_found_of_leads hleads hlast habove
          exact ⟨e, he, (mem_listed_iff (hbelow e he) (hnames e he)).mpr ⟨_, rfl, hfound⟩⟩
      · exact pairwise_manifestsIn_directory hsorted hnames hbelow fun e he =>
          pairwise_listed (hbelow e he)

/-- A manifest beside a directory of nearly the same name with another one in it, and one for
tests. -/
def nested : Directory :=
  [["a.toml"], ["a", "b.toml"], ["tests", "c.toml"]].foldl
    (fun entries route => Store.putBelow (.file .empty) route entries) []

theorem inOrder_nested : Entry.InOrder (.directory nested) := by
  have hfile : Entry.InOrder (.file .empty) := .file _
  exact ((Entry.inOrder_empty.putBelow hfile (by decide)).putBelow hfile (by decide)).putBelow hfile
    (by decide)

theorem findManifests_lists_nested :
    let files : Store := { root := [("plugins", .directory nested)] }
    files.entryAt "plugins" = .ok (.directory nested) ∧ Entry.InOrder (.directory nested) ∧
      ∃ paths, findManifests files "plugins" = .ok paths ∧ "plugins/a.toml" ∈ paths ∧
        "plugins/a/b.toml" ∈ paths ∧ paths.Pairwise Precedes := by
  intro files
  have hentry : files.entryAt "plugins" = .ok (.directory nested) := by
    simp only [Store.entryAt, Path.check_eq]
    rfl
  obtain ⟨paths, hpaths, hmem, hpairwise⟩ := findManifests_lists hentry inOrder_nested
  have hnested : nested = [("a", .directory [("b.toml", .file .empty)]), ("a.toml", .file .empty),
      ("tests", .directory [("c.toml", .file .empty)])] := rfl
  refine ⟨hentry, inOrder_nested, paths, hpaths, (hmem _).mpr ?_, (hmem _).mpr ?_, hpairwise⟩
  · refine ⟨[], "a.toml", .empty, rfl, .inside ?_ (.here _), ⟨⟨"a", by decide, rfl⟩, ?_⟩, ?_⟩
    · rw [hnested]
      simp
    · simp [IsPrivate]
    · exact List.forall_mem_nil _
  · have hleads : Entry.Leads (.directory nested) ["a", "b.toml"] (.file .empty) :=
      .inside (hnested ▸ List.mem_cons_self) (.inside List.mem_cons_self (.here _))
    refine ⟨["a"], "b.toml", .empty, rfl, hleads, ⟨⟨"b", by decide, rfl⟩, ?_⟩, ?_⟩
    · simp [IsPrivate]
    · exact List.forall_mem_singleton.mpr ⟨by decide, by simp [IsPrivate]⟩

end DocBridge.Discovery
