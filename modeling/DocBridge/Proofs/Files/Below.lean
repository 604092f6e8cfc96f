import DocBridge.Proofs.Dictionary
import DocBridge.Proofs.Files.Names
import Mathlib.Data.List.TakeWhile

/-!
# Entries below a directory

Names lead from a directory to the entries below it. The path of such an entry has the steps of the
path of the directory and then these names, whether or not the path of the directory ends in a
slash. So the paths of two entries compare as the names that lead to them, and what an entry is
called and its extension are read off its own name.
-/

namespace DocBridge.Files

namespace Path

variable {path directory : Path} {name ext : String} {route : List String}

/-- Whether the name of an entry can be written behind a path as it is. -/
def IsOpen (path : Path) : Prop := path = "" ∨ path.toList.getLast? = some '/'

instance (path : Path) : Decidable path.IsOpen := inferInstanceAs (Decidable (_ ∨ _))

/-- The steps of a path that the paths of all entries below it begin with. -/
def stem (path : Path) : List String := if path.IsOpen then (steps path).dropLast else steps path

/-- The path of what names lead to from a directory. -/
def below (directory : Path) (route : List String) : Path := route.foldl join directory

theorem join_eq (directory : Path) (name : String) :
    join directory name =
      if directory.IsOpen then directory ++ name else directory ++ "/" ++ name := by
  by_cases hopen : directory.IsOpen
  · rw [if_pos hopen, join, if_pos (by simpa [IsOpen] using hopen)]
  · rw [if_neg hopen, join, if_neg (by simpa [IsOpen] using hopen)]

theorem join_injective (directory : Path) : Function.Injective (join directory) := by
  intro name name' h
  rw [join_eq, join_eq] at h
  split at h
  · exact (String.append_right_inj _).mp h
  · exact (String.append_right_inj _).mp h

theorem steps_append_slash (before after : String) :
    steps (before ++ "/" ++ after) = steps before ++ steps after := by
  have hslash : (before ++ "/" ++ after).toList = before.toList ++ '/' :: after.toList := by
    simp
  simp only [steps, Text.split, Text.splitAt_eq_splitOn, hslash, List.splitOn_append_cons_self,
    List.map_append]

theorem exists_eq_append_slash (h : path.toList.getLast? = some '/') :
    ∃ before, path = before ++ "/" := by
  obtain ⟨before, hbefore⟩ := List.getLast?_eq_some_iff.mp h
  exact ⟨String.ofList before, String.toList_inj.mp (by simp [hbefore])⟩

/-- The name of an entry is one step more. -/
theorem steps_join (h : '/' ∉ name.toList) :
    steps (join directory name) = stem directory ++ [name] := by
  have hname : steps name = [name] := Text.split_of_not_mem h
  have hempty : steps "" = [""] := Text.split_of_not_mem (by simp)
  rw [join_eq, stem]
  split
  · next hopen =>
      obtain rfl | hlast := hopen
      · rw [String.empty_append, hname, hempty]
        rfl
      · obtain ⟨before, rfl⟩ := exists_eq_append_slash hlast
        have hsteps : steps (before ++ "/") = steps before ++ [""] := by
          rw [← hempty, ← steps_append_slash, String.append_empty]
        rw [steps_append_slash, hname, hsteps, List.dropLast_concat]
  · rw [steps_append_slash, hname]

theorem IsName.ne_empty (h : IsName name) : name ≠ "" := by
  rintro rfl
  exact absurd h (by decide)

theorem IsName.not_isOpen_join (h : IsName name) : ¬(join directory name).IsOpen := by
  have hne : name.toList ≠ [] := by simpa using h.ne_empty
  have hlast : (join directory name).toList.getLast? = name.toList.getLast? := by
    rw [join_eq]
    split <;> rw [String.toList_append, List.getLast?_append_of_ne_nil _ hne]
  rintro (hempty | hslash)
  · rw [hempty] at hlast
    exact hne (List.getLast?_eq_none_iff.mp hlast.symm)
  · exact h.1 (List.mem_of_getLast? (hlast.symm.trans hslash))

theorem stem_below (h : ∀ name ∈ route, IsName name) :
    stem (below directory route) = stem directory ++ route := by
  induction route generalizing directory with
  | nil => exact (List.append_nil _).symm
  | cons name rest ih =>
      obtain ⟨hname, hrest⟩ := List.forall_mem_cons.mp h
      rw [below, List.foldl_cons, ← below, ih hrest, stem, if_neg hname.not_isOpen_join,
        steps_join hname.1, List.append_assoc, List.singleton_append]

/-- The path of an entry has the names that lead to it behind the path of the directory. -/
theorem steps_below (h : ∀ name ∈ route, IsName name) (hne : route ≠ []) :
    steps (below directory route) = stem directory ++ route := by
  obtain ⟨above, name, rfl⟩ := (List.eq_nil_or_concat' route).resolve_left hne
  obtain ⟨habove, hname⟩ := List.forall_mem_append.mp h
  rw [below, List.foldl_concat, ← below, steps_join (List.forall_mem_singleton.mp hname).1,
    stem_below habove, List.append_assoc]

/-! ### Extensions -/

theorem fileName?_join (h : IsName name) : fileName? (join directory name) = some name := by
  have hstill : ¬isStill name = true := by simp [h.2.2.1]
  rw [fileName?, steps_join h.1, List.reverse_concat, List.dropWhile_cons_of_neg hstill]
  exact if_neg h.2.2.2.1

theorem extensionOf?_eq_some_iff {name ext : List Char} :
    extensionOf? name = some ext ↔
      ∃ stem, stem ≠ [] ∧ name = stem ++ '.' :: ext ∧ '.' ∉ ext := by
  constructor
  · intro h
    have hsplit : name.reverse.takeWhile (· ≠ '.') ++ name.reverse.dropWhile (· ≠ '.') =
        name.reverse := List.takeWhile_append_dropWhile
    rw [extensionOf?] at h
    split at h
    · cases h
    · cases h
    · next c before hbefore hdrop =>
        obtain rfl := Option.some.inj h
        have hpoint : c = '.' := by
          have hhead := List.head?_dropWhile_not (· ≠ '.') name.reverse
          rw [hdrop] at hhead
          simpa using hhead
        rw [hdrop, hpoint] at hsplit
        refine ⟨before.reverse, mt List.reverse_eq_nil_iff.mp hbefore, ?_, fun hmem => ?_⟩
        · have hname := congrArg List.reverse hsplit
          simpa using hname.symm
        · simpa using List.mem_takeWhile_imp (List.mem_reverse.mp hmem)
  · rintro ⟨stem, hne, rfl, hext⟩
    have hreverse : (stem ++ '.' :: ext).reverse = ext.reverse ++ '.' :: stem.reverse := by simp
    have hall : ∀ c ∈ ext.reverse, decide (c ≠ '.') = true := by
      intro c hc
      simpa using fun hpoint : c = '.' => hext (hpoint ▸ List.mem_reverse.mp hc)
    rw [extensionOf?, hreverse]
    simp only [List.takeWhile_append_of_pos hall, List.dropWhile_append_of_pos hall]
    obtain ⟨c, rest, hrest⟩ := List.exists_cons_of_ne_nil (mt List.reverse_eq_nil_iff.mp hne)
    simp [hrest]

theorem extension?_join_eq_some_iff (h : IsName name) :
    extension? (join directory name) = some ext ↔
      ∃ stem, stem ≠ "" ∧ name = stem ++ "." ++ ext ∧ '.' ∉ ext.toList := by
  rw [extension?, fileName?_join h, Option.bind_some, Option.map_eq_some_iff]
  simp only [extensionOf?_eq_some_iff]
  constructor
  · rintro ⟨ext, ⟨stem, hne, hname, hext⟩, rfl⟩
    refine ⟨String.ofList stem, by simpa using hne, String.toList_inj.mp ?_, by simpa using hext⟩
    simp [hname]
  · rintro ⟨stem, hne, rfl, hext⟩
    exact ⟨ext.toList, ⟨stem.toList, by simpa using hne, by simp, hext⟩, String.ofList_toList⟩

end Path

namespace Entry

/-- In every directory of a tree the entries stand in the order of their names. -/
inductive InOrder : Entry → Prop
  | file (bytes : ByteArray) : InOrder (.file bytes)
  | directory {entries : List (String × Entry)} (hsorted : Dictionary.Sorted entries)
      (hnames : ∀ e ∈ entries, Path.IsName e.1) (hbelow : ∀ e ∈ entries, InOrder e.2) :
      InOrder (.directory entries)

/-- Names lead from an entry to one that is there or below it. -/
inductive Leads : Entry → List String → Entry → Prop
  | here (entry : Entry) : Leads entry [] entry
  | inside {entries : List (String × Entry)} {name : String} {entry target : Entry}
      {route : List String} (hmem : (name, entry) ∈ entries) (hroute : Leads entry route target) :
      Leads (.directory entries) (name :: route) target

variable {entry target : Entry} {entries : Directory} {name : String} {route : List String}

theorem Leads.exists_directory (h : entry.Leads route target) (hne : route ≠ []) :
    ∃ entries, entry = .directory entries := by
  cases h with
  | here => exact absurd rfl hne
  | inside => exact ⟨_, rfl⟩

theorem inOrder_empty : InOrder (.directory []) := .directory Dictionary.sorted_nil nofun nofun

theorem inOrder_singleton (hname : Path.IsName name) (hentry : entry.InOrder) :
    InOrder (.directory [(name, entry)]) :=
  .directory (List.pairwise_singleton _ _) (List.forall_mem_singleton.mpr hname)
    (List.forall_mem_singleton.mpr hentry)

theorem InOrder.isName_of_leads (h : entry.InOrder) (hroute : entry.Leads route target) :
    ∀ name ∈ route, Path.IsName name := by
  induction hroute with
  | here entry => exact nofun
  | inside hmem _ ih =>
      cases h with
      | directory _ hnames hbelow =>
          exact List.forall_mem_cons.mpr ⟨hnames _ hmem, ih (hbelow _ hmem)⟩

theorem InOrder.insert (h : InOrder (.directory entries)) (hname : Path.IsName name)
    (hentry : entry.InOrder) : InOrder (.directory (entries.insert name entry)) := by
  cases h with
  | directory hsorted hnames hbelow =>
      have hinserted := Dictionary.sorted_insert hsorted name entry
      refine .directory hinserted (fun e he => ?_) fun e he => ?_
      · obtain rfl | he := Dictionary.mem_insert he
        · exact hname
        · exact hnames e he
      · obtain rfl | he := Dictionary.mem_insert he
        · exact hentry
        · exact hbelow e he

/-- A tree stays in order when an entry is put below it. -/
theorem InOrder.putBelow (h : InOrder (.directory entries)) (hentry : entry.InOrder)
    (hroute : ∀ name ∈ route, Path.IsName name) :
    InOrder (.directory (Store.putBelow entry route entries)) := by
  induction route generalizing entries with
  | nil => exact h
  | cons name rest ih =>
      obtain ⟨hname, hrest⟩ := List.forall_mem_cons.mp hroute
      cases rest with
      | nil => exact h.insert hname hentry
      | cons next rest =>
          rw [Store.putBelow]
          · refine h.insert hname (ih ?_ hrest)
            split
            · next inner hfind =>
                cases h with
                | directory _ _ hbelow => exact hbelow _ (Dictionary.mem_of_find? hfind)
            · exact inOrder_empty
          · exact fun hnil => List.cons_ne_nil _ _ hnil

end Entry

end DocBridge.Files
