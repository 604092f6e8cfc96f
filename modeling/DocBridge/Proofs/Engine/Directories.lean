import DocBridge.Engine.Storage
import DocBridge.Proofs.Engine.History
import DocBridge.Proofs.Except
import DocBridge.Proofs.Files.Below

/-!
# Files of a language in a directory

Which files of a directory belong to a language is asked of the ends of their names, and in which
language a file is opened of what follows the last point of its name, unless the name begins with
that point. So a file that is opened in a language is listed for it. The other way round this holds
for an extension that is a point and characters other than points, if no other language has it, with
one exception: a file that is called like the extension and nothing more is listed, and has no
extension. With an extension of another form, of two points or none, a language is that of no file.
-/

namespace DocBridge.Engine

open Files

variable {engine : Engine} {files : Store} {directory path : Path} {entries : Directory}
  {language : Language} {name extension : String} {paths : List Path} {read : OpenFile}

/-- A point and characters other than points: what follows the last point of a name, with it. -/
def IsPointed (extension : String) : Prop := ∃ rest, extension = "." ++ rest ∧ '.' ∉ rest.toList

/-- No language of another name has the extension of a language. -/
def ClaimsAlone (engine : Engine) (language : Language) : Prop :=
  ∀ extension, language.extension? = some extension → ∀ other ∈ engine.languages,
    other.extension? = some extension → other.name = language.name

/-! ### Ends of names -/

theorem endsLike_iff : endsLike language name = true ↔
    ∃ extension, language.extension? = some extension ∧ extension.toList <:+ name.toList := by
  rw [endsLike]
  cases language.extension? with
  | none => simp
  | some extension => simp [List.isSuffixOf_iff_suffix]

/-- A name that ends in a text is this text or has it behind a stem. -/
theorem suffix_iff : extension.toList <:+ name.toList ↔
    name = extension ∨ ∃ stem, stem ≠ "" ∧ name = stem ++ extension := by
  constructor
  · rintro ⟨stem, hstem⟩
    have hname : name = String.ofList stem ++ extension :=
      String.toList_inj.mp (by simp [hstem])
    by_cases hempty : stem = []
    · exact .inl (by rw [hname, hempty]; exact String.empty_append)
    · exact .inr ⟨String.ofList stem, by simpa using hempty, hname⟩
  · rintro (rfl | ⟨stem, -, rfl⟩)
    · exact List.suffix_refl _
    · rw [String.toList_append]
      exact List.suffix_append _ _

/-! ### The language of a file -/

/-- The file of an entry is in the language whose extension stands behind a stem in its name. -/
theorem languageOfFile?_join_iff (hdistinct : engine.Distinct) (hmem : language ∈ engine.languages)
    (halone : engine.ClaimsAlone language) (hname : Path.IsName name) :
    engine.languageOfFile? (Path.join directory name) = some language.name ↔
      ∃ extension, language.extension? = some extension ∧ IsPointed extension ∧
        ∃ stem, stem ≠ "" ∧ name = stem ++ extension := by
  rw [languageOfFile?, Option.bind_eq_some_iff]
  simp only [Path.extension?_join_eq_some_iff hname, languageOfExtension?, Option.map_eq_some_iff]
  constructor
  · rintro ⟨rest, ⟨stem, hstem, rfl, hrest⟩, other, hfound, hsame⟩
    have hother : other = language :=
      List.inj_on_of_nodup_map hdistinct.names (List.mem_of_find?_eq_some hfound) hmem hsame
    have hextension : other.extension? = some ("." ++ rest) := by
      simpa using List.find?_some hfound
    refine ⟨"." ++ rest, hother ▸ hextension, ⟨rest, rfl, hrest⟩, stem, hstem, ?_⟩
    rw [String.append_assoc]
  · rintro ⟨_, hextension, ⟨rest, rfl, hrest⟩, stem, hstem, rfl⟩
    refine ⟨rest, ⟨stem, hstem, (String.append_assoc).symm, hrest⟩, ?_⟩
    cases hfound : engine.languages.find? (·.extension? = some ("." ++ rest)) with
    | none => simpa [hextension] using List.find?_eq_none.mp hfound language hmem
    | some other =>
        have hother : other.extension? = some ("." ++ rest) := by
          simpa using List.find?_some hfound
        exact ⟨other, rfl, halone _ hextension other (List.mem_of_find?_eq_some hfound) hother⟩

theorem openFile_eq (hbound : engine.languageOfFile? path = some language.name)
    (hknown : engine.language language.name = .ok language) (hopen : language.open? = some read) :
    engine.openFile files path = (read files path).map (language.name, ·) := by
  simp only [openFile, hbound, hknown, bind, Except.bind, hopen]
  cases read files path <;> rfl

theorem openFile_eq_unsupported (hbound : engine.languageOfFile? path = some language.name)
    (hknown : engine.language language.name = .ok language) (hopen : language.open? = none) :
    engine.openFile files path =
      .error (.unsupported ("language '" ++ language.name ++ "' cannot open files")) := by
  simp only [openFile, hbound, hknown, bind, Except.bind, hopen]

/-! ### The files of a directory -/

/-- Of a directory that can be listed, the files are given whose names are those of the language. -/
theorem filesIn_eq_ok (hpath : Text.allBlank directory = false)
    (hlist : files.list directory = .ok entries)
    (hknown : engine.language name = .ok language) :
    ∃ paths, engine.filesIn files directory (some name) = .ok paths ∧ ∀ path, path ∈ paths ↔
      ∃ e ∈ entries, path = Path.join directory e.1 ∧ files.isFile path = true ∧
        endsLike language e.1 = true := by
  refine ⟨entries.filterMap fun e =>
    if files.isFile (Path.join directory e.1) && endsLike language e.1 then
      some (Path.join directory e.1) else none, ?_, fun path => ?_⟩
  · rw [filesIn, hpath, hlist]
    simp only [hknown, Bool.false_eq_true, if_false]
    rfl
  · rw [List.mem_filterMap]
    refine exists_congr fun e => and_congr_right fun _ => ?_
    rw [Option.ite_none_right_eq_some, Bool.and_eq_true, Option.some.injEq]
    constructor
    · rintro ⟨⟨hfile, hends⟩, rfl⟩
      exact ⟨rfl, hfile, hends⟩
    · rintro ⟨rfl, hfile, hends⟩
      exact ⟨⟨hfile, hends⟩, rfl⟩

/-- The listing of a directory for a language, whose extension no other language has, holds a file
in it exactly when its name ends in this extension; the name is a text, and the directory can be
read. The file is in this language exactly when it is listed, the extension is a point and
characters other than points, and the name is more than the extension; then it is opened as that
language opens files, if it can open any. -/
theorem filesIn_beside_languageOfFile (hreach : engine.Reachable)
    (hknown : engine.language language.name = .ok language) (halone : engine.ClaimsAlone language)
    (hpath : Text.allBlank directory = false) (hlist : files.list directory = .ok entries)
    (hentry : name ∈ entries.map Prod.fst) (hname : Path.IsName name)
    (hfile : files.isFile (Path.join directory name) = true) :
    ∃ paths, engine.filesIn files directory (some language.name) = .ok paths ∧
      (Path.join directory name ∈ paths ↔
        ∃ extension, language.extension? = some extension ∧ extension.toList <:+ name.toList) ∧
      (engine.languageOfFile? (Path.join directory name) = some language.name ↔
        Path.join directory name ∈ paths ∧
          ∃ extension, language.extension? = some extension ∧ IsPointed extension ∧
            name ≠ extension) ∧
      (engine.languageOfFile? (Path.join directory name) = some language.name →
        (∀ read, language.open? = some read →
          engine.openFile files (Path.join directory name) =
            (read files (Path.join directory name)).map (language.name, ·)) ∧
        (language.open? = none → engine.openFile files (Path.join directory name) =
          .error (.unsupported ("language '" ++ language.name ++ "' cannot open files")))) := by
  obtain ⟨paths, hpaths, hmem⟩ := filesIn_eq_ok hpath hlist hknown
  have hlisted : Path.join directory name ∈ paths ↔
      ∃ extension, language.extension? = some extension ∧ extension.toList <:+ name.toList := by
    rw [hmem, ← endsLike_iff]
    constructor
    · rintro ⟨e, -, hjoin, -, hends⟩
      rwa [Path.join_injective directory hjoin]
    · intro hends
      obtain ⟨e, he, rfl⟩ := List.mem_map.mp hentry
      exact ⟨e, he, rfl, hfile, hends⟩
  refine ⟨paths, hpaths, hlisted, ?_, fun hbound =>
    ⟨fun read hopen => openFile_eq hbound hknown hopen, openFile_eq_unsupported hbound hknown⟩⟩
  rw [languageOfFile?_join_iff hreach.distinct (mem_of_language_eq_ok hknown) halone hname, hlisted]
  constructor
  · rintro ⟨extension, hextension, hpointed, stem, hstem, rfl⟩
    refine ⟨⟨extension, hextension, suffix_iff.mpr (.inr ⟨stem, hstem, rfl⟩)⟩, extension,
      hextension, hpointed, fun hsame => hstem ?_⟩
    exact (String.append_left_inj extension).mp (hsame.trans String.empty_append.symm)
  · rintro ⟨⟨extension, hextension, hsuffix⟩, _, hsame, hpointed, hne⟩
    obtain rfl := Option.some.inj (hextension.symm.trans hsame)
    exact ⟨extension, hextension, hpointed, (suffix_iff.mp hsuffix).resolve_left hne⟩

/-! ### A directory with a note and a hidden file -/

/-- A language of notes, whose files are texts. -/
def notesLanguage : Language :=
  Language.withTextFiles { name := "notes", extension? := some ".md" }

def notesEngine : Engine := built [.addLanguage notesLanguage]

/-- Two files, one of which is called like the extension of the notes. -/
def notesEntries : Directory := [(".md", .file "x".toUTF8), ("a.md", .file "y".toUTF8)]

def notesFiles : Store := { root := [("docs", .directory notesEntries)] }

theorem list_notesFiles : notesFiles.list "docs" = .ok notesEntries := by
  simp only [Store.list, Store.entryAt, Path.check_eq]
  rfl

theorem language_notesEngine : notesEngine.language notesLanguage.name = .ok notesLanguage := rfl

theorem claimsAlone_notesLanguage : notesEngine.ClaimsAlone notesLanguage := by
  intro extension _ other hother _
  have honly : notesEngine.languages = [notesLanguage] := rfl
  rw [honly, List.mem_singleton] at hother
  rw [hother]

theorem reachable_notesEngine : notesEngine.Reachable := ⟨_, rfl⟩

theorem entryAt_notesFiles :
    ∀ e ∈ notesEntries, notesFiles.entryAt (Path.join "docs" e.1) = .ok e.2 := by
  rw [notesEntries, List.forall_mem_cons, List.forall_mem_singleton]
  constructor
  · simp only [Store.entryAt, Path.check_eq]
    rfl
  · simp only [Store.entryAt, Path.check_eq]
    rfl

theorem filesIn_beside_languageOfFile_note :
    (∃ paths, notesEngine.filesIn notesFiles "docs" (some "notes") = .ok paths ∧
        Path.join "docs" "a.md" ∈ paths) ∧
      notesEngine.languageOfFile? (Path.join "docs" "a.md") = some "notes" ∧
      notesEngine.openFile notesFiles (Path.join "docs" "a.md") = .ok ("notes", .text "y") := by
  have hmem : (("a.md", .file "y".toUTF8) : String × Entry) ∈ notesEntries := by
    simp only [notesEntries, List.mem_cons, true_or, or_true]
  have hentry : notesFiles.entryAt (Path.join "docs" "a.md") = .ok (.file "y".toUTF8) :=
    entryAt_notesFiles ("a.md", .file "y".toUTF8) hmem
  have hfile : notesFiles.isFile (Path.join "docs" "a.md") = true := by
    rw [Store.isFile, hentry]
  have hread : notesFiles.read (Path.join "docs" "a.md") = .ok "y" := by
    rw [Store.read, hentry]
    simp only [bind, Except.bind, fromUTF8?_toUTF8]
  obtain ⟨paths, hpaths, hlisted, hbound, hopen⟩ :=
    filesIn_beside_languageOfFile reachable_notesEngine language_notesEngine
      claimsAlone_notesLanguage (by decide) list_notesFiles (List.mem_map_of_mem hmem) (by decide)
      hfile
  have hpath : Path.join "docs" "a.md" ∈ paths := hlisted.mpr ⟨".md", rfl, by decide⟩
  have hnotes : notesEngine.languageOfFile? (Path.join "docs" "a.md") = some "notes" :=
    hbound.mpr ⟨hpath, ".md", rfl, ⟨"md", rfl, by decide⟩, by decide⟩
  refine ⟨⟨paths, hpaths, hpath⟩, hnotes, ((hopen hnotes).1 _ rfl).trans ?_⟩
  rw [Language.readText, hread]
  rfl

/-- The hidden file is listed for the notes and is in no language. -/
theorem not_listed_iff_bound :
    ¬∀ (engine : Engine) (files : Store) (directory : Path) (entries : Directory)
      (language : Language) (name : String), engine.Reachable →
        engine.language language.name = .ok language → engine.ClaimsAlone language →
        Text.allBlank directory = false → files.list directory = .ok entries →
        name ∈ entries.map Prod.fst → Path.IsName name →
        files.isFile (Path.join directory name) = true →
          ∃ paths, engine.filesIn files directory (some language.name) = .ok paths ∧
            (Path.join directory name ∈ paths ↔
              engine.languageOfFile? (Path.join directory name) = some language.name) := by
  intro h
  have hmem : (".md", .file "x".toUTF8) ∈ notesEntries := List.mem_cons_self
  have hfile : notesFiles.isFile (Path.join "docs" ".md") = true := by
    rw [Store.isFile, entryAt_notesFiles _ hmem]
  obtain ⟨paths, hpaths, hiff⟩ := h _ _ _ _ _ _ reachable_notesEngine language_notesEngine
    claimsAlone_notesLanguage (by decide) list_notesFiles (List.mem_map_of_mem hmem) (by decide)
    hfile
  obtain ⟨listed, hlisted, hpath⟩ :=
    filesIn_eq_ok (by decide) list_notesFiles language_notesEngine
  obtain rfl := Except.ok.inj (hlisted.symm.trans hpaths)
  have hbound := hiff.mp ((hpath _).mpr ⟨_, hmem, rfl, hfile, by decide⟩)
  have hnone : notesEngine.languageOfFile? (Path.join "docs" ".md") = none := by decide +kernel
  rw [hnone] at hbound
  cases hbound

end DocBridge.Engine
