import DocBridge.Proofs.Cli.Arguments
import DocBridge.Proofs.Cli.Session
import DocBridge.Proofs.Engine.Directories
import DocBridge.Proofs.Plugin.Builtin

/-!
# Naming the language of an input

A command that is given an input file can leave its language to the extension of the file, or name
it. The file is opened by the language in the one case and read as text in the other. For a language
that opens files as their text this makes no difference, so naming the language that would be found
changes nothing. The language of the tree opens a file as the tree that is written in it. When it is
named, the text goes where the tree should, and all that comes of it is the text itself, where it is
not converted.
-/

namespace DocBridge

/-- The extension of a file is bound to a language, which opens files in this way. -/
structure Engine.Opens (engine : Engine) (path : Files.Path) (language : Language)
    (read : OpenFile) : Prop where
  bound : engine.languageOfFile? path = some language.name
  registered : engine.language language.name = .ok language
  opens : language.open? = some read

namespace Cli

open Plugin

/-- A command that succeeds with such options has not looked at its input. -/
def Options.looksAway (options : Options) : Prop :=
  options.listsPlugins ∨ options.listsLanguages ∨ options.showsRoute

namespace Session

variable {session : Session} {path : Files.Path} {language : Language} {read : OpenFile}

/-- The session with a source language named in its options. -/
def naming (session : Session) (name : String) : Session :=
  { session with options := session.options.naming name }

/-- The language of an input file is left to its extension, and it can open files. -/
structure Detects (session : Session) (path : Files.Path) (language : Language)
    (read : OpenFile) : Prop extends session.engine.Opens path language read where
  input : session.options.input? = some path
  unnamed : session.options.source? = none

theorem start_naming (options : Options) (files : Files.Store) (input : ByteArray)
    (name : String) :
    start (options.naming name) files input = (start options files input).map (·.naming name) := by
  have hload : loadSettings (options.naming name) files = loadSettings options files := rfl
  rw [start, start, hload]
  cases loadSettings options files with
  | error failure => rfl
  | ok settings =>
      simp only [bind, Except.bind]
      cases (settings.registry files).mapError Failure.loadingPlugins with
      | error failure => rfl
      | ok registry =>
          simp only
          cases (Engine.ofRegistry registry).mapError Failure.attachingPlugins <;> rfl

/-! ### The two ways to read an input -/

theorem Detects.readInput_eq (h : session.Detects path language read) :
    session.readInput =
      ((read session.files path).map (language.name, ·)).mapError (.opening path) := by
  rw [readInput, h.input, h.unnamed]
  simp only [Engine.openFile_eq h.bound h.registered h.opens]

theorem Detects.readInput_naming (h : session.Detects path language read) :
    (session.naming language.name).readInput =
      ((session.files.read path).map (language.name, .text ·)).mapError (.readingFile path) := by
  have hinput : (session.naming language.name).options.input? = some path := h.input
  have hsource : (session.naming language.name).options.source? = some language.name := rfl
  rw [readInput, hinput, hsource]
  simp only [naming]
  cases session.files.read path <;> rfl

theorem Detects.routeSource_naming (h : session.Detects path language read) :
    (session.naming language.name).routeSource = session.routeSource := by
  have hsource : (session.naming language.name).options.source? = some language.name := rfl
  rw [routeSource, routeSource, hsource, h.unnamed, h.input]
  simp only [h.bound]

/-- What becomes of an input that has been read: it is converted, and then printed or saved. -/
def deliver (session : Session) (output? : Option Files.Path) (target : String)
    (input : String × Content) : Except Failure (String × Files.Store) := do
  let converted ← session.convert input.1 target input.2
  match output? with
  | none => return (session.shown converted, session.files)
  | some path =>
    let files ←
      (session.engine.saveFile session.files path target converted).mapError (.writing path)
    return ("", files)

/-- What a command does, where its input and the route that it can show are given. -/
def performWith (session : Session) (input : Except Failure (String × Content))
    (route : String → Except Failure String) : Except Failure (String × Files.Store) :=
  if session.options.listsPlugins then .ok (session.pluginList, session.files)
  else if session.options.listsLanguages then .ok (session.languageList, session.files)
  else if session.options.inspecting then input >>= session.deliver none treeLanguage
  else session.target >>= fun target =>
    if session.options.showsRoute then (route target).map (·, session.files)
    else input >>= session.deliver session.options.output? target

theorem perform_eq (session : Session) :
    session.perform = session.performWith session.readInput session.showRoute := by
  have hinspect : (do return (← session.inspect, session.files)) =
      session.readInput >>= session.deliver none treeLanguage := by
    rw [inspect]
    cases session.readInput with
    | error failure => rfl
    | ok input =>
        simp only [bind, Except.bind, deliver]
        cases session.convert input.1 treeLanguage input.2 <;> rfl
  rw [performWith, ← hinspect]
  rfl

/-- A command does not look at its input, because it fails before or is asked for something else, or
it delivers what it has read. -/
theorem performWith_cases (session : Session) (route : String → Except Failure String) :
    (∃ result, (∀ input, session.performWith input route = result) ∧
      (result.isOk → session.options.looksAway)) ∨
      ∃ output? target, ∀ input,
        session.performWith input route = input >>= session.deliver output? target := by
  rw [Options.looksAway]
  by_cases hplugins : session.options.listsPlugins
  · exact .inl ⟨_, fun _ => if_pos hplugins, fun _ => .inl hplugins⟩
  by_cases hlanguages : session.options.listsLanguages
  · exact .inl ⟨_, fun _ => (if_neg hplugins).trans (if_pos hlanguages),
      fun _ => .inr (.inl hlanguages)⟩
  simp only [performWith, if_neg hplugins, if_neg hlanguages]
  by_cases hinspecting : session.options.inspecting
  · exact .inr ⟨none, treeLanguage, fun _ => if_pos hinspecting⟩
  simp only [if_neg hinspecting]
  cases session.target with
  | error failure => exact .inl ⟨.error failure, fun _ => rfl, nofun⟩
  | ok target =>
      by_cases hroute : session.options.showsRoute
      · exact .inl ⟨_, fun _ => if_pos hroute, fun _ => .inr (.inr hroute)⟩
      · exact .inr ⟨session.options.output?, target, fun _ => if_neg hroute⟩

section Delivers

variable {input : String × Content} {target : String}

theorem perform_of_inspecting (hplugins : session.options.listsPlugins = false)
    (hlanguages : session.options.listsLanguages = false)
    (hinspecting : session.options.inspecting = true) (hread : session.readInput = .ok input) :
    session.perform = session.deliver none treeLanguage input := by
  rw [perform_eq, performWith, hplugins, hlanguages, hinspecting, hread]
  rfl

theorem perform_of_target (hplugins : session.options.listsPlugins = false)
    (hlanguages : session.options.listsLanguages = false)
    (hinspecting : session.options.inspecting = false)
    (hroute : session.options.showsRoute = false) (htarget : session.target = .ok target)
    (hread : session.readInput = .ok input) :
    session.perform = session.deliver session.options.output? target input := by
  rw [perform_eq, performWith, hplugins, hlanguages, hinspecting, htarget, hroute, hread]
  rfl

end Delivers

/-- Only the way to read the input changes when the language that is found is named. -/
theorem Detects.perform_naming (h : session.Detects path language read) :
    (session.naming language.name).perform =
      session.performWith (session.naming language.name).readInput session.showRoute := by
  have hroute : (session.naming language.name).showRoute = session.showRoute := by
    funext target
    rw [showRoute, showRoute, h.routeSource_naming]
    rfl
  rw [perform_eq, hroute]
  rfl

/-! ### Languages of text -/

theorem Detects.toOption_readInput_naming (h : session.Detects path language read)
    (htext : read.ReadsText) :
    (session.naming language.name).readInput.toOption = session.readInput.toOption := by
  have hread := htext session.files path
  rw [h.readInput_eq, h.readInput_naming, toOption_mapError, toOption_mapError, toOption_map,
    toOption_map, hread, Option.map_map]
  rfl

theorem Detects.toOption_perform_naming (h : session.Detects path language read)
    (htext : read.ReadsText) :
    (session.naming language.name).perform.toOption = session.perform.toOption := by
  rw [h.perform_naming, perform_eq]
  obtain ⟨result, hresult, -⟩ | ⟨output?, target, hresult⟩ :=
    session.performWith_cases session.showRoute
  · rw [hresult, hresult]
  · rw [hresult, hresult, toOption_bind, toOption_bind, h.toOption_readInput_naming htext]

/-! ### The language of the tree -/

/-- If a text and the tree that it stands for can both be delivered, then both are printed. -/
theorem deliver_text_or_tree (hengine : session.engine.OfPlugins)
    (hregistered : session.engine.language language.name = .ok language)
    (hsave : language.save? = some saveTree) {output? : Option Files.Path} {target s : String}
    {root : Node} {first second : String × Files.Store}
    (htree : session.deliver output? target (language.name, .tree root) = .ok first)
    (htext : session.deliver output? target (language.name, .text s) = .ok second) :
    first = (root.diagram session.settings.diagramLimit ++ "\n", session.files) ∧
      second = (s, session.files) := by
  rw [deliver, bind_eq_ok_iff] at htree htext
  obtain ⟨converted, htree, hfirst⟩ := htree
  obtain ⟨other, htext, hsecond⟩ := htext
  rw [convert] at htree htext
  by_cases htarget : language.name = target
  · rw [if_pos htarget] at htree htext
    obtain rfl := Except.ok.inj htree
    obtain rfl := Except.ok.inj htext
    cases output? with
    | none => exact ⟨(Except.ok.inj hfirst).symm, (Except.ok.inj hsecond).symm⟩
    | some path =>
        subst htarget
        simp [Engine.saveFile, hregistered, hsave, saveTree, Content.intoTree, bind, Except.bind,
          mapError_error] at hsecond
  · rw [if_neg htarget, mapError_eq_ok_iff] at htree htext
    obtain ⟨e, herror | herror⟩ := hengine.convertTo_eq_error language.name target s root
    · simp [htext] at herror
    · simp [htree] at herror

/-- Where the language of the tree is named and where it is found, a command succeeds in both cases
only if it does not look at its input, or if it prints the text of the file in the one case and the
tree in the other. -/
theorem Detects.perform_naming_tree (h : session.Detects path language openTree)
    (hengine : session.engine.OfPlugins) (hsave : language.save? = some saveTree)
    {detected told : String × Files.Store} (hdetected : session.perform = .ok detected)
    (htold : (session.naming language.name).perform = .ok told) :
    session.options.looksAway ∧ told = detected ∨
      ∃ text root, session.files.read path = .ok text ∧
        openTree session.files path = .ok (.tree root) ∧
        detected = (root.diagram session.settings.diagramLimit ++ "\n", session.files) ∧
        told = (text, session.files) := by
  -- Both commands are one with two inputs, which they deliver in the same way if they read them.
  rw [perform_eq] at hdetected
  rw [h.perform_naming] at htold
  obtain ⟨result, hresult, haway⟩ | ⟨output?, target, hresult⟩ :=
    session.performWith_cases session.showRoute
  · rw [hresult] at hdetected htold
    subst hdetected
    exact .inl ⟨haway rfl, (Except.ok.inj htold).symm⟩
  · rw [hresult, bind_eq_ok_iff] at hdetected htold
    obtain ⟨input, hinput, hdetected⟩ := hdetected
    obtain ⟨input', hinput', htold⟩ := htold
    rw [h.readInput_eq, mapError_eq_ok_iff] at hinput
    rw [h.readInput_naming, mapError_eq_ok_iff] at hinput'
    cases hopen : openTree session.files path with
    | error e => simp [hopen, Except.map] at hinput
    | ok content =>
        obtain ⟨text, root, hread, rfl⟩ := exists_of_openTree hopen
        obtain rfl : (language.name, .tree root) = input := by
          simpa [hopen, Except.map] using hinput
        obtain rfl : (language.name, .text text) = input' := by
          simpa [hread, Except.map] using hinput'
        exact .inr ⟨text, root, hread, rfl,
          deliver_text_or_tree hengine h.registered hsave hdetected htold⟩

end Session

/-! ### Whole commands -/

/-- Two commands whose sessions come to the same end differ in what they report at most. -/
theorem run_eq_of_toOption_eq {arguments named : List String} {options options' : Options}
    {files : Files.Store} {input : ByteArray} {session session' : Session}
    (hread : readArguments arguments = .ok options)
    (hstart : Session.start options files input = .ok session)
    (hnamed : readArguments named = .ok options')
    (hstart' : Session.start options' files input = .ok session')
    (h : session'.perform.toOption = session.perform.toOption) :
    run named files input =
      { run arguments files input with report := (run named files input).report } := by
  cases hdetected : session.perform with
  | ok result =>
      cases htold : session'.perform with
      | ok result' =>
          rw [hdetected, htold] at h
          obtain rfl := Option.some.inj h
          rw [run_of_ok hread hstart hdetected, run_of_ok hnamed hstart' htold]
      | error failure => simp [hdetected, htold, Except.toOption] at h
  | error failure =>
      cases htold : session'.perform with
      | ok result' => simp [hdetected, htold, Except.toOption] at h
      | error failure' =>
          rw [run_of_error hread hstart hdetected, run_of_error hnamed hstart' htold]

theorem not_readsText_openTree : ¬ OpenFile.ReadsText openTree := by
  intro h
  have hread : (stored "a" "").read "a" = .ok "" := read_stored (by decide) ""
  have hopen := h (stored "a" "") "a"
  rw [hread] at hopen
  cases hcontent : openTree (stored "a" "") "a" with
  | error e => simp [hcontent, Except.toOption] at hopen
  | ok content =>
      obtain ⟨text, root, -, rfl⟩ := exists_of_openTree hcontent
      simp [hcontent, Except.toOption] at hopen

/-! ### Stored trees -/

namespace Session

variable {session : Session} {bullet : Char} {version : Pandoc.Version}

/-- Content of the target language is not converted. -/
theorem deliver_self (session : Session) (target : String) (content : Content) :
    session.deliver none target (target, content) =
      .ok (session.shown content, session.files) := by
  rw [deliver, convert, if_pos rfl]
  rfl

theorem deliver_markdown_tree (h : session.engine.IsBuiltin bullet version) (root : Node) :
    session.deliver none markdownLanguage (treeLanguage, .tree root) =
      .ok (Markdown.write bullet root, session.files) := by
  rw [deliver, convert, if_neg (show treeLanguage ≠ markdownLanguage by decide),
    h.convertTo_markdown_of_tree, Conversion.run_markdown_writer]
  rfl

theorem deliver_markdown_text (h : session.engine.IsBuiltin bullet version) (s : String) :
    session.deliver none markdownLanguage (treeLanguage, .text s) =
      .error (.conversion (.unexpectedContent .tree .text)) := by
  rw [deliver, convert, if_neg (show treeLanguage ≠ markdownLanguage by decide),
    h.convertTo_markdown_of_tree]
  rfl

end Session

/-- The built-in plugins bind the extensions of trees and of Markdown. -/
theorem exists_builtin_opens : ∃ engine tree markdown read,
    Engine.ofRegistry .builtin = .ok engine ∧
      engine.IsBuiltin Markdown.defaultBullet Pandoc.defaultVersion ∧
      tree.name = treeLanguage ∧ engine.Opens "doc.ast" tree openTree ∧
      markdown.name = markdownLanguage ∧ engine.Opens "doc.md" markdown read :=
  ⟨_, _, _, _, rfl, ⟨rfl, rfl, rfl⟩, rfl, ⟨rfl, rfl, rfl⟩, rfl, ⟨rfl, rfl, rfl⟩⟩

/-- A tree with one paragraph. -/
def hello : Node := Kind.root.node [.node Kind.para.name ∅ [.text "hello"]]

/-- The text of the tree in a file. -/
def savedHello : String :=
  "\x7b\"name\":\"root\",\"children\":[\x7b\"name\":\"Para\",\"children\":[\"hello\"]\x7d]\x7d"

theorem openTree_savedHello :
    openTree (stored "doc.ast" savedHello) "doc.ast" = .ok (.tree hello) := by
  have hvalue : Json.read? Json.documentDepth savedHello = some (.object [
      ("children", .array [.object [("children", .array [.string "hello"]),
        ("name", .string "Para")]]), ("name", .string "root")]) := rfl
  rw [openTree, Language.readText, read_stored (by decide)]
  simp only [mapError_ok, bind, Except.bind, hvalue]
  rfl

/-- A session with the stored tree as its input. -/
def helloSession (options : Options) (engine : Engine) : Session :=
  .plain options engine (stored "doc.ast" savedHello)

def inspectingHello : Options := { inspecting := true, input? := some "doc.ast" }

def convertingHello : Options := { input? := some "doc.ast", target? := some markdownLanguage }

theorem not_looksAway_inspectingHello : ¬ inspectingHello.looksAway := by
  rw [Options.looksAway]
  decide

section Hello

variable {options : Options} {engine : Engine} {language : Language}

theorem start_hello (hengine : Engine.ofRegistry .builtin = .ok engine)
    (hconfig : options.config? = none) (hdirectories : options.pluginDirectories = []) :
    Session.start options (stored "doc.ast" savedHello) .empty =
      .ok (helloSession options engine) :=
  Session.start_plain hconfig hdirectories (fileText?_stored (by decide)) hengine

/-- The tree is read where its language is found, and its text where the language is named. -/
theorem readInput_hello (h : (helloSession options engine).Detects "doc.ast" language openTree)
    (hname : language.name = treeLanguage) :
    (helloSession options engine).readInput = .ok (treeLanguage, .tree hello) ∧
      (helloSession (options.naming treeLanguage) engine).readInput =
        .ok (treeLanguage, .text savedHello) := by
  have hfiles : (helloSession options engine).files = stored "doc.ast" savedHello := rfl
  have hnaming : helloSession (options.naming treeLanguage) engine =
      (helloSession options engine).naming language.name := by
    rw [hname]
    rfl
  rw [h.readInput_eq, hnaming, h.readInput_naming, hfiles, openTree_savedHello,
    read_stored (by decide), hname]
  exact ⟨rfl, rfl⟩

theorem perform_inspectingHello (hopens : engine.Opens "doc.ast" language openTree)
    (hname : language.name = treeLanguage) :
    (helloSession inspectingHello engine).perform =
        .ok (hello.diagram Diagram.defaultLimit ++ "\n", stored "doc.ast" savedHello) ∧
      (helloSession (inspectingHello.naming treeLanguage) engine).perform =
        .ok (savedHello, stored "doc.ast" savedHello) := by
  obtain ⟨htree, htext⟩ := @readInput_hello inspectingHello _ _ ⟨hopens, rfl, rfl⟩ hname
  rw [Session.perform_of_inspecting rfl rfl rfl htree, Session.deliver_self,
    Session.perform_of_inspecting rfl rfl rfl htext, Session.deliver_self]
  exact ⟨rfl, rfl⟩

theorem perform_convertingHello
    (h : engine.IsBuiltin Markdown.defaultBullet Pandoc.defaultVersion)
    (hopens : engine.Opens "doc.ast" language openTree) (hname : language.name = treeLanguage) :
    (helloSession convertingHello engine).perform =
        .ok ("hello", stored "doc.ast" savedHello) ∧
      (helloSession (convertingHello.naming treeLanguage) engine).perform =
        .error (.conversion (.unexpectedContent .tree .text)) := by
  have hmarkdown : Markdown.write Markdown.defaultBullet hello = "hello" := by decide +kernel
  obtain ⟨htree, htext⟩ := @readInput_hello convertingHello _ _ ⟨hopens, rfl, rfl⟩ hname
  constructor
  · rw [Session.perform_of_target rfl rfl rfl rfl rfl htree, ← hmarkdown]
    exact Session.deliver_markdown_tree h hello
  · rw [Session.perform_of_target rfl rfl rfl rfl rfl htext]
    exact Session.deliver_markdown_text h savedHello

end Hello

/-- A language that is found for an input and opens files as their text can as well be named, in
every engine. In the engine of a command this is so for every language but that of the tree. With
that one found in one command and named in another, both succeed only if neither looks at the input,
or if the one prints the tree and the other the text of the file. -/
theorem run_naming_found {session : Session} {path : Files.Path} {language : Language}
    {read : OpenFile} (h : session.Detects path language read) :
    (read.ReadsText →
      (session.naming language.name).perform.toOption = session.perform.toOption) ∧
    ∀ arguments named input, readArguments arguments = .ok session.options →
      readArguments named = .ok (session.options.naming language.name) →
      Session.start session.options session.files input = .ok session →
      let found := run arguments session.files input
      let told := run named session.files input
      (read ≠ openTree → told = { found with report := told.report }) ∧
      (read = openTree → language.name = treeLanguage ∧ (found.code = 0 → told.code = 0 →
        session.options.looksAway ∧ told = found ∨
        ∃ text root, session.files.read path = .ok text ∧
          openTree session.files path = .ok (.tree root) ∧
          found = ⟨0, root.diagram session.settings.diagramLimit ++ "\n", [], session.files⟩ ∧
          told = ⟨0, text, [], session.files⟩)) := by
  refine ⟨h.toOption_perform_naming, ?_⟩
  intro arguments named input hread hnamed hstart
  have hstart' : Session.start (session.options.naming language.name) session.files input =
      .ok (session.naming language.name) := by
    rw [Session.start_naming, hstart]
    rfl
  have hengine := Session.ofPlugins_of_start hstart
  have hlanguage := hengine.language language (Engine.mem_of_language_eq_ok h.registered)
  obtain htext | ⟨hname, rfl, hsave⟩ := hlanguage.readsText_or h.opens
  · refine ⟨fun _ => ?_, fun htree => absurd (htree ▸ htext) not_readsText_openTree⟩
    exact run_eq_of_toOption_eq hread hstart hnamed hstart' (h.toOption_perform_naming htext)
  · refine ⟨fun hother => absurd rfl hother, fun _ => ⟨hname, fun hfound htold => ?_⟩⟩
    obtain ⟨first, hfirst⟩ := exists_ok_of_code hread hstart hfound
    obtain ⟨second, hsecond⟩ := exists_ok_of_code hnamed hstart' htold
    have hrun := run_of_ok hread hstart hfirst
    have hrun' := run_of_ok hnamed hstart' hsecond
    obtain ⟨haway, rfl⟩ | ⟨text, root, hfile, hopen, rfl, rfl⟩ :=
      h.perform_naming_tree hengine hsave hfirst hsecond
    · exact .inl ⟨haway, hrun'.trans hrun.symm⟩
    · exact .inr ⟨text, root, hfile, hopen, hrun, hrun'⟩

theorem run_naming_found_hello :
    let notes := stored "doc.md" "hello"
    let trees := stored "doc.ast" savedHello
    (∃ session : Session, session.options.input? = some "doc.md" ∧ session.files = notes ∧
      (session.naming "markdown").perform.toOption = session.perform.toOption) ∧
    (let found := run ["doc.md", "--to", "pandoc"] notes .empty
      let told := run ["doc.md", "--to", "pandoc", "--from", "markdown"] notes .empty
      told = { found with report := told.report }) ∧
    let found := run ["inspect", "doc.ast"] trees .empty
    let told := run ["inspect", "doc.ast", "--from", "ast"] trees .empty
    found.code = 0 ∧ told.code = 0 ∧ ∃ text root, trees.read "doc.ast" = .ok text ∧
      openTree trees "doc.ast" = .ok (.tree root) ∧
      found = ⟨0, root.diagram Diagram.defaultLimit ++ "\n", [], trees⟩ ∧
      told = ⟨0, text, [], trees⟩ := by
  intro notes trees
  obtain ⟨engine, tree, markdown, read, hengine, -, hname, hopens, hname', hopens'⟩ :=
    exists_builtin_opens
  have hmarkdown : markdown.name ≠ treeLanguage := by
    rw [hname']
    decide
  let options : Options := { input? := some "doc.md", target? := some pandocLanguage }
  have hstart : Session.start options notes .empty = .ok (.plain options engine notes) :=
    Session.start_plain rfl rfl (fileText?_stored (by decide)) hengine
  have hdetects : (Session.plain options engine notes).Detects "doc.md" markdown read :=
    ⟨hopens', rfl, rfl⟩
  have hread : readArguments ["doc.md", "--to", "pandoc"] = .ok options := by decide +kernel
  have hnamed : readArguments ["doc.md", "--to", "pandoc", "--from", "markdown"] =
      .ok (options.naming markdown.name) := by
    rw [hname']
    exact Options.readAll_append_from (by decide) (by decide) hread rfl
  have htext : read.ReadsText := by
    have hmem := Engine.mem_of_language_eq_ok hopens'.registered
    have hlanguage := (Session.ofPlugins_of_start hstart).language markdown hmem
    exact (hlanguage.readsText_or hopens'.opens).resolve_right fun h => hmarkdown h.1
  have hother : read ≠ openTree := fun h => not_readsText_openTree (h ▸ htext)
  refine ⟨⟨.plain options engine notes, rfl, rfl, ?_⟩, ?_, ?_⟩
  · have hperform := (run_naming_found hdetects).1 htext
    rwa [hname'] at hperform
  · exact ((run_naming_found hdetects).2 _ _ _ hread hnamed hstart).1 hother
  · intro found told
    obtain ⟨hperform, hperform'⟩ := perform_inspectingHello hopens hname
    have hread : readArguments ["inspect", "doc.ast"] = .ok inspectingHello := by decide +kernel
    have hnamed : readArguments ["inspect", "doc.ast", "--from", "ast"] =
        .ok (inspectingHello.naming tree.name) := by
      rw [hname]
      exact Options.readAll_append_from (by decide) (by decide) hread rfl
    have hstart := @start_hello inspectingHello _ hengine rfl rfl
    have hfound : found.code = 0 := congrArg Outcome.code (run_of_ok hread hstart hperform)
    have htold : told.code = 0 := congrArg Outcome.code
      (run_of_ok (hname ▸ hnamed) (start_hello hengine rfl rfl) hperform')
    have hdetects : (helloSession inspectingHello engine).Detects "doc.ast" tree openTree :=
      ⟨hopens, rfl, rfl⟩
    obtain ⟨-, htree⟩ := (run_naming_found hdetects).2 _ _ _ hread hnamed hstart
    obtain ⟨haway, -⟩ | hprinted := (htree rfl).2 hfound htold
    · exact absurd haway not_looksAway_inspectingHello
    · exact ⟨hfound, htold, hprinted⟩

/-- The language of the tree is found for a file and named for the same file: the tree is converted
in the one command, and its text cannot be converted in the other. An inspection prints the tree in
the one command and its text in the other. -/
theorem not_run_naming_tree :
    let files := stored "doc.ast" savedHello
    (∃ session language, Session.start { input? := some "doc.ast" } files .empty = .ok session ∧
      session.Detects "doc.ast" language openTree ∧ language.name = "ast") ∧
    run ["doc.ast", "--to", "markdown"] files .empty = ⟨0, "hello", [], files⟩ ∧
    run ["doc.ast", "--from", "ast", "--to", "markdown"] files .empty =
      ⟨1, "", ["Conversion error: Expected tree content, found text"], files⟩ ∧
    run ["inspect", "doc.ast"] files .empty = ⟨0, "root\n└─ Para\n   └─ hello\n", [], files⟩ ∧
    run ["inspect", "doc.ast", "--from", "ast"] files .empty = ⟨0, savedHello, [], files⟩ := by
  intro files
  obtain ⟨engine, tree, -, -, hengine, hbuiltin, hname, hopens, -, -⟩ := exists_builtin_opens
  have hdiagram : hello.diagram Diagram.defaultLimit ++ "\n" =
      "root\n└─ Para\n   └─ hello\n" := by decide +kernel
  have hreport : (Failure.conversion (.unexpectedContent .tree .text)).lines =
      ["Conversion error: Expected tree content, found text"] := by decide +kernel
  obtain ⟨hconverted, hrefused⟩ := perform_convertingHello hbuiltin hopens hname
  obtain ⟨hfound, htold⟩ := perform_inspectingHello hopens hname
  refine ⟨⟨_, tree, start_hello hengine rfl rfl, ⟨hopens, rfl, rfl⟩, hname⟩, ?_, ?_, ?_, ?_⟩
  · exact run_of_ok (by decide +kernel) (start_hello hengine rfl rfl) hconverted
  · rw [← hreport]
    exact run_of_error (by decide +kernel) (start_hello hengine rfl rfl) hrefused
  · rw [← hdiagram]
    exact run_of_ok (by decide +kernel) (start_hello hengine rfl rfl) hfound
  · exact run_of_ok (by decide +kernel) (start_hello hengine rfl rfl) htold

end Cli

end DocBridge
