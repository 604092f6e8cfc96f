import DocBridge.Cli.Run
import DocBridge.Proofs.Except
import DocBridge.Proofs.Files.Names
import DocBridge.Proofs.Plugin.Contents
import DocBridge.Proofs.Plugin.Startup

/-!
# Sessions of commands

A command whose arguments can be read starts a session from its options and the stored files, and
its outcome is what the session comes to. The engine of a session is one of plugins, and without a
configuration it is that of the built-in ones.
-/

namespace DocBridge.Cli

theorem Session.ofPlugins_of_start {options : Options} {files : Files.Store} {input : ByteArray}
    {session : Session} (h : start options files input = .ok session) :
    session.engine.OfPlugins := by
  rw [start, bind_eq_ok_iff] at h
  obtain ⟨settings, -, h⟩ := h
  rw [bind_eq_ok_iff] at h
  obtain ⟨registry, hregistry, h⟩ := h
  rw [bind_eq_ok_iff] at h
  obtain ⟨engine, hengine, h⟩ := h
  obtain rfl := Except.ok.inj h
  rw [mapError_eq_ok_iff] at hregistry hengine
  exact Settings.ofPlugins_ofRegistry hregistry hengine

section Runs

variable {arguments : List String} {options : Options} {files after : Files.Store}
  {input : ByteArray} {session : Session} {text : String} {failure : Failure}

theorem run_of_ok (hread : readArguments arguments = .ok options)
    (hstart : Session.start options files input = .ok session)
    (hperform : session.perform = .ok (text, after)) :
    run arguments files input = ⟨0, text, [], after⟩ := by
  rw [run, hread]
  simp only [hstart, Except.bind, hperform]

theorem run_of_error (hread : readArguments arguments = .ok options)
    (hstart : Session.start options files input = .ok session)
    (hperform : session.perform = .error failure) :
    run arguments files input = ⟨1, "", failure.lines, files⟩ := by
  rw [run, hread]
  simp only [hstart, Except.bind, hperform]

theorem exists_ok_of_code (hread : readArguments arguments = .ok options)
    (hstart : Session.start options files input = .ok session)
    (hcode : (run arguments files input).code = 0) : ∃ result, session.perform = .ok result := by
  cases hperform : session.perform with
  | ok result => exact ⟨result, rfl⟩
  | error failure => simp [run_of_error hread hstart hperform] at hcode

end Runs

/-! ### Sessions without a configuration -/

/-- A store with one file in the working directory. -/
def stored (name text : String) : Files.Store where
  root := [(name, .file text.toUTF8)]

theorem read_stored {name : String} (h : Files.Path.IsName name) (text : String) :
    (stored name text).read name = .ok text :=
  Files.Store.read_name rfl h (by simp [stored, Dictionary.find?])

theorem ofValue?_toValue_default : Settings.ofValue? (Settings.toValue {}) = some {} := rfl

theorem fileText?_stored {name text : String}
    (hname : name ∉ ["podoc.toml", "podoc.toml.toml"]) :
    Config.fileText? (stored name text) "podoc.toml" = none := by
  have hmissing : ∀ other : Files.Path, other.IsName → other ≠ name →
      (stored name text).isFile other = false := by
    intro other hother hne
    have hfind : (stored name text).root.find? other = none := by
      simp [stored, Dictionary.find?, hne]
    rw [Files.Store.isFile, Files.Store.entryAt_name rfl hother, hfind]
  simp only [List.mem_cons, List.not_mem_nil, or_false, not_or] at hname
  have hextended : Files.Path.extended? "podoc.toml" ".toml" = some "podoc.toml.toml" := rfl
  rw [Config.fileText?, hmissing _ (by decide) (Ne.symm hname.1), hextended]
  simp [hmissing _ (by decide) (Ne.symm hname.2)]

theorem loadSettings_plain {options : Options} {files : Files.Store}
    (hconfig : options.config? = none) (hdirectories : options.pluginDirectories = [])
    (hfile : Config.fileText? files "podoc.toml" = none) : loadSettings options files = .ok {} := by
  have happly : Config.applyFile files (Settings.toValue {}) (.file "podoc.toml" false) =
      .ok (Settings.toValue {}) := by
    rw [Config.applyFile, hfile]
    rfl
  have hload : Settings.load files [.file "podoc.toml" false] = .ok {} := by
    rw [Settings.load, Config.assemble]
    simp only [List.foldlM_cons, List.foldlM_nil, Config.putValue, happly, bind, Except.bind, pure,
      Except.pure, List.foldl_nil, ofValue?_toValue_default]
  rw [loadSettings, hconfig, hdirectories]
  simp only [Option.toList_none, List.map_nil, hload, mapError_ok, bind, Except.bind]
  rfl

/-- A session with the default settings and the built-in plugins. -/
def Session.plain (options : Options) (engine : Engine) (files : Files.Store) : Session :=
  ⟨options, {}, .builtin, engine, files, .empty⟩

/-- Without a configuration a command works with the default settings and the built-in plugins. -/
theorem Session.start_plain {options : Options} {files : Files.Store} {engine : Engine}
    (hconfig : options.config? = none) (hdirectories : options.pluginDirectories = [])
    (hfile : Config.fileText? files "podoc.toml" = none)
    (hengine : Engine.ofRegistry .builtin = .ok engine) :
    start options files .empty = .ok (plain options engine files) := by
  have hregistry : ({} : Settings).registry files = .ok .builtin := by
    rw [Settings.registry_eq_ok rfl rfl]
    rfl
  rw [start, loadSettings_plain hconfig hdirectories hfile]
  simp only [bind, Except.bind, hregistry, mapError_ok, hengine]
  rfl

end DocBridge.Cli
