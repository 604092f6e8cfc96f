/-!
# Arguments

The command line converts a document, or with `inspect` as its first argument shows the tree of
one. Flags may stand before and after the input; `inspect` may have no argument before it. A flag
that takes a value takes it from its own argument, after an equals sign or right after its letter,
or else from the next argument, which then cannot look like a flag. Only plugin directories may be
given more than once. After `--` every argument is an input.
-/

namespace DocBridge.Cli

inductive Parameter where
  | source
  | target
  | output
  | config
  | pluginDirectory
deriving DecidableEq, Repr

inductive Switch where
  | showRoute
  | listLanguages
  | listPlugins
  | debug
  | version
  | help
deriving DecidableEq, Repr

inductive Flag where
  | takes (parameter : Parameter)
  | sets (switch : Switch)
deriving DecidableEq, Repr

structure Options where
  inspecting : Bool := false
  input? : Option String := none
  source? : Option String := none
  target? : Option String := none
  output? : Option String := none
  config? : Option String := none
  pluginDirectories : List String := []
  showsRoute : Bool := false
  listsLanguages : Bool := false
  listsPlugins : Bool := false
  /-- Asks for a log beside the results, on which nothing in them depends. -/
  debugs : Bool := false
deriving DecidableEq, Repr

/-- What can come of arguments other than options to run with. -/
inductive Stop where
  | version
  | help
  | misuse
deriving DecidableEq, Repr

namespace Flag

/-- The flags of a long name. Some are known to conversions only. -/
def ofName? (inspecting : Bool) (name : String) : Option Flag :=
  match name with
  | "from" => some (.takes .source)
  | "config" => some (.takes .config)
  | "plugin-dir" => some (.takes .pluginDirectory)
  | "debug" => some (.sets .debug)
  | "help" => some (.sets .help)
  | _ =>
    if inspecting then none
    else
      match name with
      | "to" => some (.takes .target)
      | "output" => some (.takes .output)
      | "show-path" => some (.sets .showRoute)
      | "list-languages" => some (.sets .listLanguages)
      | "list-plugins" => some (.sets .listPlugins)
      | "version" => some (.sets .version)
      | _ => none

def ofLetter? (inspecting : Bool) (letter : Char) : Option Flag :=
  match letter with
  | 'f' => ofName? inspecting "from"
  | 't' => ofName? inspecting "to"
  | 'o' => ofName? inspecting "output"
  | 'h' => ofName? inspecting "help"
  | 'V' => ofName? inspecting "version"
  | _ => none

end Flag

namespace Options

/-- Whether a document is taken from standard input. -/
def readsInput (options : Options) : Bool :=
  options.input?.isNone && options.source?.isSome &&
    !(options.showsRoute || options.listsLanguages || options.listsPlugins)

/-- A value in a place that has none yet. -/
def once (value : String) : Option String → Except Stop (Option String)
  | none => .ok (some value)
  | some _ => .error .misuse

def assign (options : Options) (parameter : Parameter) (value : String) : Except Stop Options := do
  match parameter with
  | .source => return { options with source? := ← once value options.source? }
  | .target => return { options with target? := ← once value options.target? }
  | .output => return { options with output? := ← once value options.output? }
  | .config => return { options with config? := ← once value options.config? }
  | .pluginDirectory =>
    return { options with pluginDirectories := options.pluginDirectories ++ [value] }

def turnOn (options : Options) (switch : Switch) : Except Stop Options :=
  let once (isOn : Bool) (options : Options) : Except Stop Options :=
    if isOn then .error .misuse else .ok options
  match switch with
  | .showRoute => once options.showsRoute { options with showsRoute := true }
  | .listLanguages => once options.listsLanguages { options with listsLanguages := true }
  | .listPlugins => once options.listsPlugins { options with listsPlugins := true }
  | .debug => once options.debugs { options with debugs := true }
  | .version => .error .version
  | .help => .error .help

def addInput (options : Options) (value : String) : Except Stop Options := do
  return { options with input? := ← once value options.input? }

/-- The options after a long flag, and the parameter whose value the next argument has to give. -/
def readLong (options : Options) (flag : List Char) :
    Except Stop (Options × Option Parameter) := do
  let name := String.ofList (flag.takeWhile (· ≠ '='))
  let value? := match flag.dropWhile (· ≠ '=') with
    | '=' :: value => some (String.ofList value)
    | _ => none
  match Flag.ofName? options.inspecting name, value? with
  | some (.takes parameter), some value => return (← options.assign parameter value, none)
  | some (.takes parameter), none => return (options, some parameter)
  | some (.sets switch), none => return (← options.turnOn switch, none)
  | _, _ => .error .misuse

/-- The same for letters behind one dash. -/
def readLetters (options : Options) : List Char → Except Stop (Options × Option Parameter)
  | [] => .ok (options, none)
  | letter :: rest =>
    match Flag.ofLetter? options.inspecting letter, rest with
    | some (.sets switch), rest => do (← options.turnOn switch).readLetters rest
    | some (.takes parameter), [] => .ok (options, some parameter)
    | some (.takes parameter), '=' :: value => do
      return (← options.assign parameter (String.ofList value), none)
    | some (.takes parameter), value => do
      return (← options.assign parameter (String.ofList value), none)
    | none, _ => .error .misuse

/-- The options after an argument, if that looks like a flag. -/
def readFlag? (options : Options) (argument : String) :
    Option (Except Stop (Options × Option Parameter)) :=
  match argument.toList with
  | '-' :: '-' :: flag => some (options.readLong flag)
  | '-' :: letter :: letters => some (options.readLetters (letter :: letters))
  | _ => none

def looksLikeFlag (argument : String) : Bool :=
  match argument.toList with
  | '-' :: _ :: _ => true
  | _ => false

/-- An inspection needs an input. -/
def finish (options : Options) : Except Stop Options :=
  if options.inspecting && options.input?.isNone then .error .misuse else .ok options

/-- The options after all arguments, the first of which is the value of a parameter if one waits for
it. Only the first argument of a command can say what is asked for. -/
def readAll (options : Options) (isFirst : Bool) (waiting? : Option Parameter) :
    List String → Except Stop Options
  | [] => if waiting?.isSome then .error .misuse else options.finish
  | argument :: rest =>
    match waiting? with
    | some parameter =>
      if looksLikeFlag argument then .error .misuse
      else do readAll (← options.assign parameter argument) false none rest
    | none =>
      if isFirst && argument = "inspect" then
        readAll { options with inspecting := true } false none rest
      else if isFirst && argument = "help" then
        .error (if rest ∈ [[], ["help"], ["inspect"]] then .help else .misuse)
      else if argument = "--" then do (← rest.foldlM addInput options).finish
      else
        match options.readFlag? argument with
        | none => do readAll (← options.addInput argument) false none rest
        | some read => do
          let (options, waiting?) ← read
          readAll options false waiting? rest

end Options

def readArguments (arguments : List String) : Except Stop Options :=
  Options.readAll {} true none arguments

end DocBridge.Cli
