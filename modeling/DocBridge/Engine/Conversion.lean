import DocBridge.Engine.Basic
import DocBridge.Route

/-!
# Conversions

Content is converted along a chain of languages, one converter for each step from a language to
the next. The whole chain is checked before any converter runs. Without a chain the shortest one
is taken, and of several the one over converters registered earlier.

A conversion tells which converters were run, in order, the failing one included, beside its
outcome.
-/

namespace DocBridge

structure Conversion where
  ran : List String
  outcome : Except Error Content

namespace Conversion

def failed (e : Error) : Conversion := ⟨[], .error e⟩

/-- Each converter gets what the one before it gave. The first that fails ends the conversion. -/
def run : List Converter → Content → Conversion
  | [], content => ⟨[], .ok content⟩
  | converter :: rest, content =>
    match converter.run content with
    | .error e => ⟨[converter.label], .error e⟩
    | .ok content =>
      let later := run rest content
      ⟨converter.label :: later.ran, later.outcome⟩

end Conversion

namespace Engine

/-- The shortest chain of languages. A language is converted to itself only by a converter of its
own. -/
def route (engine : Engine) (source target : String) : Except Error (List String) := do
  let _ ← engine.language source
  let _ ← engine.language target
  let chain? :=
    if source = target then
      if (source, target) ∈ engine.pairs then some [source, target] else none
    else Route.find? engine.pairs source target
  match chain? with
  | some chain => return chain
  | none => .error (.noPath source target)

/-- The converters of each step of a chain. -/
def convertersAlong (engine : Engine) : List String → Except Error (List Converter)
  | source :: target :: rest => do
    match engine.converter? (source, target) with
    | none => .error (.noPath source target)
    | some converter => return converter :: (← engine.convertersAlong (target :: rest))
  | _ => .ok []

/-- The converters of a chain, if it is one: two languages at least, all of them known, and a
converter for each step. -/
def check (engine : Engine) (chain : List String) : Except Error (List Converter) := do
  if chain.length < 2 then .error (.invalidArgument (.shortChain chain.length))
  chain.forM fun name => discard (engine.language name)
  engine.convertersAlong chain

def convert (engine : Engine) (chain : List String) (content : Content) : Conversion :=
  match engine.check chain with
  | .error e => .failed e
  | .ok converters => .run converters content

def convertTo (engine : Engine) (source target : String) (content : Content) : Conversion :=
  match engine.route source target with
  | .error e => .failed e
  | .ok chain => engine.convert chain content

end Engine

end DocBridge
