import DocBridge.Proofs.Engine.Reachable

/-!
# The history of an engine

An operation sets out to make single registrations in some order and stops at the first that is
refused; those before it are made and stay. The registrations made by a series of operations, one
operation after another, are the history of the engine that they build.

Everything an engine holds can be read off its history: its languages are those registered, its
pairs those registered first, and the converter of a pair the one registered last. What it finds by
an extension is found for good, since languages are only ever put at the end.
-/

namespace DocBridge

open Plugin

namespace Registration

/-- A single registration. -/
inductive Single where
  | language (added : Language)
  | converter (pair : String × String) (bound : Converter)

namespace Single

def program : Single → Registration Unit
  | .language added => Engine.addLanguage added
  | .converter pair bound => Engine.addConverter pair.1 pair.2 bound

def language? : Single → Option Language
  | .language added => some added
  | .converter _ _ => none

def binding? : Single → Option ((String × String) × Converter)
  | .language _ => none
  | .converter pair bound => some (pair, bound)

variable {single : Single} {engine after : Engine} {e : Error}

/-- An engine that refuses a registration is left as it was. -/
theorem eq_of_error (h : single.program.run engine = .error e after) : after = engine := by
  cases single with
  | language added =>
      by_cases hname : added.name ∈ engine.languageNames
      · rw [program, Engine.run_addLanguage_of_mem hname] at h
        simp only [EStateM.Result.error.injEq] at h
        exact h.2.symm
      · rw [program, Engine.run_addLanguage hname] at h
        simp at h
  | converter pair bound =>
      by_cases hends : pair.1 ∈ engine.languageNames ∧ pair.2 ∈ engine.languageNames
      · rw [program, Engine.run_addConverter hends.1 hends.2] at h
        simp at h
      · obtain ⟨e', hrun⟩ : ∃ e', (Engine.addConverter pair.1 pair.2 bound).run engine =
            .error e' engine := Engine.run_addConverter_of_not_mem hends
        rw [program, hrun] at h
        simp only [EStateM.Result.error.injEq] at h
        exact h.2.symm

/-- A registration that is made puts a language at the end or binds a converter. -/
theorem after_of_ok (h : single.program.run engine = .ok () after) :
    after.languages = engine.languages ++ single.language?.toList ∧
      after.pairs = Engine.addPairs (single.binding?.toList.map (·.1)) engine.pairs ∧
      after.converters = Engine.bindAll single.binding?.toList engine.converters := by
  cases single with
  | language added =>
      by_cases hname : added.name ∈ engine.languageNames
      · rw [program, Engine.run_addLanguage_of_mem hname] at h
        simp at h
      · rw [program, Engine.run_addLanguage hname] at h
        simp only [EStateM.Result.ok.injEq, true_and] at h
        subst h
        exact ⟨rfl, rfl, rfl⟩
  | converter pair bound =>
      by_cases hends : pair.1 ∈ engine.languageNames ∧ pair.2 ∈ engine.languageNames
      · rw [program, Engine.run_addConverter hends.1 hends.2] at h
        simp only [EStateM.Result.ok.injEq, true_and] at h
        subst h
        exact ⟨(List.append_nil _).symm, rfl, rfl⟩
      · obtain ⟨e', hrun⟩ : ∃ e', (Engine.addConverter pair.1 pair.2 bound).run engine =
            .error e' engine := Engine.run_addConverter_of_not_mem hends
        rw [program, hrun] at h
        simp at h

end Single

/-! ### Series of single registrations -/

/-- Single registrations one after another, up to the first that is refused. -/
def series (singles : List Single) : Registration Unit := singles.forM Single.program

/-- Those of a series of registrations that are made on an engine. -/
def accepted (engine : Engine) : List Single → List Single
  | [] => []
  | single :: rest =>
    match single.program.run engine with
    | .ok _ next => single :: accepted next rest
    | .error _ _ => []

variable {α β : Type} {engine after : Engine} {single : Single} {singles rest : List Single}
  {e : Error}

theorem series_cons (single : Single) (rest : List Single) :
    series (single :: rest) = single.program >>= fun _ => series rest := rfl

theorem series_singleton (single : Single) : series [single] = single.program := bind_pure_unit

theorem series_map (single : α → Single) (items : List α) :
    series (items.map single) = items.forM fun item => (single item).program := List.forM_map

theorem series_append (first second : List Single) :
    series (first ++ second) = series first >>= fun _ => series second := List.forM_append

theorem run_series_cons_of_ok (h : single.program.run engine = .ok () after) :
    (series (single :: rest)).run engine = (series rest).run after := by
  rw [series_cons, EStateM.run_bind, h]

theorem run_series_cons_of_error (h : single.program.run engine = .error e after) :
    (series (single :: rest)).run engine = .error e after := by
  rw [series_cons, EStateM.run_bind, h]

theorem run_series_append_of_ok (h : (series singles).run engine = .ok () after) :
    (series (singles ++ rest)).run engine = (series rest).run after := by
  rw [series_append, EStateM.run_bind, h]

/-- The registrations that are made are made without those that were refused as well. -/
theorem run_series_accepted (engine : Engine) (singles : List Single) :
    (series (accepted engine singles)).run engine = .ok () ((series singles).after engine) := by
  induction singles generalizing engine with
  | nil => rfl
  | cons single rest ih =>
      cases hrun : single.program.run engine with
      | ok a next =>
          have hrest : (series (single :: rest)).after engine = (series rest).after next := by
            rw [Registration.after, run_series_cons_of_ok hrun, Registration.after]
          rw [accepted, hrun, hrest]
          exact (run_series_cons_of_ok hrun).trans (ih next)
      | error e next =>
          obtain rfl := Single.eq_of_error hrun
          rw [accepted, hrun, Registration.after, run_series_cons_of_error hrun]
          rfl

/-- What a series of registrations leaves when all of them are made. -/
theorem after_series_of_ok (h : (series singles).run engine = .ok () after) :
    after.languages = engine.languages ++ singles.filterMap Single.language? ∧
      after.pairs =
        Engine.addPairs ((singles.filterMap Single.binding?).map (·.1)) engine.pairs ∧
      after.converters =
        Engine.bindAll (singles.filterMap Single.binding?) engine.converters := by
  induction singles generalizing engine with
  | nil =>
      obtain rfl : engine = after := by simpa [series] using h
      exact ⟨(List.append_nil _).symm, rfl, rfl⟩
  | cons single rest ih =>
      cases hrun : single.program.run engine with
      | error e next =>
          rw [run_series_cons_of_error hrun] at h
          simp at h
      | ok a next =>
          rw [run_series_cons_of_ok hrun] at h
          obtain ⟨hlanguages, hpairs, hconverters⟩ := ih h
          obtain ⟨hfirst, hadded, hbound⟩ := Single.after_of_ok hrun
          rw [hlanguages, hpairs, hconverters, hfirst, hadded, hbound]
          cases single with
          | language added => exact ⟨List.append_assoc _ _ _, rfl, rfl⟩
          | converter pair bound =>
              exact ⟨congrArg (· ++ _) (List.append_nil _), rfl, rfl⟩

theorem after_congr {first second : Registration α} (h : first.run engine = second.run engine) :
    first.after engine = second.after engine := by
  rw [Registration.after, Registration.after, h]

theorem run_bind_congr {first second : Registration α} (next : α → Registration β)
    (h : first.run engine = second.run engine) :
    (first >>= next).run engine = (second >>= next).run engine := by
  rw [EStateM.run_bind, EStateM.run_bind, h]

end Registration

open Registration

/-! ### The registrations of an operation -/

namespace Operation

/-- The language of the tree is only registered by a plugin if it is not known. -/
def treeSingles (engine : Engine) : List Single :=
  if engine.hasLanguage treeLanguage then []
  else [.language {
    name := treeLanguage, extension? := some ".ast", open? := some openTree,
    save? := some saveTree }]

/-- The registrations that an operation sets out to make, in their order. A manifest that does not
pass its check makes none. -/
def singles (engine : Engine) : Operation → List Single
  | addLanguage language => [.language language]
  | addConverter source target converter => [.converter (source, target) converter]
  | attachTree => treeSingles engine
  | attachMarkdown bullet => treeSingles engine ++ [
      .language (Language.withTextFiles { name := markdownLanguage, extension? := some ".md" }),
      .converter (markdownLanguage, treeLanguage)
        (textToTree "Markdown reader" fun text => .ok (Markdown.read text)),
      .converter (treeLanguage, markdownLanguage)
        (treeToText "Markdown writer" (Markdown.tryWrite bullet))]
  | attachPandoc version => treeSingles engine ++ [
      .language (Language.withTextFiles { name := pandocLanguage, extension? := some ".json" }),
      .converter (treeLanguage, pandocLanguage)
        (treeToText "Pandoc writer" (Pandoc.write version)),
      .converter (pandocLanguage, treeLanguage) (textToTree "Pandoc reader" Pandoc.read)]
  | attachManifest manifest =>
    match manifest.check engine with
    | .error _ => []
    | .ok () =>
      manifest.languages.map (fun declared =>
        .language (Manifest.DeclaredLanguage.language declared)) ++
      manifest.passThrough.map fun pair => .converter pair Manifest.passing

theorem run_ensureTreeLanguage (engine : Engine) :
    ensureTreeLanguage.run engine = (series (treeSingles engine)).run engine := by
  rw [ensureTreeLanguage, EStateM.run_bind, EStateM.run_get, treeSingles]
  cases hknown : engine.hasLanguage treeLanguage with
  | true =>
      simp only [hknown, Bool.not_true, Bool.false_eq_true, if_false, if_true]
      rfl
  | false =>
      simp only [hknown, Bool.not_false, Bool.false_eq_true, if_false, if_true, series_singleton]
      rfl

/-- An operation leaves what its single registrations leave. -/
theorem after_registration (operation : Operation) (engine : Engine) :
    operation.registration.after engine = (series (operation.singles engine)).after engine := by
  have htree := run_ensureTreeLanguage engine
  cases operation with
  | addLanguage language =>
      rw [singles, series_singleton]
      rfl
  | addConverter source target converter =>
      rw [singles, series_singleton]
      rfl
  | attachTree => exact after_congr htree
  | attachMarkdown bullet =>
      rw [singles, series_append, series_cons, series_cons, series_singleton]
      exact after_congr (run_bind_congr _ htree)
  | attachPandoc version =>
      rw [singles, series_append, series_cons, series_cons, series_singleton]
      exact after_congr (run_bind_congr _ htree)
  | attachManifest manifest =>
      rw [registration, singles]
      cases hcheck : manifest.check engine with
      | error e =>
          rw [Registration.after, Manifest.attach, EStateM.run_bind, EStateM.run_get]
          simp only [hcheck]
          rfl
      | ok =>
          refine after_congr ?_
          rw [Manifest.attach, EStateM.run_bind, EStateM.run_get]
          simp only [hcheck, series_append, series_map]
          rfl

end Operation

namespace Engine

/-! ### The registrations made by operations -/

/-- The registrations that operations make on an engine, those before a failure included. -/
def historyFrom (engine : Engine) : List Operation → List Single
  | [] => []
  | operation :: rest =>
    accepted engine (operation.singles engine) ++
      historyFrom (operation.registration.after engine) rest

/-- The registrations that operations make on the empty engine. -/
def history (operations : List Operation) : List Single := historyFrom .empty operations

theorem run_series_historyFrom (engine : Engine) (operations : List Operation) :
    (series (historyFrom engine operations)).run engine = .ok ()
      (operations.foldl (fun engine operation => operation.registration.after engine) engine) := by
  induction operations generalizing engine with
  | nil => rfl
  | cons operation rest ih =>
      have hfirst := run_series_accepted engine (operation.singles engine)
      rw [← operation.after_registration engine] at hfirst
      rw [historyFrom, run_series_append_of_ok hfirst]
      exact ih _

/-- Names of languages and pairs occur once. -/
structure Distinct (engine : Engine) : Prop where
  names : engine.languageNames.Nodup
  pairs : engine.pairs.Nodup

theorem distinct_addLanguage (language : Language) : Keeps Distinct (addLanguage language) := by
  refine keeps_addLanguage fun engine h hname => ⟨?_, h.pairs⟩
  rw [languageNames, List.map_append, List.map_singleton, ← List.concat_eq_append]
  exact h.names.concat hname

theorem distinct_addConverter (source target : String) (converter : Converter) :
    Keeps Distinct (addConverter source target converter) :=
  keeps_addConverter fun _ h _ _ => ⟨h.names, nodup_addPair h.pairs⟩

theorem Reachable.distinct {engine : Engine} (h : engine.Reachable) : engine.Distinct :=
  h.of_keeps distinct_addLanguage distinct_addConverter ⟨List.nodup_nil, List.nodup_nil⟩

theorem historyFrom_append (engine : Engine) (earlier later : List Operation) :
    historyFrom engine (earlier ++ later) = historyFrom engine earlier ++
      historyFrom (earlier.foldl (fun engine operation => operation.registration.after engine)
        engine) later := by
  induction earlier generalizing engine with
  | nil => rfl
  | cons operation rest ih =>
      rw [List.cons_append, historyFrom, ih, historyFrom, List.append_assoc, List.foldl_cons]

theorem languages_built (operations : List Operation) :
    (built operations).languages = (history operations).filterMap Single.language? :=
  (after_series_of_ok (run_series_historyFrom .empty operations)).1

/-- Operations only put languages at the end. -/
theorem exists_languages_eq_append (earlier later : List Operation) : ∃ added,
    (built (earlier ++ later)).languages = (built earlier).languages ++ added := by
  rw [languages_built, languages_built, history, historyFrom_append, List.filterMap_append]
  exact ⟨_, rfl⟩

/-- A series of operations holds what its history says. Made anew, the registrations of the history
give the engine again. The languages are those registered, with different names, and the pairs those
registered, each in the place where it came up first. A pair has a converter and no other has, which
is the one that was registered last for the pair, and its ends are languages. A language found by an
extension is found by it after any further operations. -/
theorem stores_of_history (operations : List Operation) :
    let engine := built operations
    let made := history operations
    (series made).run .empty = .ok () engine ∧
    engine.languages = made.filterMap Single.language? ∧
    engine.languageNames.Nodup ∧
    engine.pairs = ((made.filterMap Single.binding?).map (·.1)).eraseDups ∧
    engine.pairs.Nodup ∧
    (∀ pair, (∃ converter, engine.converter? pair = some converter) ↔ pair ∈ engine.pairs) ∧
    (∀ pair, engine.converter? pair = (made.filterMap Single.binding?).reverse.lookup pair) ∧
    (∀ pair ∈ engine.pairs, pair.1 ∈ engine.languageNames ∧ pair.2 ∈ engine.languageNames) ∧
    ∀ later extension name, engine.languageOfExtension? extension = some name →
      (built (operations ++ later)).languageOfExtension? extension = some name := by
  intro engine made
  have hreach : engine.Reachable := ⟨operations, rfl⟩
  have hmade : (series made).run .empty = .ok () engine :=
    run_series_historyFrom .empty operations
  obtain ⟨hlanguages, hadded, hconverters⟩ := after_series_of_ok hmade
  have hpairs : engine.pairs = ((made.filterMap Single.binding?).map (·.1)).eraseDups := by
    rw [hadded, addPairs_eq]
    simp [empty]
  have hlast : ∀ pair, engine.converter? pair =
      (made.filterMap Single.binding?).reverse.lookup pair := by
    intro pair
    rw [converter?, hconverters, find?_bindAll]
    exact congrArg (List.lookup pair) (List.append_nil _)
  refine ⟨hmade, hlanguages, hreach.distinct.names, hpairs, hreach.distinct.pairs, hreach.inStep,
    hlast, hreach.pairsKnown, ?_⟩
  intro later extension name hfound
  obtain ⟨added, hadded⟩ := exists_languages_eq_append operations later
  rw [languageOfExtension?, hadded, List.find?_append]
  obtain ⟨language, hlanguage, rfl⟩ := Option.map_eq_some_iff.mp hfound
  rw [hlanguage]
  rfl

end Engine

end DocBridge
