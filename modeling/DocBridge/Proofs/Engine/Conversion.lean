import DocBridge.Engine.Conversion
import DocBridge.Proofs.Engine.Reachable
import DocBridge.Proofs.Except
import DocBridge.Proofs.Route.Shortest

/-!
# Routes that can be converted along

A route is looked for among the pairs of an engine, and a conversion along it asks for registered
languages and for a converter for each hop. Every hop of a route is a pair. In an engine that can be
reached both ends of a pair are registered and the pair has a converter, so a route that is found is
never refused. What can still fail is a converter on the way.

The search gives the single vertex for a route from a language to itself. It is not asked then,
since such a route is one over a pair of its own.
-/

namespace DocBridge

theorem Conversion.exists_error_of_run {converters : List Converter} {content : Content}
    {e : Error} (h : (run converters content).outcome = .error e) :
    ∃ converter ∈ converters, ∃ input, converter.run input = .error e := by
  induction converters generalizing content with
  | nil => simp [run] at h
  | cons converter rest ih =>
      rw [run] at h
      cases hrun : converter.run content with
      | error e' =>
          obtain rfl : e' = e := by simpa [hrun] using h
          exact ⟨converter, List.mem_cons_self, content, hrun⟩
      | ok next =>
          rw [hrun] at h
          obtain ⟨failing, hmem, hfails⟩ := ih h
          exact ⟨failing, List.mem_cons_of_mem _ hmem, hfails⟩

namespace Engine

open Route

variable {engine : Engine} {source target : String} {chain : List String}

/-! ### The validation of a chain -/

theorem map_some_of_convertersAlong {converters : List Converter}
    (h : engine.convertersAlong chain = .ok converters) :
    converters.map some = (hops chain).map engine.converter? := by
  induction chain generalizing converters with
  | nil =>
      obtain rfl := Except.ok.inj h
      rfl
  | cons first rest ih =>
      cases rest with
      | nil =>
          obtain rfl := Except.ok.inj h
          rfl
      | cons second rest =>
          have hhops : hops (first :: second :: rest) =
              (first, second) :: hops (second :: rest) := rfl
          rw [convertersAlong] at h
          cases hconverter : engine.converter? (first, second) with
          | none => simp [hconverter] at h
          | some converter =>
              simp only [hconverter] at h
              obtain ⟨later, hlater, heq⟩ := bind_eq_ok_iff.mp h
              obtain rfl := Except.ok.inj heq
              rw [hhops, List.map_cons, List.map_cons, hconverter, ih hlater]

/-- Where pairs and converters are in step, a chain of pairs has its converters. -/
theorem InStep.exists_convertersAlong (hstep : engine.InStep) (h : hops chain ⊆ engine.pairs) :
    ∃ converters, engine.convertersAlong chain = .ok converters := by
  induction chain with
  | nil => exact ⟨[], rfl⟩
  | cons first rest ih =>
      cases rest with
      | nil => exact ⟨[], rfl⟩
      | cons second rest =>
          have hhops : hops (first :: second :: rest) =
              (first, second) :: hops (second :: rest) := rfl
          rw [hhops, List.cons_subset] at h
          obtain ⟨converter, hconverter⟩ := (hstep _).mpr h.1
          obtain ⟨converters, hconverters⟩ := ih h.2
          refine ⟨converter :: converters, ?_⟩
          rw [convertersAlong, hconverter, hconverters]
          rfl

theorem forM_language_eq_ok (h : ∀ name ∈ chain, name ∈ engine.languageNames) :
    (chain.forM fun name => discard (engine.language name)) = .ok () := by
  induction chain with
  | nil => rfl
  | cons name rest ih =>
      obtain ⟨language, hlanguage⟩ := exists_language_eq_ok (h name List.mem_cons_self)
      have hrest := ih fun later hlater => h later (List.mem_cons_of_mem _ hlater)
      change (discard (engine.language name) >>= fun _ =>
        rest.forM fun name => discard (engine.language name)) = .ok ()
      rw [hlanguage, hrest]
      rfl

theorem check_eq_convertersAlong (hlength : 2 ≤ chain.length)
    (hknown : ∀ name ∈ chain, name ∈ engine.languageNames) :
    engine.check chain = engine.convertersAlong chain := by
  rw [check, if_neg (Nat.not_lt.mpr hlength), forM_language_eq_ok hknown]
  rfl

theorem convertTo_eq_run {converters : List Converter}
    (hroute : engine.route source target = .ok chain) (hcheck : engine.check chain = .ok converters)
    (content : Content) : engine.convertTo source target content = .run converters content := by
  rw [convertTo, hroute]
  simp only [convert, hcheck]

/-! ### The choice of a route -/

/-- Converters lead from a language to another one, or a single one does to the language itself. -/
def Connects (engine : Engine) (source target : String) : Prop :=
  if source = target then (source, target) ∈ engine.pairs
  else ∃ chain, IsRoute engine.pairs source target chain

theorem route_eq_error_of_not_mem (h : source ∉ engine.languageNames) :
    engine.route source target = .error (.unknownLanguage source) := by
  rw [route, language_eq_error h]
  rfl

theorem route_eq_error_of_mem_of_not_mem (hsource : source ∈ engine.languageNames)
    (htarget : target ∉ engine.languageNames) :
    engine.route source target = .error (.unknownLanguage target) := by
  obtain ⟨language, hlanguage⟩ := exists_language_eq_ok hsource
  rw [route, hlanguage, language_eq_error htarget]
  rfl

theorem route_eq_ok (hsource : source ∈ engine.languageNames)
    (htarget : target ∈ engine.languageNames) (hne : source ≠ target)
    (hfind : Route.find? engine.pairs source target = some chain) :
    engine.route source target = .ok chain := by
  obtain ⟨first, hfirst⟩ := exists_language_eq_ok hsource
  obtain ⟨second, hsecond⟩ := exists_language_eq_ok htarget
  rw [route, hfirst, hsecond]
  simp only [if_neg hne, hfind]
  rfl

/-- Between registered languages a route is found if converters connect them. -/
theorem route_cases (hsource : source ∈ engine.languageNames)
    (htarget : target ∈ engine.languageNames) :
    (engine.Connects source target ∧ ∃ chain, engine.route source target = .ok chain ∧
      2 ≤ chain.length ∧ IsRoute engine.pairs source target chain) ∨
    (¬engine.Connects source target ∧
      engine.route source target = .error (.noPath source target)) := by
  obtain ⟨first, hfirst⟩ := exists_language_eq_ok hsource
  obtain ⟨second, hsecond⟩ := exists_language_eq_ok htarget
  rw [route, hfirst, hsecond, Connects]
  by_cases heq : source = target
  · subst heq
    by_cases hpair : (source, source) ∈ engine.pairs
    · refine .inl ⟨by simpa using hpair, [source, source], by simp [hpair]; rfl, Nat.le_refl 2, ?_⟩
      exact (isRoute_singleton engine.pairs source).concat hpair
    · exact .inr ⟨by simpa using hpair, by simp [hpair]; rfl⟩
  · cases hfind : find? engine.pairs source target with
    | some chain =>
        have hroute := (least_of_find? hfind).1
        refine .inl ⟨by simpa [heq] using ⟨chain, hroute⟩, chain, by simp [heq]; rfl, ?_,
          hroute⟩
        exact hroute.two_le_length heq
    | none =>
        refine .inr ⟨?_, by simp [heq]; rfl⟩
        simpa [heq] using not_isRoute_of_find? hfind

/-- A route that is found leads from the one language to the other over registered pairs and passes
the validation of a conversion, which then fails only if one of its converters does. No route is
found because a language is not registered, the first before the second, and else because no
converters connect them. -/
theorem route_outcomes (h : engine.Reachable) (source target : String) :
    (∀ chain, engine.route source target = .ok chain →
      2 ≤ chain.length ∧ chain.head? = some source ∧ chain.getLast? = some target ∧
        (chain.IsChain fun u v => (u, v) ∈ engine.pairs) ∧
        ∃ converters, engine.check chain = .ok converters ∧
          converters.map some = (hops chain).map engine.converter? ∧
          ∀ content, engine.convertTo source target content = .run converters content ∧
            ∀ e, (engine.convertTo source target content).outcome = .error e →
              ∃ converter ∈ converters, ∃ input, converter.run input = .error e) ∧
    ∀ e, engine.route source target = .error e ↔
      (source ∉ engine.languageNames ∧ e = .unknownLanguage source) ∨
        (source ∈ engine.languageNames ∧ target ∉ engine.languageNames ∧
          e = .unknownLanguage target) ∨
        (source ∈ engine.languageNames ∧ target ∈ engine.languageNames ∧
          ¬engine.Connects source target ∧ e = .noPath source target) := by
  by_cases hsource : source ∈ engine.languageNames
  · by_cases htarget : target ∈ engine.languageNames
    · obtain ⟨hconnects, chain, hroute, hlength, hpath⟩ | ⟨hconnects, hroute⟩ :=
        route_cases hsource htarget
      · rw [hroute]
        refine ⟨fun chain' heq => ?_, by simp [hsource, htarget, hconnects]⟩
        obtain rfl := Except.ok.inj heq
        refine ⟨hlength, hpath.1, hpath.2.1, hpath.2.2, ?_⟩
        have hknown := hpath.forall_mem hsource fun pair hpair => (h.pairsKnown pair hpair).2
        obtain ⟨converters, hconverters⟩ := h.inStep.exists_convertersAlong hpath.hops_subset
        have hmap := map_some_of_convertersAlong hconverters
        have hcheck := (check_eq_convertersAlong hlength hknown).trans hconverters
        refine ⟨converters, hcheck, hmap, fun content => ?_⟩
        have hrun := convertTo_eq_run hroute hcheck content
        exact ⟨hrun, fun e he => Conversion.exists_error_of_run (hrun ▸ he)⟩
      · rw [hroute]
        refine ⟨nofun, fun e => ?_⟩
        simp [hsource, htarget, hconnects, eq_comm]
    · rw [route_eq_error_of_mem_of_not_mem hsource htarget]
      refine ⟨nofun, fun e => ?_⟩
      simp [hsource, htarget, eq_comm]
  · rw [route_eq_error_of_not_mem hsource]
    refine ⟨nofun, fun e => ?_⟩
    simp [hsource, eq_comm]

theorem route_outcomes_relay :
    let engine := built [.addLanguage { name := "a" }, .addLanguage { name := "b" },
      .addConverter "a" "b" Manifest.passing, .addConverter "b" "c" Manifest.passing,
      .addLanguage { name := "c" }, .addConverter "b" "c" Manifest.passing]
    engine.Reachable ∧ engine.route "a" "c" = .ok ["a", "b", "c"] ∧
      (∃ converters, engine.check ["a", "b", "c"] = .ok converters ∧
        converters.map some = (hops ["a", "b", "c"]).map engine.converter?) ∧
      engine.route "a" "a" = .error (.noPath "a" "a") := by
  intro engine
  have hreach : engine.Reachable := ⟨_, rfl⟩
  have hroute : engine.route "a" "c" = .ok ["a", "b", "c"] :=
    route_eq_ok (by decide) (by decide) (by decide) (by decide +kernel)
  obtain ⟨-, -, -, -, converters, hcheck, hmap, -⟩ :=
    (route_outcomes hreach "a" "c").1 _ hroute
  have hself : ¬engine.Connects "a" "a" := by
    rw [Connects, if_pos rfl]
    decide
  exact ⟨hreach, hroute, ⟨converters, hcheck, hmap⟩, ((route_outcomes hreach "a" "a").2 _).mpr
    (.inr (.inr ⟨by decide, by decide, hself, rfl⟩))⟩

end Engine

end DocBridge
