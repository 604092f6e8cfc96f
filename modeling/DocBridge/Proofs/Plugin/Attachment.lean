import DocBridge.Plugin.Manifest
import DocBridge.Proofs.Engine.Registration

/-!
# Attaching a manifest

The check that comes before the registrations of a manifest foresees every one of their failures.
So a manifest is either refused by the check, when the engine is still as it was, or all of it is
registered. What can be wrong with it is said by `Refused`, in terms of the names of the engine and
of the manifest alone.
-/

namespace DocBridge.Manifest

def declaredNames (manifest : Manifest) : List String := manifest.languages.map (·.name)

/-- A declared language is registered already or declared twice, or an end of a pair is neither
registered nor declared. -/
def Refused (manifest : Manifest) (engine : Engine) : Prop :=
  (∃ name ∈ manifest.declaredNames, name ∈ engine.languageNames) ∨
    ¬ manifest.declaredNames.Nodup ∨
    ∃ pair ∈ manifest.passThrough, ∃ name, (name = pair.1 ∨ name = pair.2) ∧
      name ∉ engine.languageNames ∧ name ∉ manifest.declaredNames

variable {manifest : Manifest} {engine : Engine}

theorem not_refused_iff :
    ¬ manifest.Refused engine ↔
      (∀ language ∈ manifest.languages, language.name ∉ engine.languageNames) ∧
        manifest.declaredNames.Nodup ∧
        ∀ pair ∈ manifest.passThrough, ∀ name, name = pair.1 ∨ name = pair.2 →
          name ∈ engine.languageNames ∨ name ∈ manifest.declaredNames := by
  have hnew : (¬ ∃ name ∈ manifest.declaredNames, name ∈ engine.languageNames) ↔
      ∀ language ∈ manifest.languages, language.name ∉ engine.languageNames := by
    simp [declaredNames]
  rw [Refused, not_or, not_or, hnew, not_not]
  refine and_congr_right fun _ => and_congr_right fun _ => ?_
  push Not
  refine forall₂_congr fun pair _ => forall₂_congr fun name _ => ?_
  exact or_iff_not_imp_left.symm

/-! ### The check -/

theorem firstTaken?_eq_none_iff {declared : List String} {languages : List DeclaredLanguage} :
    firstTaken? engine declared languages = none ↔
      (∀ language ∈ languages,
        language.name ∉ declared ∧ language.name ∉ engine.languageNames) ∧
      (languages.map (·.name)).Nodup := by
  induction languages generalizing declared with
  | nil => simp [firstTaken?]
  | cons language rest ih =>
      rw [firstTaken?]
      by_cases htaken : (language.name ∈ declared || engine.hasLanguage language.name) = true
      · rw [if_pos htaken]
        have hname : language.name ∈ declared ∨ language.name ∈ engine.languageNames := by
          simpa [Engine.hasLanguage_iff] using htaken
        simp only [reduceCtorEq, List.mem_cons, forall_eq_or_imp, false_iff]
        tauto
      · rw [if_neg htaken, ih]
        have hname : language.name ∉ declared ∧ language.name ∉ engine.languageNames := by
          simpa [Engine.hasLanguage_eq_false_iff] using htaken
        simp only [List.mem_append, List.mem_cons, List.not_mem_nil, or_false, not_or,
          forall_eq_or_imp, List.map_cons, List.nodup_cons, List.mem_map, not_exists, not_and]
        constructor
        · intro h
          obtain ⟨hrest, hnodup⟩ := h
          exact ⟨⟨hname, fun later hlater => ⟨(hrest later hlater).1.1, (hrest later hlater).2⟩⟩,
            fun later hlater => (hrest later hlater).1.2, hnodup⟩
        · intro h
          obtain ⟨⟨-, hrest⟩, hapart, hnodup⟩ := h
          exact ⟨fun later hlater =>
            ⟨⟨(hrest later hlater).1, hapart later hlater⟩, (hrest later hlater).2⟩, hnodup⟩

theorem firstUnknown?_eq_none_iff :
    firstUnknown? engine manifest = none ↔
      ∀ pair ∈ manifest.passThrough, ∀ name, name = pair.1 ∨ name = pair.2 →
        name ∈ engine.languageNames ∨ name ∈ manifest.declaredNames := by
  have hknown : ∀ name, (!engine.hasLanguage name &&
      !manifest.languages.any fun language => language.name = name) = false ↔
      name ∈ engine.languageNames ∨ name ∈ manifest.declaredNames := by
    intro name
    rw [← Engine.hasLanguage_iff, declaredNames]
    cases engine.hasLanguage name <;> simp
  rw [firstUnknown?, List.find?_eq_none]
  simp only [Bool.not_eq_true, hknown, List.mem_flatMap, List.mem_cons, List.not_mem_nil, or_false]
  constructor
  · intro h pair hpair name hname
    exact h name ⟨pair, hpair, hname⟩
  · rintro h name ⟨pair, hpair, hname⟩
    exact h pair hpair name hname

theorem check_eq_ok_iff : manifest.check engine = .ok () ↔ ¬ manifest.Refused engine := by
  have hnone : manifest.check engine = .ok () ↔
      firstTaken? engine [] manifest.languages = none ∧ firstUnknown? engine manifest = none := by
    rw [check]
    cases firstTaken? engine [] manifest.languages with
    | some name => simp
    | none =>
        cases firstUnknown? engine manifest with
        | some name => simp
        | none => simp
  rw [hnone, firstTaken?_eq_none_iff, firstUnknown?_eq_none_iff, not_refused_iff, and_assoc]
  simp [declaredNames]

/-! ### The registrations -/

@[simp] theorem name_language (declared : DeclaredLanguage) :
    (DeclaredLanguage.language declared).name = declared.name := by
  rw [DeclaredLanguage.language]
  split <;> rfl

/-- The engine with everything that a manifest declares. -/
def attached (manifest : Manifest) (engine : Engine) : Engine where
  languages := engine.languages ++ manifest.languages.map DeclaredLanguage.language
  pairs := Engine.addPairs manifest.passThrough engine.pairs
  converters :=
    Engine.bindAll (manifest.passThrough.map fun pair => (pair, passing)) engine.converters

theorem run_register (h : ¬ manifest.Refused engine) :
    manifest.register.run engine = .ok () (manifest.attached engine) := by
  obtain ⟨hnew, hnodup, hknown⟩ := not_refused_iff.mp h
  have hlanguages : (manifest.languages.forM fun declared =>
        Engine.addLanguage (DeclaredLanguage.language declared)).run engine =
      .ok () { engine with
        languages := engine.languages ++ manifest.languages.map DeclaredLanguage.language } := by
    have hnew' : ∀ language ∈ manifest.languages.map DeclaredLanguage.language,
        language.name ∉ engine.languageNames := by simpa using hnew
    have hnodup' : ((manifest.languages.map DeclaredLanguage.language).map (·.name)).Nodup := by
      simpa [Function.comp_def, declaredNames] using hnodup
    simpa using Engine.run_forM_addLanguage hnew' hnodup'
  have hnames : ∀ name, name ∈ engine.languageNames ∨ name ∈ manifest.declaredNames →
      name ∈ ({ engine with languages := engine.languages ++
        manifest.languages.map DeclaredLanguage.language } : Engine).languageNames := by
    intro name hname
    simpa [Engine.languageNames, declaredNames, Function.comp_def] using hname
  rw [register, EStateM.run_bind, hlanguages]
  exact Engine.run_forM_addConverter fun pair hpair =>
    ⟨hnames _ (hknown pair hpair _ (.inl rfl)), hnames _ (hknown pair hpair _ (.inr rfl))⟩

theorem run_attach_of_not_refused (h : ¬ manifest.Refused engine) :
    manifest.attach.run engine = .ok () (manifest.attached engine) := by
  rw [attach, EStateM.run_bind, EStateM.run_get]
  simp only [check_eq_ok_iff.mpr h]
  exact run_register h

theorem run_attach_of_refused (h : manifest.Refused engine) :
    ∃ e, manifest.attach.run engine = .error e engine := by
  cases hcheck : manifest.check engine with
  | ok => exact absurd h (check_eq_ok_iff.mp hcheck)
  | error e =>
      refine ⟨e, ?_⟩
      rw [attach, EStateM.run_bind, EStateM.run_get]
      simp only [hcheck]
      rfl

/-- A manifest is refused for what `Refused` says, and then the engine stays as it was. Otherwise
its languages and its new pairs are put at the end in their order, each pair once, its pairs pass
through, and all other pairs keep their converters. -/
theorem attach_all_or_nothing (manifest : Manifest) (engine : Engine) :
    ((∃ e after, manifest.attach.run engine = .error e after) ↔ manifest.Refused engine) ∧
    (∀ e after, manifest.attach.run engine = .error e after → after = engine) ∧
    ∀ after, manifest.attach.run engine = .ok () after →
      after.languages = engine.languages ++ manifest.languages.map DeclaredLanguage.language ∧
      after.pairs = engine.pairs ++ (manifest.passThrough.filter (· ∉ engine.pairs)).eraseDups ∧
      (∀ pair ∈ manifest.passThrough, after.converter? pair = some passing) ∧
      ∀ pair ∉ manifest.passThrough, after.converter? pair = engine.converter? pair := by
  by_cases hrefused : manifest.Refused engine
  · obtain ⟨e, hrun⟩ := run_attach_of_refused hrefused
    rw [hrun]
    refine ⟨⟨fun _ => hrefused, fun _ => ⟨e, engine, rfl⟩⟩, ?_, fun after h => by simp at h⟩
    intro e' after h
    simp only [EStateM.Result.error.injEq] at h
    exact h.2.symm
  · have hrun := run_attach_of_not_refused hrefused
    rw [hrun]
    refine ⟨⟨fun ⟨e, after, h⟩ => by simp at h, fun h => absurd h hrefused⟩,
      fun e after h => by simp at h, ?_⟩
    intro after h
    obtain rfl : manifest.attached engine = after := by simpa using h
    refine ⟨rfl, Engine.addPairs_eq manifest.passThrough, ?_, ?_⟩
    · intro pair hpair
      exact (Engine.find?_bindAll_map manifest.passThrough).trans (if_pos hpair)
    · intro pair hpair
      exact (Engine.find?_bindAll_map manifest.passThrough).trans (if_neg hpair)

end DocBridge.Manifest
