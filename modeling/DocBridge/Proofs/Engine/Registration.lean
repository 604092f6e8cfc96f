import DocBridge.Engine.Basic
import Mathlib.Data.List.Basic
import Mathlib.Data.List.Nodup

/-!
# Registrations

What the registrations do to an engine, one at a time and in series. A language is refused when its
name is taken, a converter when one of its ends is not registered. Otherwise a language is put at
the end. A new pair is put at the end of the pairs, and a converter is bound to its pair, whatever
was bound to it before.

A series of registrations is only run here when none of it is refused. What makes that so is for
those to say who run it.
-/

namespace DocBridge.Engine

variable {engine : Engine} {name source target : String} {pair other : String × String}
  {pairs : List (String × String)} {converter : Converter}
  {bound : Entries (String × String) Converter}

theorem hasLanguage_iff : engine.hasLanguage name ↔ name ∈ engine.languageNames := by
  simp [hasLanguage, languageNames]

theorem hasLanguage_eq_false_iff :
    engine.hasLanguage name = false ↔ name ∉ engine.languageNames := by
  rw [← hasLanguage_iff, Bool.not_eq_true]

theorem exists_language_eq_ok (h : name ∈ engine.languageNames) :
    ∃ language, engine.language name = .ok language := by
  cases hfind : engine.languages.find? (·.name = name) with
  | some language => exact ⟨language, by rw [Engine.language, hfind]⟩
  | none =>
      obtain ⟨language, hmem, hname⟩ := List.mem_map.mp h
      simpa [hname] using List.find?_eq_none.mp hfind language hmem

theorem mem_of_language_eq_ok {language : Language} (h : engine.language name = .ok language) :
    language ∈ engine.languages := by
  rw [Engine.language] at h
  split at h
  · rename_i hfind
    obtain rfl := Except.ok.inj h
    exact List.mem_of_find?_eq_some hfind
  · simp at h

theorem language_eq_error (h : name ∉ engine.languageNames) :
    engine.language name = .error (.unknownLanguage name) := by
  have hfind : engine.languages.find? (·.name = name) = none := by
    simpa [languageNames] using h
  rw [Engine.language, hfind]

/-! ### Pairs -/

theorem mem_addPair : other ∈ addPair pair pairs ↔ other ∈ pairs ∨ other = pair := by
  rw [addPair]
  split
  · next hmem =>
      exact ⟨.inl, fun h => h.elim id fun heq => heq ▸ List.contains_iff_mem.mp hmem⟩
  · rw [List.mem_append, List.mem_singleton]

theorem nodup_addPair (h : pairs.Nodup) : (addPair pair pairs).Nodup := by
  rw [addPair]
  split
  · exact h
  · next hnew =>
      rw [← List.concat_eq_append]
      exact h.concat (mt List.contains_iff_mem.mpr hnew)

/-- Pairs put at the end one after the other. -/
def addPairs (added pairs : List (String × String)) : List (String × String) :=
  added.foldl (fun pairs pair => addPair pair pairs) pairs

theorem addPairs_eq (added : List (String × String)) :
    addPairs added pairs = pairs ++ (added.filter (· ∉ pairs)).eraseDups := by
  induction added generalizing pairs with
  | nil => simp [addPairs]
  | cons pair rest ih =>
      rw [addPairs, List.foldl_cons, ← addPairs, ih, addPair]
      by_cases hpair : pair ∈ pairs
      · rw [if_pos (List.contains_iff_mem.mpr hpair), List.filter_cons_of_neg (by simpa using hpair)]
      · rw [if_neg (mt List.contains_iff_mem.mp hpair),
          List.filter_cons_of_pos (by simpa using hpair), List.eraseDups_cons, List.filter_filter,
          List.append_assoc, List.singleton_append]
        congr 3
        refine List.filter_congr fun later _ => ?_
        simp only [List.mem_append, List.mem_singleton, not_or, decide_not, Bool.decide_and]
        by_cases hlater : later = pair <;> simp [hlater]

/-! ### Bound converters -/

@[simp] theorem pairs_empty : empty.pairs = [] := rfl

@[simp] theorem converter?_empty (pair : String × String) : empty.converter? pair = none := rfl

/-- Converters bound to pairs, one after the other. -/
def bindAll (bindings bound : Entries (String × String) Converter) :
    Entries (String × String) Converter :=
  bindings.foldl (fun bound binding => bound.put binding.1 binding.2) bound

theorem bindAll_cons (binding : (String × String) × Converter)
    (rest bound : Entries (String × String) Converter) :
    bindAll (binding :: rest) bound = bindAll rest (bound.put binding.1 binding.2) := rfl

/-- The last converter bound to a pair is found, and one bound before only if there is none. -/
theorem find?_bindAll (bindings : Entries (String × String) Converter) :
    (bindAll bindings bound).find? other = (bindings.reverse ++ bound).lookup other := by
  induction bindings generalizing bound with
  | nil => rfl
  | cons binding rest ih =>
      have hput : (bound.put binding.1 binding.2).lookup other =
          (binding :: bound).lookup other := by
        rw [← Entries.find?, Entries.find?_put, List.lookup_cons]
        cases other == binding.1 <;> rfl
      rw [bindAll_cons, ih, List.reverse_cons, List.append_assoc, List.lookup_append, hput,
        ← List.lookup_append]
      rfl

/-- One converter bound to several pairs. -/
theorem find?_bindAll_map (pairs : List (String × String)) :
    (bindAll (pairs.map fun pair => (pair, converter)) bound).find? other =
      if other ∈ pairs then some converter else bound.find? other := by
  induction pairs generalizing bound with
  | nil => rfl
  | cons pair rest ih =>
      rw [List.map_cons, bindAll_cons, ih, Entries.find?_put]
      by_cases hrest : other ∈ rest
      · rw [if_pos hrest, if_pos (List.mem_cons_of_mem pair hrest)]
      · by_cases hpair : other = pair <;> simp [hpair, hrest]

/-! ### Series -/

theorem run_addLanguage {language : Language} (h : language.name ∉ engine.languageNames) :
    (addLanguage language).run engine =
      .ok () { engine with languages := engine.languages ++ [language] } := by
  rw [EStateM.run, addLanguage, if_neg (by simpa [hasLanguage_iff] using h)]

theorem run_addLanguage_of_mem {language : Language} (h : language.name ∈ engine.languageNames) :
    (addLanguage language).run engine = .error (.duplicateLanguage language.name) engine := by
  rw [EStateM.run, addLanguage, if_pos (by simpa [hasLanguage_iff] using h)]

theorem run_addConverter (hsource : source ∈ engine.languageNames)
    (htarget : target ∈ engine.languageNames) :
    (addConverter source target converter).run engine =
      .ok () { engine with
        pairs := addPair (source, target) engine.pairs
        converters := engine.converters.put (source, target) converter } := by
  obtain ⟨_, hsource⟩ := exists_language_eq_ok hsource
  obtain ⟨_, htarget⟩ := exists_language_eq_ok htarget
  rw [EStateM.run, addConverter, hsource, htarget]

theorem run_addConverter_of_not_mem
    (h : ¬(source ∈ engine.languageNames ∧ target ∈ engine.languageNames)) :
    ∃ e, (addConverter source target converter).run engine = .error e engine := by
  by_cases hsource : source ∈ engine.languageNames
  · obtain ⟨_, hsource'⟩ := exists_language_eq_ok hsource
    have htarget := language_eq_error fun htarget => h ⟨hsource, htarget⟩
    exact ⟨_, by rw [EStateM.run, addConverter, hsource', htarget]⟩
  · exact ⟨_, by rw [EStateM.run, addConverter, language_eq_error hsource]⟩

/-- Languages with new names, no two alike, are all registered. -/
theorem run_forM_addLanguage {languages : List Language}
    (hnew : ∀ language ∈ languages, language.name ∉ engine.languageNames)
    (hnodup : (languages.map (·.name)).Nodup) :
    (languages.forM addLanguage).run engine =
      .ok () { engine with languages := engine.languages ++ languages } := by
  induction languages generalizing engine with
  | nil => rw [List.append_nil]; rfl
  | cons language rest ih =>
      rw [List.map_cons, List.nodup_cons] at hnodup
      obtain ⟨hapart, hnodup⟩ := hnodup
      have hrest : ∀ later ∈ rest, later.name ∉
          ({ engine with languages := engine.languages ++ [language] } : Engine).languageNames := by
        intro later hlater
        have hold := hnew later (List.mem_cons_of_mem language hlater)
        have hne : later.name ≠ language.name := fun he =>
          hapart (he ▸ List.mem_map_of_mem hlater)
        simp only [languageNames, List.map_append, List.map_cons, List.map_nil, List.mem_append,
          List.mem_singleton, not_or]
        exact ⟨hold, hne⟩
      change (addLanguage language >>= fun _ => rest.forM addLanguage).run engine = _
      rw [EStateM.run_bind, run_addLanguage (hnew language List.mem_cons_self)]
      simpa using ih hrest hnodup

/-- A converter is registered for all pairs of registered languages. -/
theorem run_forM_addConverter {pairs : List (String × String)}
    (hknown : ∀ pair ∈ pairs, pair.1 ∈ engine.languageNames ∧ pair.2 ∈ engine.languageNames) :
    (pairs.forM fun pair => addConverter pair.1 pair.2 converter).run engine =
      .ok () { engine with
        pairs := addPairs pairs engine.pairs
        converters := bindAll (pairs.map fun pair => (pair, converter)) engine.converters } := by
  induction pairs generalizing engine with
  | nil => rfl
  | cons pair rest ih =>
      obtain ⟨hsource, htarget⟩ := hknown pair List.mem_cons_self
      change (addConverter pair.1 pair.2 converter >>= fun _ =>
        rest.forM fun pair => addConverter pair.1 pair.2 converter).run engine = _
      rw [EStateM.run_bind, run_addConverter hsource htarget]
      exact ih fun later hlater => hknown later (List.mem_cons_of_mem pair hlater)

end DocBridge.Engine
