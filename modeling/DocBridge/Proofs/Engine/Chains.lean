import DocBridge.Proofs.Engine.Conversion

/-!
# Conversions along chains

A chain is checked as a whole before any converter runs, for its length first, then for its
languages and then for its hops. Once it has passed, its converters are those of its hops, in order,
and the conversion is one pass over them that ends at the first that fails.

Chains that meet can be put together: the hops of the longer chain are those of the one and then
those of the other, and a pass over converters can be cut in two anywhere.
-/

namespace DocBridge

namespace Conversion

/-- Every converter succeeds, each on what the one before it gave. -/
inductive Succeeds : List Converter → Content → Content → Prop
  | nil (content : Content) : Succeeds [] content content
  | cons {converter : Converter} {rest : List Converter} {content next last : Content}
      (hrun : converter.run content = .ok next) (hrest : Succeeds rest next last) :
      Succeeds (converter :: rest) content last

/-- A conversion, and when it succeeds a further one of what it gave. -/
def andThen (first : Conversion) (next : Content → Conversion) : Conversion :=
  match first.outcome with
  | .ok content => ⟨first.ran ++ (next content).ran, (next content).outcome⟩
  | .error e => ⟨first.ran, .error e⟩

variable {converter failing : Converter} {earlier converters rest : List Converter}
  {content next middle last : Content} {e : Error}

theorem run_cons_of_ok (h : converter.run content = .ok next) :
    run (converter :: rest) content =
      ⟨converter.label :: (run rest next).ran, (run rest next).outcome⟩ := by
  rw [run, h]

theorem run_cons_of_error (h : converter.run content = .error e) :
    run (converter :: rest) content = ⟨[converter.label], .error e⟩ := by
  rw [run, h]

theorem Succeeds.run_eq (h : Succeeds converters content last) :
    run converters content = ⟨converters.map (·.label), .ok last⟩ := by
  induction h with
  | nil => rfl
  | cons hrun _ ih => rw [run_cons_of_ok hrun, ih, List.map_cons]

theorem run_append (earlier later : List Converter) (content : Content) :
    run (earlier ++ later) content = (run earlier content).andThen (run later) := by
  induction earlier generalizing content with
  | nil => rfl
  | cons converter rest ih =>
      rw [List.cons_append]
      cases hrun : converter.run content with
      | error e =>
          rw [run_cons_of_error hrun, run_cons_of_error hrun]
          rfl
      | ok next =>
          rw [run_cons_of_ok hrun, run_cons_of_ok hrun, ih, andThen, andThen]
          cases (run rest next).outcome <;> rfl

theorem run_of_error (h : Succeeds earlier content middle)
    (hfails : failing.run middle = .error e) :
    run (earlier ++ failing :: rest) content =
      ⟨(earlier ++ [failing]).map (·.label), .error e⟩ := by
  rw [run_append, h.run_eq, andThen]
  simp only [run_cons_of_error hfails, List.map_append, List.map_cons, List.map_nil]

/-- All converters succeed, or one fails after those before it have succeeded. -/
theorem succeeds_or_fails (converters : List Converter) (content : Content) :
    (∃ last, Succeeds converters content last) ∨
      ∃ earlier failing rest middle e, converters = earlier ++ failing :: rest ∧
        Succeeds earlier content middle ∧ failing.run middle = .error e := by
  induction converters generalizing content with
  | nil => exact .inl ⟨content, .nil content⟩
  | cons converter rest ih =>
      cases hrun : converter.run content with
      | error e => exact .inr ⟨[], converter, rest, content, e, rfl, .nil content, hrun⟩
      | ok next =>
          obtain ⟨last, hlast⟩ | ⟨earlier, failing, later, middle, e, rfl, hmiddle, hfails⟩ :=
            ih next
          · exact .inl ⟨last, .cons hrun hlast⟩
          · exact .inr ⟨converter :: earlier, failing, later, middle, e, rfl,
              .cons hrun hmiddle, hfails⟩

end Conversion

/-- The hops of two routes that meet are the hops of the one and then those of the other. -/
theorem Route.hops_append_tail {α : Type} {first second : List α} {meeting : α}
    (hlast : first.getLast? = some meeting) (hhead : second.head? = some meeting) :
    hops (first ++ second.tail) = hops first ++ hops second := by
  obtain ⟨rest, rfl⟩ : ∃ rest, second = meeting :: rest := by
    cases second with
    | nil => simp at hhead
    | cons head rest => exact ⟨rest, by simpa using hhead⟩
  rw [List.tail_cons]
  induction first with
  | nil => simp at hlast
  | cons x first ih =>
      cases first with
      | nil =>
          obtain rfl : x = meeting := by simpa using hlast
          rfl
      | cons y first =>
          change (x, y) :: hops (y :: first ++ rest) = (x, y) :: (hops (y :: first) ++ _)
          rw [ih (by simpa using hlast)]

namespace Engine

open Route

variable {engine : Engine} {chain later : List String} {name : String} {hop : String × String}

/-- A chain has two languages at least, all of them are registered and so are its hops. -/
structure Covers (engine : Engine) (chain : List String) : Prop where
  length : 2 ≤ chain.length
  known : ∀ name ∈ chain, name ∈ engine.languageNames
  joined : ∀ hop ∈ hops chain, hop ∈ engine.pairs

/-! ### Chains that are refused -/

theorem check_of_short (h : chain.length < 2) :
    engine.check chain = .error (.invalidArgument (.shortChain chain.length)) := by
  rw [check, if_pos h]
  rfl

theorem forM_language_eq_error (h : chain.find? (· ∉ engine.languageNames) = some name) :
    (chain.forM fun name => discard (engine.language name)) = .error (.unknownLanguage name) := by
  induction chain with
  | nil => simp at h
  | cons first rest ih =>
      change (discard (engine.language first) >>= fun _ =>
        rest.forM fun name => discard (engine.language name)) = _
      by_cases hfirst : first ∈ engine.languageNames
      · rw [List.find?_cons_of_neg (by simpa using hfirst)] at h
        obtain ⟨language, hlanguage⟩ := exists_language_eq_ok hfirst
        rw [hlanguage, ih h]
        rfl
      · rw [List.find?_cons_of_pos (by simpa using hfirst)] at h
        obtain rfl := Option.some.inj h
        rw [language_eq_error hfirst]
        rfl

theorem check_of_unknown (hlength : 2 ≤ chain.length)
    (h : chain.find? (· ∉ engine.languageNames) = some name) :
    engine.check chain = .error (.unknownLanguage name) := by
  rw [check, if_neg (Nat.not_lt.mpr hlength), forM_language_eq_error h]
  rfl

theorem InStep.convertersAlong_eq_error (hstep : engine.InStep)
    (h : (hops chain).find? (· ∉ engine.pairs) = some hop) :
    engine.convertersAlong chain = .error (.noPath hop.1 hop.2) := by
  induction chain with
  | nil => simp [hops] at h
  | cons first rest ih =>
      cases rest with
      | nil => simp [hops] at h
      | cons second rest =>
          change ((first, second) :: hops (second :: rest)).find? (· ∉ engine.pairs) = _ at h
          rw [convertersAlong]
          by_cases hfirst : (first, second) ∈ engine.pairs
          · rw [List.find?_cons_of_neg (by simpa using hfirst)] at h
            obtain ⟨converter, hconverter⟩ := (hstep _).mpr hfirst
            rw [hconverter, ih h]
            rfl
          · rw [List.find?_cons_of_pos (by simpa using hfirst)] at h
            obtain rfl := Option.some.inj h
            rw [hstep.converter?_eq_none hfirst]

/-! ### Chains that are covered -/

theorem convertersAlong_of_check {converters : List Converter}
    (h : engine.check chain = .ok converters) :
    2 ≤ chain.length ∧ engine.convertersAlong chain = .ok converters := by
  have hlength : 2 ≤ chain.length := by
    by_contra hshort
    simp [check_of_short (Nat.lt_of_not_le hshort)] at h
  have hknown : ∀ name ∈ chain, name ∈ engine.languageNames := by
    cases hfind : chain.find? (· ∉ engine.languageNames) with
    | none => simpa using hfind
    | some name => simp [check_of_unknown hlength hfind] at h
  exact ⟨hlength, (check_eq_convertersAlong hlength hknown).symm.trans h⟩

theorem map_some_of_check {converters : List Converter}
    (h : engine.check chain = .ok converters) :
    converters.map some = (hops chain).map engine.converter? :=
  map_some_of_convertersAlong (convertersAlong_of_check h).2

theorem Covers.exists_check_eq_ok (h : engine.Covers chain) (hstep : engine.InStep) :
    ∃ converters, engine.check chain = .ok converters := by
  rw [check_eq_convertersAlong h.length h.known]
  exact hstep.exists_convertersAlong h.joined

theorem exists_converter?_of_check {converters : List Converter} {converter : Converter}
    (h : engine.check chain = .ok converters) (hmem : converter ∈ converters) :
    ∃ hop, engine.converter? hop = some converter := by
  have hbound : some converter ∈ (hops chain).map engine.converter? :=
    map_some_of_check h ▸ List.mem_map_of_mem hmem
  obtain ⟨hop, -, hhop⟩ := List.mem_map.mp hbound
  exact ⟨hop, hhop⟩

/-- A chain that is not refused has a converter for each hop, so one at least. -/
theorem length_of_check {converters : List Converter} (h : engine.check chain = .ok converters) :
    converters.length = chain.length - 1 := by
  rw [← length_hops, ← List.length_map some, map_some_of_check h, List.length_map]

theorem ne_nil_of_check {converters : List Converter} (h : engine.check chain = .ok converters) :
    converters ≠ [] := by
  have hlength := (convertersAlong_of_check h).1
  rw [← List.length_pos_iff_ne_nil, length_of_check h]
  omega

/-- A route that is found can be converted along. -/
theorem Reachable.covers_of_route (h : engine.Reachable) {source target : String}
    (hroute : engine.route source target = .ok chain) : engine.Covers chain := by
  have hsource : source ∈ engine.languageNames := by
    by_contra hunknown
    simp [route_eq_error_of_not_mem hunknown] at hroute
  have htarget : target ∈ engine.languageNames := by
    by_contra hunknown
    simp [route_eq_error_of_mem_of_not_mem hsource hunknown] at hroute
  obtain ⟨-, path, hpath, hlength, hroutes⟩ | ⟨-, hnone⟩ := route_cases hsource htarget
  · obtain rfl : path = chain := Except.ok.inj (hpath.symm.trans hroute)
    exact ⟨hlength, hroutes.forall_mem hsource fun pair hpair => (h.pairsKnown pair hpair).2,
      hroutes.hops_subset⟩
  · simp [hnone] at hroute

theorem convertTo_of_route {source target : String}
    (h : engine.route source target = .ok chain) (content : Content) :
    engine.convertTo source target content = engine.convert chain content := by
  rw [convertTo, h]

theorem convert_of_check {converters : List Converter} (h : engine.check chain = .ok converters)
    (content : Content) : engine.convert chain content = .run converters content := by
  rw [convert, h]

theorem convert_of_check_error {e : Error} (h : engine.check chain = .error e)
    (content : Content) : engine.convert chain content = .failed e := by
  rw [convert, h]

theorem Covers.append_tail (h : engine.Covers chain) (hlater : engine.Covers later)
    {meeting : String} (hlast : chain.getLast? = some meeting)
    (hhead : later.head? = some meeting) : engine.Covers (chain ++ later.tail) where
  length := by
    have := h.length
    rw [List.length_append]
    omega
  known name hname := by
    rcases List.mem_append.mp hname with hname | hname
    · exact h.known name hname
    · exact hlater.known name (List.mem_of_mem_tail hname)
  joined hop hhop := by
    rw [hops_append_tail hlast hhead] at hhop
    rcases List.mem_append.mp hhop with hhop | hhop
    · exact h.joined hop hhop
    · exact hlater.joined hop hhop

/-- Converting along two chains that meet is converting along the one and then along the other. -/
theorem InStep.convert_append_tail (hstep : engine.InStep) (h : engine.Covers chain)
    (hlater : engine.Covers later) {meeting : String} (hlast : chain.getLast? = some meeting)
    (hhead : later.head? = some meeting) (content : Content) :
    engine.convert (chain ++ later.tail) content =
      (engine.convert chain content).andThen (engine.convert later) := by
  obtain ⟨earlierConverters, hearlier⟩ := h.exists_check_eq_ok hstep
  obtain ⟨laterConverters, hlate⟩ := hlater.exists_check_eq_ok hstep
  obtain ⟨converters, hcheck⟩ := (h.append_tail hlater hlast hhead).exists_check_eq_ok hstep
  have hall : converters = earlierConverters ++ laterConverters := by
    refine List.map_injective_iff.mpr (fun _ _ heq => Option.some.inj heq) ?_
    rw [map_some_of_check hcheck, hops_append_tail hlast hhead, List.map_append, List.map_append,
      map_some_of_check hearlier, map_some_of_check hlate]
  have hnext : engine.convert later = .run laterConverters := funext (convert_of_check hlate)
  rw [convert_of_check hcheck, convert_of_check hearlier, hnext, hall, Conversion.run_append]

/-- A chain is refused before any converter runs because it is too short, else because of its first
language that is not registered, else because of its first hop that is no pair. Along any other
chain the converters of its hops run in order, each on what the one before it gave, up to the first
that fails, with whose error the conversion ends. A conversion along a chain and then along one that
starts where it ends is a conversion along both in a row. -/
theorem convert_along_chain (h : engine.Reachable) (chain : List String) :
    (chain.length < 2 → ∀ content, engine.convert chain content =
      ⟨[], .error (.invalidArgument (.shortChain chain.length))⟩) ∧
    (∀ name, 2 ≤ chain.length → chain.find? (· ∉ engine.languageNames) = some name →
      ∀ content, engine.convert chain content = ⟨[], .error (.unknownLanguage name)⟩) ∧
    (∀ hop, 2 ≤ chain.length → (∀ name ∈ chain, name ∈ engine.languageNames) →
      (hops chain).find? (· ∉ engine.pairs) = some hop →
      ∀ content, engine.convert chain content = ⟨[], .error (.noPath hop.1 hop.2)⟩) ∧
    (engine.Covers chain → ∃ converters : List Converter,
      converters.map some = (hops chain).map engine.converter? ∧ ∀ content,
        (∃ last, Conversion.Succeeds converters content last ∧
          engine.convert chain content = ⟨converters.map (·.label), .ok last⟩) ∨
        ∃ earlier failing rest middle e, converters = earlier ++ failing :: rest ∧
          Conversion.Succeeds earlier content middle ∧ failing.run middle = .error e ∧
          engine.convert chain content = ⟨(earlier ++ [failing]).map (·.label), .error e⟩) ∧
    ∀ later meeting, engine.Covers chain → engine.Covers later →
      chain.getLast? = some meeting → later.head? = some meeting →
      ∀ content, engine.convert (chain ++ later.tail) content =
        (engine.convert chain content).andThen (engine.convert later) := by
  refine ⟨fun hshort => convert_of_check_error (check_of_short hshort),
    fun name hlength hname => convert_of_check_error (check_of_unknown hlength hname),
    fun hop hlength hknown hhop => ?_, fun hcovers => ?_,
    fun later meeting hcovers hlater hlast hhead =>
      h.inStep.convert_append_tail hcovers hlater hlast hhead⟩
  · refine convert_of_check_error ?_
    rw [check_eq_convertersAlong hlength hknown, h.inStep.convertersAlong_eq_error hhop]
  · obtain ⟨converters, hcheck⟩ := hcovers.exists_check_eq_ok h.inStep
    refine ⟨converters, map_some_of_check hcheck, fun content => ?_⟩
    rw [convert_of_check hcheck]
    obtain ⟨last, hlast⟩ | ⟨earlier, failing, rest, middle, e, rfl, hmiddle, hfails⟩ :=
      Conversion.succeeds_or_fails converters content
    · exact .inl ⟨last, hlast, hlast.run_eq⟩
    · exact .inr ⟨earlier, failing, rest, middle, e, rfl, hmiddle, hfails,
        Conversion.run_of_error hmiddle hfails⟩

theorem convert_along_chain_loop :
    let engine := built [.addLanguage { name := "a" }, .addLanguage { name := "b" },
      .addConverter "a" "a" Manifest.passing, .addConverter "a" "b" Manifest.passing,
      .addConverter "b" "a" Manifest.passing]
    engine.Reachable ∧ engine.Covers ["a", "a", "b"] ∧ engine.Covers ["b", "a"] ∧ ∀ content,
      engine.convert ["a", "a", "b", "a"] content =
        (engine.convert ["a", "a", "b"] content).andThen (engine.convert ["b", "a"]) ∧
      engine.convert ["a"] content = ⟨[], .error (.invalidArgument (.shortChain 1))⟩ ∧
      engine.convert ["b", "b", "c"] content = ⟨[], .error (.unknownLanguage "c")⟩ ∧
      engine.convert ["a", "b", "b", "a"] content = ⟨[], .error (.noPath "b" "b")⟩ := by
  intro engine
  have hreach : engine.Reachable := ⟨_, rfl⟩
  have hforth : engine.Covers ["a", "a", "b"] := ⟨by decide, by decide, by decide⟩
  have hback : engine.Covers ["b", "a"] := ⟨by decide, by decide, by decide⟩
  obtain ⟨-, -, -, -, hmeet⟩ := convert_along_chain hreach ["a", "a", "b"]
  obtain ⟨hshort, -⟩ := convert_along_chain hreach ["a"]
  obtain ⟨-, hunknown, -⟩ := convert_along_chain hreach ["b", "b", "c"]
  obtain ⟨-, -, hbroken, -⟩ := convert_along_chain hreach ["a", "b", "b", "a"]
  refine ⟨hreach, hforth, hback, fun content => ⟨?_, ?_, ?_, ?_⟩⟩
  · exact hmeet ["b", "a"] "b" hforth hback rfl rfl content
  · exact hshort (by decide) content
  · exact hunknown "c" (by decide) (by decide) content
  · exact hbroken ("b", "b") (by decide) (by decide) (by decide) content

end Engine

end DocBridge
