import DocBridge.Proofs.Engine.Chains
import DocBridge.Proofs.Plugin.Attachment

/-!
# Engines of manifests

A manifest brings no code with it, so in an engine to which nothing but manifests were attached
every converter passes text through, whichever manifests were refused and however often a pair was
bound again. A chain of such converters is as good as none: text arrives as it was sent off, and a
tree is refused by the first of them.
-/

namespace DocBridge

open Conversion Manifest Registration Route

theorem Manifest.run_passing_text (s : String) : passing.run (.text s) = .ok (.text s) := rfl

theorem Manifest.run_passing_tree (root : Node) :
    passing.run (.tree root) = .error (.unexpectedContent .text .tree) := rfl

theorem Conversion.succeeds_replicate_passing (n : Nat) (s : String) :
    Succeeds (List.replicate n passing) (.text s) (.text s) := by
  induction n with
  | zero => exact .nil _
  | succ n ih => exact .cons (run_passing_text s) ih

namespace Engine

variable {engine : Engine} {chain : List String} {converters : List Converter}

/-- No converter does anything but pass text through. -/
def PassesOnly (engine : Engine) : Prop :=
  ∀ pair converter, engine.converter? pair = some converter → converter = passing

theorem PassesOnly.attached (h : engine.PassesOnly) (manifest : Manifest) :
    (manifest.attached engine).PassesOnly := by
  intro pair converter hbound
  rw [converter?, Manifest.attached, find?_bindAll_map] at hbound
  split at hbound
  · exact (Option.some.inj hbound).symm
  · exact h pair converter hbound

theorem keeps_passesOnly (manifest : Manifest) : Keeps PassesOnly manifest.attach := by
  intro engine h
  by_cases hrefused : manifest.Refused engine
  · obtain ⟨e, hrun⟩ := run_attach_of_refused hrefused
    rw [after, hrun]
    exact h
  · rw [after, run_attach_of_not_refused hrefused]
    exact h.attached manifest

theorem passesOnly_built (manifests : List Manifest) :
    (built (manifests.map .attachManifest)).PassesOnly := by
  refine built_of_keeps ?_ fun pair converter hbound => by simp at hbound
  rw [List.forall_mem_map]
  exact fun manifest _ => keeps_passesOnly manifest

/-- The converters of a chain pass text through, one for each hop. -/
theorem PassesOnly.eq_replicate_of_check (h : engine.PassesOnly)
    (hcheck : engine.check chain = .ok converters) :
    converters = List.replicate (chain.length - 1) passing := by
  refine List.eq_replicate_iff.mpr ⟨length_of_check hcheck, fun converter hmem => ?_⟩
  obtain ⟨hop, hhop⟩ := exists_converter?_of_check hcheck hmem
  exact h hop converter hhop

theorem PassesOnly.convert_text (h : engine.PassesOnly)
    (hcheck : engine.check chain = .ok converters) (s : String) :
    engine.convert chain (.text s) =
      ⟨List.replicate (chain.length - 1) passing.label, .ok (.text s)⟩ := by
  rw [convert_of_check hcheck, h.eq_replicate_of_check hcheck,
    (succeeds_replicate_passing _ s).run_eq, List.map_replicate]

theorem PassesOnly.convert_tree (h : engine.PassesOnly)
    (hcheck : engine.check chain = .ok converters) (root : Node) :
    engine.convert chain (.tree root) =
      ⟨[passing.label], .error (.unexpectedContent .text .tree)⟩ := by
  have hlength := (convertersAlong_of_check hcheck).1
  obtain ⟨n, hn⟩ : ∃ n, chain.length - 1 = n + 1 := ⟨chain.length - 2, by omega⟩
  rw [convert_of_check hcheck, h.eq_replicate_of_check hcheck, hn, List.replicate_succ,
    run_cons_of_error (run_passing_tree root)]

/-- In an engine to which only manifests were attached, those refused included, text comes out of
every chain that is not refused as it went in, after all converters have been run, and a tree is
refused by the first converter. So text is converted to itself wherever there is a route. -/
theorem convert_built_manifests (manifests : List Manifest) :
    let engine := built (manifests.map .attachManifest)
    (∀ chain converters, engine.check chain = .ok converters →
      (∀ s, engine.convert chain (.text s) =
        ⟨List.replicate (chain.length - 1) passing.label, .ok (.text s)⟩) ∧
      ∀ root, engine.convert chain (.tree root) =
        ⟨[passing.label], .error (.unexpectedContent .text .tree)⟩) ∧
    ∀ source target chain, engine.route source target = .ok chain →
      ∀ s, engine.convertTo source target (.text s) =
        ⟨List.replicate (chain.length - 1) passing.label, .ok (.text s)⟩ := by
  intro engine
  have hpasses : engine.PassesOnly := passesOnly_built manifests
  refine ⟨fun chain converters hcheck =>
    ⟨hpasses.convert_text hcheck, hpasses.convert_tree hcheck⟩, ?_⟩
  intro source target chain hroute s
  have hreach : engine.Reachable := ⟨_, rfl⟩
  obtain ⟨converters, hcheck⟩ := (hreach.covers_of_route hroute).exists_check_eq_ok hreach.inStep
  rw [convertTo_of_route hroute, hpasses.convert_text hcheck]

theorem convert_built_manifests_relay :
    let notes : Manifest := ⟨"notes.toml", "Notes", "",
      [⟨"a", some ".a", true⟩, ⟨"b", none, false⟩], [("a", "b"), ("b", "a")]⟩
    let again : Manifest := ⟨"again.toml", "Again", "", [⟨"c", none, false⟩, ⟨"a", none, false⟩],
      [("b", "c")]⟩
    let more : Manifest := ⟨"more.toml", "More", "", [⟨"c", none, true⟩], [("a", "b"), ("b", "c")]⟩
    let engine := built ([notes, again, more].map .attachManifest)
    (∃ converters, engine.check ["a", "b", "a", "b", "c"] = .ok converters) ∧
      engine.route "a" "c" = .ok ["a", "b", "c"] ∧
      ∀ s root,
        engine.convert ["a", "b", "a", "b", "c"] (.text s) =
          ⟨List.replicate 4 "pass through", .ok (.text s)⟩ ∧
        engine.convert ["a", "b", "a", "b", "c"] (.tree root) =
          ⟨["pass through"], .error (.unexpectedContent .text .tree)⟩ ∧
        engine.convertTo "a" "c" (.text s) = ⟨List.replicate 2 "pass through", .ok (.text s)⟩ := by
  intro notes again more engine
  have hcovers : engine.Covers ["a", "b", "a", "b", "c"] := ⟨by decide, by decide, by decide⟩
  have hreach : engine.Reachable := ⟨_, rfl⟩
  obtain ⟨converters, hcheck⟩ := hcovers.exists_check_eq_ok hreach.inStep
  have hroute : engine.route "a" "c" = .ok ["a", "b", "c"] :=
    route_eq_ok (by decide) (by decide) (by decide) (by decide +kernel)
  obtain ⟨hchains, hroutes⟩ := convert_built_manifests [notes, again, more]
  obtain ⟨htext, htree⟩ := hchains _ converters hcheck
  exact ⟨⟨converters, hcheck⟩, hroute, fun s root =>
    ⟨htext s, htree root, hroutes "a" "c" _ hroute s⟩⟩

end Engine

end DocBridge
