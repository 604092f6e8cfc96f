import DocBridge.Plugin.Builtin
import DocBridge.Proofs.Engine.Conversion
import DocBridge.Proofs.Pandoc.Imported

/-!
# Conversions of the built-in plugins

An engine with the built-in plugins knows three languages, with the tree between Markdown and
Pandoc. A conversion from the one to the other reads a text as a tree and writes the tree, so it
fails where the text cannot be read and nowhere else: what Pandoc's reader accepts is in shape, and
every writer can write it.
-/

namespace DocBridge

open Plugin

/-- The built-in plugins with a character for bullets and a version of their own. -/
def Registry.builtinWith (bullet : Char) (version : Pandoc.Version) : Registry :=
  ⟨[Plugin.tree, Plugin.markdown bullet, Plugin.pandoc version]⟩

namespace Engine

/-- The converters that the built-in plugins register, in their order. -/
def builtinConverters (bullet : Char) (version : Pandoc.Version) :
    Entries (String × String) Converter :=
  [((markdownLanguage, treeLanguage),
      textToTree "Markdown reader" fun text => .ok (Markdown.read text)),
    ((treeLanguage, markdownLanguage),
      treeToText "Markdown writer" (Markdown.tryWrite bullet)),
    ((treeLanguage, pandocLanguage), treeToText "Pandoc writer" (Pandoc.write version)),
    ((pandocLanguage, treeLanguage), textToTree "Pandoc reader" Pandoc.read)]

/-- An engine has the languages and converters of the built-in plugins, and no others. -/
structure IsBuiltin (engine : Engine) (bullet : Char) (version : Pandoc.Version) : Prop where
  names : engine.languageNames = [treeLanguage, markdownLanguage, pandocLanguage]
  pairs : engine.pairs = [(markdownLanguage, treeLanguage), (treeLanguage, markdownLanguage),
    (treeLanguage, pandocLanguage), (pandocLanguage, treeLanguage)]
  converters : engine.converters = builtinConverters bullet version

theorem exists_isBuiltin (bullet : Char) (version : Pandoc.Version) : ∃ engine : Engine,
    ofRegistry (.builtinWith bullet version) = .ok engine ∧ engine.IsBuiltin bullet version :=
  ⟨_, rfl, rfl, rfl, rfl⟩

/-! ### Conversions to Markdown -/

namespace IsBuiltin

variable {engine : Engine} {bullet : Char} {version : Pandoc.Version}

theorem convertTo_markdown_of_tree (h : engine.IsBuiltin bullet version) (content : Content) :
    engine.convertTo treeLanguage markdownLanguage content =
      .run [treeToText "Markdown writer" (Markdown.tryWrite bullet)] content := by
  have hroute : engine.route treeLanguage markdownLanguage =
      .ok [treeLanguage, markdownLanguage] := by
    refine route_eq_ok (by simp [h.names]) (by simp [h.names]) (by decide) ?_
    rw [h.pairs]
    decide +kernel
  refine convertTo_eq_run hroute ?_ content
  rw [check_eq_convertersAlong (by decide) (by simp [h.names])]
  simp only [convertersAlong, converter?, h.converters]
  rfl

theorem convertTo_markdown_of_pandoc (h : engine.IsBuiltin bullet version) (content : Content) :
    engine.convertTo pandocLanguage markdownLanguage content =
      .run [textToTree "Pandoc reader" Pandoc.read,
        treeToText "Markdown writer" (Markdown.tryWrite bullet)] content := by
  have hroute : engine.route pandocLanguage markdownLanguage =
      .ok [pandocLanguage, treeLanguage, markdownLanguage] := by
    refine route_eq_ok (by simp [h.names]) (by simp [h.names]) (by decide) ?_
    rw [h.pairs]
    decide +kernel
  refine convertTo_eq_run hroute ?_ content
  rw [check_eq_convertersAlong (by decide) (by simp [h.names])]
  simp only [convertersAlong, converter?, h.converters]
  rfl

end IsBuiltin

end Engine

theorem Plugin.run_textToTree (label : String) (read : String → Except Error Node) (text : String) :
    (textToTree label read).run (.text text) = .tree <$> read text := rfl

theorem Plugin.run_treeToText (label : String) (write : Node → Except Error String) (root : Node) :
    (treeToText label write).run (.tree root) = .text <$> write root := rfl

/-- A text is read as a tree, and what is read is written. -/
theorem Conversion.run_textToTree_treeToText {readLabel writeLabel : String}
    (read : String → Except Error Node) (write : Node → Except Error String) (text : String) :
    run [textToTree readLabel read, treeToText writeLabel write] (.text text) =
      match read text with
      | .ok root => ⟨[readLabel, writeLabel], .text <$> write root⟩
      | .error e => ⟨[readLabel], .error e⟩ := by
  rw [run, run_textToTree]
  cases read text with
  | error e => rfl
  | ok root =>
      simp only [Functor.map, Except.map, run, run_treeToText]
      cases write root <;> rfl

theorem Conversion.run_markdown_writer (bullet : Char) (root : Node) :
    run [treeToText "Markdown writer" (Markdown.tryWrite bullet)] (.tree root) =
      ⟨["Markdown writer"], .ok (.text (Markdown.write bullet root))⟩ := by
  rw [run, run_treeToText, Markdown.tryWrite_eq]
  rfl

theorem Pandoc.read_eq_error {text : String} {e : Error} (h : read text = .error e) :
    e = .parse ∨ ∃ fault, e = .malformedTree fault := by
  unfold read at h
  split at h
  · exact .inr (malformedTree_of_tree h)
  · exact .inl (Except.error.inj h).symm

/-- What Pandoc's reader makes of a value can be written as a document again and has no texts that
touch. Markdown is written for every tree, so a conversion from Pandoc to Markdown fails only in its
first step, for text that is no JSON or for JSON that is no document. -/
theorem pandoc_to_markdown :
    (∀ (v : Json.Value) (root : Node), Pandoc.tree v = .ok root →
      (∀ version, ∃ written, Pandoc.document version root = .ok written) ∧ root.Merged) ∧
    (∀ bullet root, Markdown.tryWrite bullet root = .ok (Markdown.write bullet root)) ∧
    Registry.builtin = .builtinWith Markdown.defaultBullet Pandoc.defaultVersion ∧
    ∀ (bullet : Char) (version : Pandoc.Version), ∃ engine,
      Engine.ofRegistry (.builtinWith bullet version) = .ok engine ∧
      (∀ root, engine.convertTo treeLanguage markdownLanguage (.tree root) =
        ⟨["Markdown writer"], .ok (.text (Markdown.write bullet root))⟩) ∧
      ∀ text, match Pandoc.read text with
        | .ok root => engine.convertTo pandocLanguage markdownLanguage (.text text) =
            ⟨["Pandoc reader", "Markdown writer"], .ok (.text (Markdown.write bullet root))⟩
        | .error e => engine.convertTo pandocLanguage markdownLanguage (.text text) =
            ⟨["Pandoc reader"], .error e⟩ ∧ (e = .parse ∨ ∃ fault, e = .malformedTree fault) := by
  refine ⟨fun v root h => ?_, Markdown.tryWrite_eq, rfl, fun bullet version => ?_⟩
  · obtain ⟨blocks, rfl, hblocks⟩ := Pandoc.allShaped_of_tree h
    exact ⟨hblocks.exists_document, hblocks.merged⟩
  · obtain ⟨engine, hengine, hbuiltin⟩ := Engine.exists_isBuiltin bullet version
    refine ⟨engine, hengine, fun root => ?_, fun text => ?_⟩
    · rw [hbuiltin.convertTo_markdown_of_tree, Conversion.run_markdown_writer]
    · rw [hbuiltin.convertTo_markdown_of_pandoc, Conversion.run_textToTree_treeToText]
      cases hread : Pandoc.read text with
      | ok root =>
          simp only [Markdown.tryWrite_eq]
          rfl
      | error e => exact ⟨rfl, Pandoc.read_eq_error hread⟩

theorem pandoc_to_markdown_paragraph :
    let blocks := [Pandoc.tagged "Para" (.array [Pandoc.tagged "Str" (.string "a")])]
    let v := Pandoc.documentOf Pandoc.defaultVersion blocks
    let root := Kind.root.node [.node Kind.para.name ∅ [.text "a"]]
    Pandoc.tree v = .ok root ∧ (∃ written, Pandoc.document [1, 22] root = .ok written) ∧
      root.Merged := by
  intro blocks v root
  have htree : Pandoc.tree v = .ok root := by
    simp only [blocks, v, root]
    rfl
  obtain ⟨hdocument, hmerged⟩ := pandoc_to_markdown.1 v root htree
  exact ⟨htree, hdocument [1, 22], hmerged⟩

end DocBridge
