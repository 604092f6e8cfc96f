import DocBridge.Proofs.Engine.Chains
import DocBridge.Proofs.Markdown.Passages
import DocBridge.Proofs.Markdown.Tree
import DocBridge.Proofs.Pandoc.Text
import DocBridge.Proofs.Plugin.Builtin

/-!
# Markdown through Pandoc

Every Markdown source has a document, and every document is the document of a tree, so a chain from
Markdown through Pandoc back to the tree can only fail on the text between them. It does: Pandoc's
writer does not mind how deep a document nests, but its reader takes 127 levels and no more. Block
quotes need two levels each, so a paragraph in 62 of them is written and not read.
-/

namespace DocBridge

open Plugin

/-! ### The conversion -/

theorem Engine.exists_isBuiltin_builtin : ∃ engine : Engine, ofRegistry .builtin = .ok engine ∧
    engine.IsBuiltin Markdown.defaultBullet Pandoc.defaultVersion := by
  have hbuiltin : Registry.builtin =
      .builtinWith Markdown.defaultBullet Pandoc.defaultVersion := rfl
  rw [hbuiltin]
  exact exists_isBuiltin Markdown.defaultBullet Pandoc.defaultVersion

/-- The chain from Markdown through the text of a Pandoc document to the tree. -/
def throughPandoc : List String := [markdownLanguage, treeLanguage, pandocLanguage, treeLanguage]

namespace Engine.IsBuiltin

variable {engine : Engine} {bullet : Char} {version : Pandoc.Version}

theorem convert_throughPandoc (h : engine.IsBuiltin bullet version) (content : Content) :
    engine.convert throughPandoc content =
      .run [textToTree "Markdown reader" fun text => .ok (Markdown.read text),
        treeToText "Pandoc writer" (Pandoc.write version),
        textToTree "Pandoc reader" Pandoc.read] content := by
  refine convert_of_check ?_ content
  rw [throughPandoc, check_eq_convertersAlong (by decide) (by simp [h.names])]
  simp only [convertersAlong, converter?, h.converters]
  rfl

/-- A source is read, and its document is written; whether its text is read again depends on how
deep the document nests. -/
theorem convert_source_throughPandoc (h : engine.IsBuiltin bullet version)
    (hversion : ∀ n ∈ version, n < UInt64.size) {source : String} {v : Json.Value} {root : Node}
    (hdocument : Pandoc.document version (Markdown.read source) = .ok v)
    (htree : Pandoc.tree v = .ok root) :
    engine.convert throughPandoc (.text source) =
      ⟨["Markdown reader", "Pandoc writer", "Pandoc reader"],
        if v.nesting ≤ Json.documentDepth then .ok (.tree root) else .error .parse⟩ := by
  obtain ⟨hwrite, hread⟩ := Pandoc.read_of_document hversion hdocument
  have hsource := run_textToTree "Markdown reader" (fun text => .ok (Markdown.read text)) source
  have hwritten := run_treeToText "Pandoc writer" (Pandoc.write version) (Markdown.read source)
  have hlast := run_textToTree "Pandoc reader" Pandoc.read v.pretty
  rw [hwrite] at hwritten
  rw [hread, htree] at hlast
  rw [h.convert_throughPandoc, Conversion.run_cons_of_ok hsource,
    Conversion.run_cons_of_ok hwritten]
  by_cases hdepth : v.nesting ≤ Json.documentDepth
  · rw [if_pos hdepth] at hlast ⊢
    rw [Conversion.run_cons_of_ok hlast]
    rfl
  · rw [if_neg hdepth] at hlast ⊢
    rw [Conversion.run_cons_of_error hlast]
    rfl

end Engine.IsBuiltin

/-! ### Block quotes -/

namespace Markdown.Passage

open Text (Prose)

/-- A paragraph in so many block quotes. -/
def quotes : Nat → Prose → Passage
  | 0, p => para p
  | n + 1, p => quote [quotes n p]

theorem lines_quotes (n : Nat) (p : Prose) : lines (quotes n p) = [quoted n p.text] := by
  induction n with
  | zero => rfl
  | succ n ih =>
      rw [quotes, lines, linesOfAll, linesBehind, List.append_nil, ih, quoted_succ]
      rfl

theorem read_quoted (n : Nat) (p : Prose) : read (quoted n p.text) = tree [quotes n p] := by
  have hlines : linesOfAll [quotes n p] = [quoted n p.text] := by
    rw [linesOfAll, linesBehind, List.append_nil, lines_quotes]
  rw [← read_joinLines_linesOfAll, hlines, Text.joinLines, String.intercalate_singleton]

theorem quoted_eq_join (n : Nat) {line : String} (hline : line ≠ "") :
    quoted n line = String.join (List.replicate n "> ") ++ line := by
  induction n with
  | zero => simp [quoted]
  | succ n ih =>
      have hne : quoted n line ≠ "" := by
        rw [ih]
        intro hempty
        exact hline (String.append_eq_empty_iff.mp hempty).2
      rw [quoted_succ, quoteLine, if_neg hne, ih, List.replicate_succ, String.join_cons,
        String.append_assoc]

/-- Each quote adds an object and a list to what is inside. -/
theorem exists_blockValue_quotes (n : Nat) (p : Prose) :
    ∃ v, Pandoc.blockValue (child (quotes n p)) = .ok v ∧ v.nesting = 2 * n + 3 := by
  induction n with
  | zero =>
      refine ⟨Pandoc.tagged Kind.para.name (.array (Pandoc.textValues p.text ++ [])), ?_, ?_⟩
      · rw [quotes, child, Pandoc.blockValue, Kind.ofName?_name]
        rfl
      · rw [List.append_nil, Pandoc.nesting_tagged, Json.Value.nesting,
          Pandoc.nestingAll_textValues p.text_ne_empty]
  | succ n ih =>
      obtain ⟨v, hv, hnesting⟩ := ih
      refine ⟨Pandoc.tagged Kind.blockQuote.name (.array [v]), ?_, ?_⟩
      · rw [quotes, child, children, children, Pandoc.blockValue, Kind.ofName?_name,
          Pandoc.blockValues, hv]
        rfl
      · rw [Pandoc.nesting_tagged, Json.Value.nesting, Json.Value.nestingAll,
          Json.Value.nestingAll, hnesting]
        omega

end Markdown.Passage

open Markdown in
/-- A paragraph of prose in block quotes is converted through Pandoc when there are at most 61 of
them. -/
theorem Engine.IsBuiltin.convert_quotes_throughPandoc {engine : Engine} {bullet : Char}
    (h : engine.IsBuiltin bullet Pandoc.defaultVersion) (n : Nat) (p : Text.Prose) :
    ∃ root, engine.convert throughPandoc
        (.text (String.join (List.replicate n "> ") ++ p.text)) =
      ⟨["Markdown reader", "Pandoc writer", "Pandoc reader"],
        if n ≤ 61 then .ok (.tree root) else .error .parse⟩ := by
  obtain ⟨block, hblock, hnesting⟩ := Passage.exists_blockValue_quotes n p
  have hdocument : Pandoc.document Pandoc.defaultVersion (Markdown.read (quoted n p.text)) =
      .ok (Pandoc.documentOf Pandoc.defaultVersion [block]) := by
    rw [Passage.read_quoted, Pandoc.document_eq_ok_iff]
    refine ⟨[block], ?_, rfl⟩
    rw [Passage.tree, Kind.node, Passage.children, Passage.children, Pandoc.blockValues, hblock]
    rfl
  have hdeep : (Pandoc.documentOf Pandoc.defaultVersion [block]).nesting ≤ Json.documentDepth ↔
      n ≤ 61 := by
    rw [Pandoc.nesting_documentOf, Json.Value.nestingAll, Json.Value.nestingAll, hnesting,
      Json.documentDepth]
    omega
  have hconvert := h.convert_source_throughPandoc (by decide) hdocument
    (Pandoc.tree_of_document hdocument)
  rw [Passage.quoted_eq_join n p.text_ne_empty] at hconvert
  simp only [hdeep] at hconvert
  exact ⟨_, hconvert⟩

/-- A Markdown source has a document, which is written and which in memory is the document of a
tree. With the built-in plugins the source is converted to this tree through the text of the
document when that nests at most 127 deep, and else Pandoc's reader refuses what Pandoc's writer
wrote. -/
theorem markdown_through_pandoc (source : String) : ∃ engine v root,
    Engine.ofRegistry .builtin = .ok engine ∧
    Pandoc.document Pandoc.defaultVersion (Markdown.read source) = .ok v ∧
    Pandoc.tree v = .ok root ∧
    engine.convert throughPandoc (.text source) =
      ⟨["Markdown reader", "Pandoc writer", "Pandoc reader"],
        if v.nesting ≤ 127 then .ok (.tree root) else .error .parse⟩ := by
  obtain ⟨engine, hengine, hbuiltin⟩ := Engine.exists_isBuiltin_builtin
  obtain ⟨v, root, hv, hroot⟩ := Markdown.exists_document_read Pandoc.defaultVersion source
  have hconvert := hbuiltin.convert_source_throughPandoc (by decide) hv hroot
  exact ⟨engine, v, root, hengine, hv, hroot, hconvert⟩

/-- In 62 block quotes a paragraph of one letter is written as a document and not read again. -/
theorem not_markdown_through_pandoc : ∃ engine, Engine.ofRegistry .builtin = .ok engine ∧
    engine.convert throughPandoc (.text (String.join (List.replicate 62 "> ") ++ "a")) =
      ⟨["Markdown reader", "Pandoc writer", "Pandoc reader"], .error .parse⟩ := by
  obtain ⟨engine, hengine, hbuiltin⟩ := Engine.exists_isBuiltin_builtin
  obtain ⟨root, hroot⟩ := hbuiltin.convert_quotes_throughPandoc 62 ⟨"a", by decide⟩
  exact ⟨engine, hengine, hroot⟩

end DocBridge
