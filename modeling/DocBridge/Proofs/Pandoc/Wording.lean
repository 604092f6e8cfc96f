import DocBridge.Proofs.Pandoc.Settled

/-!
# Words after export and import

A document does not keep how words are set apart, but it keeps the words: without spaces, tabs and
line feeds the text of a tree that is exported and imported again is the text of the tree. All that
is lost where a text is cut into pieces are separators, and joining leaves puts their texts one
behind the other. The only text that goes missing is what is below a break, of which a document says
nothing else than that it is there.
-/

namespace DocBridge

theorem Child.textOfAll_join (c : Child) (rest : List Child) :
    textOfAll (join c rest) = textContent c ++ textOfAll rest := by
  cases c with
  | node name attributes children => rfl
  | text s =>
      cases rest with
      | nil => rfl
      | cons d rest =>
          cases d with
          | node name attributes children => rfl
          | text t => exact String.append_assoc

theorem Child.textOfAll_foldr_join (children rest : List Child) :
    textOfAll (children.foldr join rest) = textOfAll children ++ textOfAll rest := by
  induction children with
  | nil => exact String.empty_append.symm
  | cons c children ih =>
      rw [List.foldr_cons, textOfAll_join, ih, textOfAll, String.append_assoc]

namespace Pandoc

/-- A text without its spaces, tabs and line feeds. -/
def unspaced (s : String) : String := String.ofList (s.toList.filter fun c => !Piece.isSeparator c)

theorem unspaced_append (s t : String) : unspaced (s ++ t) = unspaced s ++ unspaced t := by
  rw [unspaced, String.toList_append, List.filter_append, String.ofList_append, unspaced, unspaced]

/-! ### Pieces -/

namespace Piece

theorem filter_written_of_breaks {p : Piece} (h : p.breaks = true) :
    p.written.filter (fun c => !isSeparator c) = [] := by
  cases p with
  | word text => simp [breaks] at h
  | space => rfl
  | softBreak => rfl

/-- Cutting a text into pieces loses nothing but separators. -/
theorem filter_writtenAll_ofText (l : List Char) :
    (writtenAll (ofText l)).filter (fun c => !isSeparator c) =
      l.filter fun c => !isSeparator c := by
  induction l with
  | nil => rfl
  | cons c l ih =>
      rw [ofText_cons]
      obtain ⟨hc, text, rest, hpieces, h⟩ | ⟨hc, h⟩ | ⟨hc, -, h⟩ |
        ⟨hc, p, q, rest, hpieces, hp, hq, -, h⟩ := extend_cases c (ofText l)
      · rw [hpieces] at ih
        rw [h, List.filter_cons_of_pos (by simp [hc]), ← ih]
        simp [written, hc]
      · rw [h, List.filter_cons_of_pos (by simp [hc]), ← ih]
        simp [written, hc]
      · rw [h, List.filter_cons_of_neg (by simp [hc]), writtenAll_cons, List.filter_append,
          filter_written_of_breaks (breaks_separator c), ih, List.nil_append]
      · rw [hpieces, writtenAll_cons, List.filter_append, filter_written_of_breaks hp] at ih
        rw [h, List.filter_cons_of_neg (by simp [hc]), writtenAll_cons, List.filter_append,
          filter_written_of_breaks hq, ih]

theorem unspaced_textContent_child (p : Piece) :
    unspaced p.child.textContent = unspaced (String.ofList p.written) := by
  cases p <;> rfl

theorem unspaced_textOfAll_map_child (pieces : List Piece) :
    unspaced (Child.textOfAll (pieces.map child)) =
      unspaced (String.ofList (writtenAll pieces)) := by
  induction pieces with
  | nil => rfl
  | cons p pieces ih =>
      rw [List.map_cons, Child.textOfAll, unspaced_append, ih, unspaced_textContent_child,
        writtenAll_cons, String.ofList_append, unspaced_append]

end Piece

/-! ### Trees -/

theorem interior_eq_nothing_iff {kind : Kind} :
    interior kind = .nothing ↔ kind = .softBreak ∨ kind = .lineBreak := by
  cases kind <;> simp [interior]

mutual

/-- What becomes of a child has its words. -/
theorem unspaced_settled {place : Place} : (c : Child) → Exportable place c → c.BreaksBare →
    unspaced (Child.textOfAll (settled c)) = unspaced c.textContent
  | .text s, _, _ => by
      rw [settled, Piece.unspaced_textOfAll_map_child, unspaced, String.toList_ofList,
        Piece.filter_writtenAll_ofText]
      rfl
  | .node name attributes children, hexp, hbare => by
      obtain ⟨kind, rfl, hplace, -⟩ := id hexp
      have hbelow := (exportable_node_iff hplace).mp hexp
      rw [settled_node, Child.textOfAll, Child.textOfAll, String.append_empty, Child.textContent,
        Child.textContent, settledBelow]
      cases hinterior : interior kind with
      | only below => exact unspaced_allSettled children (hbelow below hinterior) hbare.2
      | verbatim => exact congrArg unspaced String.append_empty
      | nothing =>
          have hbreak := (interior_eq_nothing_iff.mp hinterior).imp
            (congrArg Kind.name) (congrArg Kind.name)
          rw [hbare.1 hbreak]
          rfl

theorem unspaced_allSettled {place : Place} : (children : List Child) →
    AllExportable place children → Child.AllBreaksBare children →
      unspaced (Child.textOfAll (allSettled children)) = unspaced (Child.textOfAll children)
  | [], _, _ => by rw [allSettled]
  | c :: rest, hexp, hbare => by
      rw [allSettled, Child.textOfAll_foldr_join, Child.textOfAll, unspaced_append, unspaced_append,
        unspaced_settled c hexp.1 hbare.1, unspaced_allSettled rest hexp.2 hbare.2]

end

/-- A tree that has a document has its words again after import, if there are none below its
breaks: the texts of the two trees differ in nothing but spaces, tabs and line feeds. -/
theorem words_kept (version : Version) (root : Node) (v : Json.Value) (hbare : root.BreaksBare)
    (h : document version root = .ok v) :
    ∃ restored, tree v = .ok restored ∧
      unspaced restored.textContent = unspaced root.textContent := by
  obtain ⟨blocks, hblocks, -⟩ := document_eq_ok_iff.mp h
  have hexp : AllExportable .block root.children :=
    (allExportable_iff root.name .block root.children).mpr ⟨blocks, hblocks⟩
  exact ⟨_, tree_of_document h, unspaced_allSettled root.children hexp hbare.2⟩

theorem words_kept_scattered :
    let root : Node := ⟨"root", ∅, [
      .node "Header" (.ofEntries [("level", .string "2")])
        [.text " a\t", .text "", .text "\n b", .node "Code" ∅ [.text "c  ", .text "d"],
          .node "SoftBreak" (.ofEntries [("note", .null)]) [],
          .node "Link" ∅ [.node "Emph" ∅ [.text "e f"]], .text "g\n"],
      .node "OrderedList" ∅ [.node "ListItem" ∅ [.node "CodeBlock" ∅ [.text "\tx\n\ty"]]]]⟩
    root.BreaksBare ∧ ∃ v restored, document defaultVersion root = .ok v ∧
      tree v = .ok restored ∧ unspaced restored.textContent = "abcdefgxy" := by
  intro root
  have hbare : root.BreaksBare := by
    simp [root, Node.BreaksBare, Child.ofNode, Child.BreaksBare, Child.AllBreaksBare, Kind.name,
      Child.textOfAll]
  obtain ⟨v, hv⟩ : ∃ v, document defaultVersion root = .ok v := ⟨_, rfl⟩
  obtain ⟨restored, hrestored, hwords⟩ := words_kept defaultVersion root v hbare hv
  exact ⟨hbare, v, restored, hv, hrestored, hwords.trans (by decide +kernel)⟩

end Pandoc

end DocBridge
