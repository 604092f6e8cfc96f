import DocBridge.Proofs.Except
import DocBridge.Proofs.Pandoc.Settled
import DocBridge.Proofs.Tree.Alike

/-!
# What decides whether a tree can be exported

A tree can be exported exactly when all children of its root stand where the grammar allows them,
and else the fault is one of the tree. Export goes through the children of a node in order and stops
at the first fault, so with which fault it stops depends on the names and texts of the tree only:
attributes and the name of the root, which the document may show, decide nothing.
-/

namespace DocBridge.Pandoc

variable {place : Place} {c d : Child} {children others : List Child}

/-- Two trees that differ in attributes only. -/
abbrev SameButAttributes : Child → Child → Prop := Child.Alike fun _ _ _ => True

theorem failAlike_allValuesOf (parent : String) (place : Place)
    (h : List.Forall₂ (fun c d => ∀ parent place,
      FailAlike (valuesOf parent place c) (valuesOf parent place d)) children others) :
    FailAlike (allValuesOf parent place children) (allValuesOf parent place others) := by
  induction h with
  | nil => exact .refl _
  | cons hcd _ ih =>
      rw [allValuesOf_cons, allValuesOf_cons]
      exact (hcd parent place).bind fun _ _ => ih.bind fun _ _ => .ok _ _

theorem failAlike_valuesOf (parent : String) (place : Place) (h : SameButAttributes c d) :
    FailAlike (valuesOf parent place c) (valuesOf parent place d) := by
  induction h using Child.Alike.induction generalizing parent place with
  | text s => exact .refl _
  | @node name attributes attributes' children others _ _ ih =>
      by_cases h : ∃ kind : Kind, kind.name = name ∧ place? kind = some place
      · obtain ⟨kind, rfl, hplace⟩ := h
        rw [valuesOf_node hplace, valuesOf_node hplace]
        refine FailAlike.bind ?_ fun _ _ => .ok _ _
        rw [innerValues, innerValues]
        cases interior kind with
        | only below =>
            exact failAlike_allValuesOf _ _ (ih.imp fun _ _ h => h.2)
        | verbatim => exact .refl _
        | nothing => exact .refl _
      · have hplaced (kind : Kind) (hname : kind.name = name) : place? kind ≠ some place :=
          fun hplace => h ⟨kind, hname, hplace⟩
        rw [valuesOf_misplaced hplaced, valuesOf_misplaced hplaced]
        exact .refl _

theorem failAlike_document (version : Version) (root : Node) (parent : String) :
    FailAlike (document version root) (allValuesOf parent .block root.children) := by
  intro e
  have hblocks : allValuesOf parent .block root.children = blockValues root.children := rfl
  rw [document, hblocks]
  cases blockValues root.children with
  | error e' => simp [bind, Except.bind]
  | ok blocks => simp [bind, Except.bind, pure, Except.pure]

/-- A tree is exported exactly if every child of its root is a block, and else export fails with a
fault of the tree. Trees that differ only in attributes and in the name of the root both are
exported, or fail with the same fault. -/
theorem document_outcomes (version : Version) (root : Node) :
    ((∃ value, document version root = .ok value) ↔ ∀ c ∈ root.children, Exportable .block c) ∧
      (∀ e, document version root = .error e → ∃ fault, e = .malformedTree fault) ∧
      ∀ (version' : Version) (other : Node),
        List.Forall₂ SameButAttributes root.children other.children →
          FailAlike (document version root) (document version' other) := by
  have hblocks := failAlike_document version root root.name
  refine ⟨?_, fun e he => ?_, fun version' other hsame => ?_⟩
  · rw [← allExportable_iff_forall_mem, allExportable_iff root.name]
    simp only [document_eq_ok_iff]
    exact ⟨fun ⟨_, values, hvalues, _⟩ => ⟨values, hvalues⟩,
      fun ⟨values, hvalues⟩ => ⟨_, values, hvalues, rfl⟩⟩
  · obtain ⟨-, values, hvalues⟩ | ⟨-, fault, hfault⟩ :=
      allValuesOf_cases root.name .block root.children
    · cases hvalues.symm.trans ((hblocks e).mp he)
    · exact ⟨fault, Except.error.inj (((hblocks e).mp he).symm.trans hfault)⟩
  · have hchildren : FailAlike (allValuesOf root.name .block root.children)
        (allValuesOf root.name .block other.children) :=
      failAlike_allValuesOf _ _
        (hsame.imp fun _ _ h parent place => failAlike_valuesOf parent place h)
    exact (hblocks.trans hchildren).trans (failAlike_document version' other root.name).symm

/-- A node of an unknown kind among inlines, with attributes and without. -/
def underlined (attributes : Attributes) : Child :=
  .node "Para" attributes [.node "Underline" attributes [.text "a"]]

theorem document_outcomes_underlined :
    let marked := Attributes.empty.insert "level" (.natural 1)
    let root : Node := { name := "note", attributes := marked, children := [underlined marked] }
    let other : Node := { name := "root", children := [underlined ∅] }
    let fault : Error := .malformedTree (.unsupported "Underline" .inline)
    List.Forall₂ SameButAttributes root.children other.children ∧
      document defaultVersion other = .error fault ∧
        document defaultVersion root = .error fault := by
  intro marked root other fault
  have hsame : List.Forall₂ SameButAttributes root.children other.children :=
    .cons (.node trivial (.cons (.node trivial (.cons (.text "a") .nil)) .nil)) .nil
  have hother : document defaultVersion other = .error fault := rfl
  have hroot := (document_outcomes defaultVersion root).2.2 defaultVersion other hsame fault
  exact ⟨hsame, hother, hroot.mpr hother⟩

end DocBridge.Pandoc
