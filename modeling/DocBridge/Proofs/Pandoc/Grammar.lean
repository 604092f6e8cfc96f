import DocBridge.Pandoc.Export

/-!
# The grammar of documents

A node of each kind has one place where it may stand, and of what is below it a document keeps
children that stand in one place again, their text, or nothing. Which trees can be exported is read
off these two tables, and export itself is one function of the kind once the values of the children
are known. Whatever is shown of all nodes is shown with `valuesOf_node`.
-/

namespace DocBridge.Pandoc

inductive Place where
  | block
  | item
  | inline
deriving DecidableEq, Repr

/-- What a document keeps of the children of a node. -/
inductive Interior where
  | only (place : Place)
  | verbatim
  | nothing
deriving DecidableEq, Repr

def place? : Kind → Option Place
  | .root => none
  | .para | .plain | .header | .codeBlock | .blockQuote | .bulletList | .orderedList
  | .mathBlock => some .block
  | .listItem => some .item
  | .emph | .strong | .code | .math | .link | .image | .softBreak | .lineBreak => some .inline

def interior : Kind → Interior
  | .root | .blockQuote | .listItem => .only .block
  | .bulletList | .orderedList => .only .item
  | .para | .plain | .header | .emph | .strong | .link | .image => .only .inline
  | .codeBlock | .mathBlock | .code | .math => .verbatim
  | .softBreak | .lineBreak => .nothing

mutual

/-- A child may stand in a place, and so may, in theirs, all children below it that are kept. -/
def Exportable : Place → Child → Prop
  | place, .text _ => place = .inline
  | place, .node name _ children => ∃ kind : Kind, kind.name = name ∧ place? kind = some place ∧
    match interior kind with
    | .only below => AllExportable below children
    | _ => True

def AllExportable : Place → List Child → Prop
  | _, [] => True
  | place, c :: rest => Exportable place c ∧ AllExportable place rest

end

theorem allExportable_iff_forall_mem {place : Place} {children : List Child} :
    AllExportable place children ↔ ∀ c ∈ children, Exportable place c := by
  induction children with
  | nil => simp [AllExportable]
  | cons c rest ih => rw [AllExportable, ih, List.forall_mem_cons]

/-! ### The value of a node -/

/-- The value of a node of a kind, given the values of its children. -/
def element (kind : Kind) (n : Node) (inner : List Json.Value) : Json.Value :=
  match kind with
  | .root | .listItem => .array inner
  | .para | .plain | .blockQuote | .bulletList | .emph | .strong => tagged kind.name (.array inner)
  | .header => tagged kind.name (.array
      [.natural ((n.natural? "level").getD 1), attributesWith [], .array inner])
  | .codeBlock => tagged kind.name (.array
      [attributesWith (n.string? "lang").toList, .string n.textContent])
  | .orderedList => tagged kind.name (.array
      [.array [.natural ((n.natural? "start").getD 1), bare "Decimal", bare (delimiterTag n)],
        .array inner])
  | .mathBlock => tagged "Para" (.array
      [tagged "Math" (.array [bare "DisplayMath", .string n.textContent])])
  | .code => tagged kind.name (.array [attributesWith [], .string n.textContent])
  | .math => tagged kind.name (.array [bare "InlineMath", .string n.textContent])
  | .link | .image => tagged kind.name (.array [attributesWith [], .array inner, .array
      [.string ((n.string? "url").getD ""), .string ((n.string? "title").getD "")]])
  | .softBreak | .lineBreak => bare kind.name

/-- The values of a child in a place below a node with a name. -/
def valuesOf (parent : String) : Place → Child → Except Error (List Json.Value)
  | .block, c => return [← blockValue c]
  | .item, c => return [← itemValue parent c]
  | .inline, c => inlineValue c

def allValuesOf (parent : String) : Place → List Child → Except Error (List Json.Value)
  | .block, children => blockValues children
  | .item, children => itemValues parent children
  | .inline, children => inlineValues children

/-- The values of the children that a document keeps of a node. -/
def innerValues (kind : Kind) (children : List Child) : Except Error (List Json.Value) :=
  match interior kind with
  | .only place => allValuesOf kind.name place children
  | _ => .ok []

section Values

variable {parent name : String} {place : Place} {kind : Kind} {attributes : Attributes}
  {c : Child} {children rest : List Child} {values inner : List Json.Value}

@[simp] theorem allValuesOf_nil : allValuesOf parent place [] = .ok [] := by
  cases place <;> simp [allValuesOf, blockValues, itemValues, inlineValues]

theorem allValuesOf_cons : allValuesOf parent place (c :: rest) =
    (do return (← valuesOf parent place c) ++ (← allValuesOf parent place rest)) := by
  cases place with
  | block => simp [allValuesOf, valuesOf, blockValues]
  | item => simp [allValuesOf, valuesOf, itemValues]
  | inline => simp [allValuesOf, valuesOf, inlineValues]

theorem valuesOf_node (h : place? kind = some place) :
    valuesOf parent place (.node kind.name attributes children) =
      (do
        let inner ← innerValues kind children
        return [element kind ⟨kind.name, attributes, children⟩ inner]) := by
  cases kind <;> cases h <;>
    simp only [valuesOf, blockValue, itemValue, inlineValue, Kind.ofName?_name, innerValues,
      interior, allValuesOf, element, bind_pure_comp, Functor.map_map, if_true] <;> rfl

/-- The fault of a node that is out of place. -/
def misplaced (parent name : String) : Place → TreeFault
  | .block => .unsupported name .block
  | .item => .notListItem parent
  | .inline => .unsupported name .inline

/-- A node that is out of place makes export fail, whatever its attributes and children are. -/
theorem valuesOf_misplaced (h : ∀ kind : Kind, kind.name = name → place? kind ≠ some place) :
    valuesOf parent place (.node name attributes children) =
      .error (.malformedTree (misplaced parent name place)) := by
  have hkind (kind : Kind) (hname : Kind.ofName? name = some kind) : place? kind ≠ some place :=
    h kind (Kind.name_of_ofName? hname)
  cases place with
  | block =>
      simp only [valuesOf, blockValue]
      split <;> first | rfl | exact absurd rfl (hkind _ ‹_›)
  | item =>
      have hname : name ≠ Kind.listItem.name := fun hname => h .listItem hname.symm rfl
      simp only [valuesOf, itemValue, hname]
      rfl
  | inline =>
      simp only [valuesOf, inlineValue]
      split <;> first | rfl | exact absurd rfl (hkind _ ‹_›)

/-- A node that is exported has a kind that belongs where it stands. -/
theorem exists_element_of_valuesOf
    (h : valuesOf parent place (.node name attributes children) = .ok values) :
    ∃ kind inner, kind.name = name ∧ place? kind = some place ∧
      innerValues kind children = .ok inner ∧
      values = [element kind ⟨name, attributes, children⟩ inner] := by
  by_cases hkind : ∃ kind : Kind, kind.name = name ∧ place? kind = some place
  · obtain ⟨kind, rfl, hplace⟩ := hkind
    rw [valuesOf_node hplace] at h
    cases hinner : innerValues kind children with
    | error e => simp [hinner, bind, Except.bind] at h
    | ok inner =>
        rw [hinner] at h
        exact ⟨kind, inner, rfl, hplace, hinner, (Except.ok.inj h).symm⟩
  · rw [valuesOf_misplaced fun kind hname hplace => hkind ⟨kind, hname, hplace⟩] at h
    simp at h

theorem exists_append_of_allValuesOf (h : allValuesOf parent place (c :: rest) = .ok values) :
    ∃ first others, valuesOf parent place c = .ok first ∧
      allValuesOf parent place rest = .ok others ∧ values = first ++ others := by
  rw [allValuesOf_cons] at h
  cases hfirst : valuesOf parent place c with
  | error e => simp [hfirst, bind, Except.bind] at h
  | ok first =>
      cases hothers : allValuesOf parent place rest with
      | error e => simp [hfirst, hothers, bind, Except.bind] at h
      | ok others =>
          rw [hfirst, hothers] at h
          exact ⟨first, others, rfl, rfl, (Except.ok.inj h).symm⟩

theorem valuesOf_text_eq_error (s : String) (h : place ≠ .inline) :
    ∃ fault, valuesOf parent place (.text s) = .error (.malformedTree fault) := by
  cases place with
  | block => exact ⟨_, rfl⟩
  | item => exact ⟨_, rfl⟩
  | inline => exact absurd rfl h

theorem exportable_node_iff (hplace : place? kind = some place) :
    Exportable place (.node kind.name attributes children) ↔
      ∀ below, interior kind = .only below → AllExportable below children := by
  rw [Exportable]
  constructor
  · rintro ⟨kind', hname, -, hbelow⟩ below hinterior
    obtain rfl := Kind.name_injective hname
    simpa [hinterior] using hbelow
  · intro h
    refine ⟨kind, rfl, hplace, ?_⟩
    split
    · next below hinterior => exact h below hinterior
    · trivial

end Values

/-! ### Which trees can be exported -/

mutual

/-- Export succeeds with a child that the grammar allows, and else fails with a tree fault. -/
theorem valuesOf_cases (parent : String) (place : Place) : (c : Child) →
    (Exportable place c ∧ ∃ values, valuesOf parent place c = .ok values) ∨
      (¬Exportable place c ∧ ∃ fault, valuesOf parent place c = .error (.malformedTree fault))
  | .text s => by
      by_cases hplace : place = .inline
      · subst hplace
        exact .inl ⟨rfl, _, rfl⟩
      · exact .inr ⟨hplace, valuesOf_text_eq_error s hplace⟩
  | .node name attributes children => by
      by_cases h : ∃ kind : Kind, kind.name = name ∧ place? kind = some place
      · obtain ⟨kind, rfl, hplace⟩ := h
        rw [exportable_node_iff hplace, valuesOf_node hplace]
        cases hinterior : interior kind with
        | only below =>
            simp only [innerValues, hinterior, Interior.only.injEq, forall_eq']
            obtain ⟨hall, values, hvalues⟩ | ⟨hall, fault, hfault⟩ :=
              allValuesOf_cases kind.name below children
            · exact .inl ⟨hall, _, by rw [hvalues]; rfl⟩
            · exact .inr ⟨hall, fault, by rw [hfault]; rfl⟩
        | verbatim => exact .inl ⟨nofun, _, by rw [innerValues, hinterior]; rfl⟩
        | nothing => exact .inl ⟨nofun, _, by rw [innerValues, hinterior]; rfl⟩
      · refine .inr ⟨fun hexp => ?_, _, valuesOf_misplaced fun kind hname hplace => ?_⟩
        · obtain ⟨kind, hname, hplace, -⟩ := hexp
          exact h ⟨kind, hname, hplace⟩
        · exact h ⟨kind, hname, hplace⟩

theorem allValuesOf_cases (parent : String) (place : Place) : (children : List Child) →
    (AllExportable place children ∧ ∃ values, allValuesOf parent place children = .ok values) ∨
      (¬AllExportable place children ∧
        ∃ fault, allValuesOf parent place children = .error (.malformedTree fault))
  | [] => .inl ⟨trivial, _, allValuesOf_nil⟩
  | c :: rest => by
      rw [allValuesOf_cons, AllExportable]
      obtain ⟨hfirst, first, hvalues⟩ | ⟨hfirst, fault, hfault⟩ := valuesOf_cases parent place c
      · obtain ⟨hrest, others, hothers⟩ | ⟨hrest, fault, hfault⟩ :=
          allValuesOf_cases parent place rest
        · exact .inl ⟨⟨hfirst, hrest⟩, _, by rw [hvalues, hothers]; rfl⟩
        · exact .inr ⟨fun h => hrest h.2, fault, by rw [hvalues, hfault]; rfl⟩
      · exact .inr ⟨fun h => hfirst h.1, fault, by rw [hfault]; rfl⟩

end

theorem allExportable_iff (parent : String) (place : Place) (children : List Child) :
    AllExportable place children ↔ ∃ values, allValuesOf parent place children = .ok values := by
  obtain ⟨hall, values, hvalues⟩ | ⟨hall, fault, hfault⟩ := allValuesOf_cases parent place children
  · exact iff_of_true hall ⟨values, hvalues⟩
  · exact iff_of_false hall (by simp [hfault])

end DocBridge.Pandoc
