import DocBridge.Pandoc.Words
import DocBridge.Proofs.Tree.Leaves
import DocBridge.Tree.Kind

/-!
# Text as leaves and soft breaks

The pieces of a text become children again, a word or space a text leaf and a soft break a node, and
neighbouring leaves become one. A text is left as it was exactly when it is plain: line feeds are
gone from the leaves, tabs have become spaces, and of a run of spaces one is left, so a text that is
not plain has become shorter or has other characters.
-/

namespace DocBridge.Pandoc

namespace Piece

variable {c : Char} {l : List Char} {pieces : List Piece} {p : Piece}

/-- Whether a piece stands between words. -/
def breaks : Piece → Bool
  | word _ => false
  | _ => true

/-- The text of a piece. Of a run of separators one is left. -/
def written : Piece → List Char
  | word text => text
  | space => [' ']
  | softBreak => ['\n']

@[simp] theorem breaks_separator (c : Char) : (separator c).breaks = true := by
  unfold separator
  split <;> rfl

theorem separator_eq_softBreak_iff : separator c = softBreak ↔ c = '\n' := by
  unfold separator
  split <;> simp_all

theorem ofText_cons (c : Char) (l : List Char) : ofText (c :: l) = extend c (ofText l) := rfl

/-! ### One more character -/

/-- One more character in front makes the first word longer, starts a word, is a separator of its
own, or becomes one with the separator behind it. -/
theorem extend_cases (c : Char) (pieces : List Piece) :
    (isSeparator c = false ∧
      ∃ text rest, pieces = word text :: rest ∧ extend c pieces = word (c :: text) :: rest) ∨
    (isSeparator c = false ∧ extend c pieces = word [c] :: pieces) ∨
    (isSeparator c = true ∧ pieces.head?.any breaks = false ∧
      extend c pieces = separator c :: pieces) ∨
    (isSeparator c = true ∧ ∃ p q rest, pieces = p :: rest ∧ p.breaks = true ∧ q.breaks = true ∧
      (q = softBreak ↔ c = '\n' ∨ p = softBreak) ∧ extend c pieces = q :: rest) := by
  cases hc : isSeparator c with
  | false =>
      cases pieces with
      | nil => simp [extend, hc]
      | cons p rest => cases p <;> simp [extend, hc]
  | true =>
      cases pieces with
      | nil => simp [extend, hc]
      | cons p rest =>
          cases p with
          | word text => simp [extend, hc, breaks]
          | space =>
              have hq := breaks_separator c
              simp [extend, hc, hq, separator_eq_softBreak_iff, show breaks space = true from rfl]
          | softBreak => simp [extend, hc, breaks]

theorem head?_extend (c : Char) (pieces : List Piece) :
    (extend c pieces).head?.any breaks = isSeparator c := by
  obtain ⟨hc, text, rest, -, h⟩ | ⟨hc, h⟩ | ⟨hc, -, h⟩ | ⟨hc, p, q, rest, -, -, hq, -, h⟩ :=
    extend_cases c pieces
  · simp [h, hc, breaks]
  · simp [h, hc, breaks]
  · simp [h, hc]
  · simp [h, hc, hq]

theorem head?_ofText (l : List Char) : (ofText l).head?.any breaks = l.head?.any isSeparator := by
  cases l with
  | nil => rfl
  | cons c l => rw [ofText_cons, head?_extend, List.head?_cons, Option.any_some]

theorem ofText_ne_nil (hl : l ≠ []) : ofText l ≠ [] := by
  cases l with
  | nil => exact absurd rfl hl
  | cons c l =>
      rw [ofText_cons]
      obtain ⟨-, text, rest, -, h⟩ | ⟨-, h⟩ | ⟨-, -, h⟩ | ⟨-, p, q, rest, -, -, -, -, h⟩ :=
        extend_cases c (ofText l) <;> simp [h]

/-! ### What is left of a text -/

def writtenAll (pieces : List Piece) : List Char := pieces.flatMap written

@[simp] theorem writtenAll_nil : writtenAll [] = [] := rfl

@[simp] theorem writtenAll_cons (p : Piece) (pieces : List Piece) :
    writtenAll (p :: pieces) = p.written ++ writtenAll pieces := rfl

theorem length_written (hp : p.breaks = true) : p.written.length = 1 := by
  cases p with
  | word text => simp [breaks] at hp
  | space => rfl
  | softBreak => rfl

theorem written_separator (hc : isSeparator c = true) :
    (separator c).written = [if c = '\t' then ' ' else c] := by
  simp only [isSeparator, Bool.or_eq_true, beq_iff_eq] at hc
  obtain (rfl | rfl) | rfl := hc <;> rfl

/-- What one more character adds to what is left. -/
theorem writtenAll_extend (c : Char) (pieces : List Piece) :
    (isSeparator c = false ∧ writtenAll (extend c pieces) = c :: writtenAll pieces) ∨
    (isSeparator c = true ∧ pieces.head?.any breaks = false ∧
      writtenAll (extend c pieces) = (if c = '\t' then ' ' else c) :: writtenAll pieces) ∨
    (isSeparator c = true ∧ pieces.head?.any breaks = true ∧
      (writtenAll (extend c pieces)).length = (writtenAll pieces).length) := by
  obtain ⟨hc, text, rest, rfl, h⟩ | ⟨hc, h⟩ | ⟨hc, hpieces, h⟩ |
    ⟨hc, p, q, rest, rfl, hp, hq, -, h⟩ := extend_cases c pieces
  · exact .inl ⟨hc, by simp [h, written]⟩
  · exact .inl ⟨hc, by simp [h, written]⟩
  · exact .inr (.inl ⟨hc, hpieces, by simp [h, written_separator hc]⟩)
  · exact .inr (.inr ⟨hc, by simpa using hp, by simp [h, length_written hp, length_written hq]⟩)

theorem length_writtenAll_ofText_le (l : List Char) :
    (writtenAll (ofText l)).length ≤ l.length := by
  induction l with
  | nil => simp [ofText]
  | cons c l ih =>
      rw [ofText_cons, List.length_cons]
      obtain ⟨-, h⟩ | ⟨-, -, h⟩ | ⟨-, -, h⟩ := writtenAll_extend c (ofText l)
      · rw [h, List.length_cons]
        omega
      · rw [h, List.length_cons]
        omega
      · omega

/-- A text without tabs and without neighbouring separators is left as it is, and no other text. -/
theorem writtenAll_ofText_eq_iff (l : List Char) : writtenAll (ofText l) = l ↔
    '\t' ∉ l ∧ l.IsChain fun c d => ¬(isSeparator c = true ∧ isSeparator d = true) := by
  induction l with
  | nil => simp [ofText]
  | cons c l ih =>
      rw [ofText_cons, List.isChain_cons, List.mem_cons]
      have hhead : (ofText l).head?.any breaks = false ↔ ∀ d ∈ l.head?, isSeparator d = false := by
        rw [head?_ofText]
        cases l <;> simp
      obtain ⟨hc, h⟩ | ⟨hc, hpieces, h⟩ | ⟨hc, hpieces, h⟩ := writtenAll_extend c (ofText l)
      · have htab : c ≠ '\t' := by
          rintro rfl
          simp [isSeparator] at hc
        simp [h, hc, ih, htab.symm]
      · have hl := hhead.mp hpieces
        by_cases htab : c = '\t'
        · rw [h, if_pos htab]
          simp [htab]
        · simp +contextual [h, htab, ih, hl, Ne.symm htab]
      · -- Two separators have become one, and nothing makes up for it.
        refine iff_of_false (fun heq => ?_) fun hchain => ?_
        · rw [heq, List.length_cons] at h
          have := length_writtenAll_ofText_le l
          omega
        · have hl := hhead.mpr fun d hd => by simpa [hc] using hchain.2.1 d hd
          simp [hl] at hpieces

/-! ### Where line feeds go -/

theorem softBreak_mem_extend_iff (c : Char) (pieces : List Piece) :
    softBreak ∈ extend c pieces ↔ c = '\n' ∨ softBreak ∈ pieces := by
  have hne (hc : isSeparator c = false) : c ≠ '\n' := by
    rintro rfl
    simp [isSeparator] at hc
  obtain ⟨hc, text, rest, rfl, h⟩ | ⟨hc, h⟩ | ⟨-, -, h⟩ | ⟨-, p, q, rest, rfl, -, -, hq, h⟩ :=
    extend_cases c pieces
  · simp [h, hne hc]
  · simp [h, hne hc]
  · rw [h, List.mem_cons, eq_comm, separator_eq_softBreak_iff]
  · rw [h, List.mem_cons, List.mem_cons, eq_comm, hq, or_assoc, @eq_comm _ p]

theorem softBreak_mem_ofText_iff (l : List Char) : softBreak ∈ ofText l ↔ '\n' ∈ l := by
  induction l with
  | nil => simp [ofText]
  | cons c l ih => rw [ofText_cons, softBreak_mem_extend_iff, ih, List.mem_cons, eq_comm]

theorem word_mem_extend {text : List Char} (hword : word text ∈ extend c pieces) :
    word text ∈ pieces ∨ isSeparator c = false ∧
      (text = [c] ∨ ∃ text', word text' ∈ pieces ∧ text = c :: text') := by
  have hbreaks {q : Piece} (hq : q.breaks = true) : word text ≠ q := by
    rintro rfl
    simp [breaks] at hq
  obtain ⟨hc, text', rest, rfl, h⟩ | ⟨hc, h⟩ | ⟨-, -, h⟩ | ⟨-, p, q, rest, rfl, -, hq, -, h⟩ :=
    extend_cases c pieces
  · rw [h, List.mem_cons] at hword
    obtain hword | hword := hword
    · exact .inr ⟨hc, .inr ⟨text', List.mem_cons_self, word.inj hword⟩⟩
    · exact .inl (List.mem_cons_of_mem _ hword)
  · rw [h, List.mem_cons] at hword
    obtain hword | hword := hword
    · exact .inr ⟨hc, .inl (word.inj hword)⟩
    · exact .inl hword
  · rw [h, List.mem_cons] at hword
    exact .inl (hword.resolve_left (hbreaks (breaks_separator c)))
  · rw [h, List.mem_cons] at hword
    exact .inl (List.mem_cons_of_mem _ (hword.resolve_left (hbreaks hq)))

theorem not_isSeparator_of_mem_word {text : List Char} (hword : word text ∈ ofText l) :
    ∀ c ∈ text, isSeparator c = false := by
  induction l generalizing text with
  | nil => simp [ofText] at hword
  | cons d l ih =>
      rw [ofText_cons] at hword
      obtain hmem | ⟨hd, rfl | ⟨text', hmem, rfl⟩⟩ := word_mem_extend hword
      · exact ih hmem
      · simpa using hd
      · simpa [hd] using ih hmem

/-! ### Alternation -/

/-- Whether a piece may stand among those of a text: a word is not empty and has no separators. -/
def IsSound : Piece → Prop
  | word text => text ≠ [] ∧ ∀ c ∈ text, isSeparator c = false
  | _ => True

/-- Words and separators take turns. -/
structure Alternate (pieces : List Piece) : Prop where
  turns : pieces.IsChain fun p q => p.breaks ≠ q.breaks
  sound : ∀ p ∈ pieces, p.IsSound

theorem alternate_cons : Alternate (p :: pieces) ↔
    p.IsSound ∧ (∀ q ∈ pieces.head?, p.breaks ≠ q.breaks) ∧ Alternate pieces := by
  constructor
  · intro h
    obtain ⟨hhead, hturns⟩ := List.isChain_cons.mp h.turns
    obtain ⟨hp, hsound⟩ := List.forall_mem_cons.mp h.sound
    exact ⟨hp, hhead, hturns, hsound⟩
  · intro h
    obtain ⟨hp, hhead, hturns, hsound⟩ := h
    exact ⟨List.isChain_cons.mpr ⟨hhead, hturns⟩, List.forall_mem_cons.mpr ⟨hp, hsound⟩⟩

theorem isSound_of_breaks (hp : p.breaks = true) : p.IsSound := by
  cases p with
  | word text => simp [breaks] at hp
  | space => trivial
  | softBreak => trivial

theorem Alternate.extend (h : Alternate pieces) (c : Char) : Alternate (extend c pieces) := by
  have hsingle (hc : isSeparator c = false) : (word [c]).IsSound := ⟨by simp, by simpa using hc⟩
  have hseparator : (separator c).IsSound := isSound_of_breaks (breaks_separator c)
  cases pieces with
  | nil =>
      rw [Piece.extend]
      split
      · exact alternate_cons.mpr ⟨hseparator, by simp, h⟩
      · next hc => exact alternate_cons.mpr ⟨hsingle (by simpa using hc), by simp, h⟩
  | cons p rest =>
      obtain ⟨hp, hhead, hrest⟩ := alternate_cons.mp h
      cases p with
      | word text =>
          rw [Piece.extend]
          split
          · refine alternate_cons.mpr ⟨hseparator, ?_, h⟩
            simp [show (word text).breaks = false from rfl]
          · next hc =>
              refine alternate_cons.mpr ⟨⟨by simp, ?_⟩, hhead, hrest⟩
              exact List.forall_mem_cons.mpr ⟨by simpa using hc, hp.2⟩
      | space =>
          rw [Piece.extend]
          split
          · refine alternate_cons.mpr ⟨hseparator, ?_, hrest⟩
            rwa [breaks_separator]
          · next hc =>
              exact alternate_cons.mpr ⟨hsingle (by simpa using hc), by simp [breaks], h⟩
      | softBreak =>
          rw [Piece.extend]
          split
          · exact h
          · next hc =>
              exact alternate_cons.mpr ⟨hsingle (by simpa using hc), by simp [breaks], h⟩

theorem alternate_ofText (l : List Char) : Alternate (ofText l) := by
  induction l with
  | nil => exact ⟨.nil, by simp [ofText]⟩
  | cons c l ih => exact ih.extend c

theorem extend_of_not_isSeparator (hc : isSeparator c = false)
    (hhead : ∀ q ∈ pieces.head?, q.breaks = true) : extend c pieces = word [c] :: pieces := by
  cases pieces with
  | nil => simp [extend, hc]
  | cons q rest =>
      cases q with
      | word text => simp [breaks] at hhead
      | space => simp [extend, hc]
      | softBreak => simp [extend, hc]

/-- What a piece leaves of a text is read as the piece again, in front of a piece of the other
sort. -/
theorem ofText_written_append (hsound : p.IsSound) (hp : p ≠ softBreak)
    (hhead : ∀ q ∈ (ofText l).head?, p.breaks ≠ q.breaks) :
    ofText (p.written ++ l) = p :: ofText l := by
  cases p with
  | softBreak => exact absurd rfl hp
  | space =>
      change extend ' ' (ofText l) = space :: ofText l
      cases hl : ofText l with
      | nil => rfl
      | cons q rest =>
          cases q with
          | word text => rfl
          | space => simp [hl] at hhead
          | softBreak => simp [hl, breaks] at hhead
  | word text =>
      obtain ⟨hne, hseparators⟩ := hsound
      have hwords : ∀ q ∈ (ofText l).head?, q.breaks = true := by
        simpa [breaks] using hhead
      change ofText (text ++ l) = word text :: ofText l
      clear hp hhead
      induction text with
      | nil => exact absurd rfl hne
      | cons c text ih =>
          obtain ⟨hc, hrest⟩ := List.forall_mem_cons.mp hseparators
          rw [List.cons_append, ofText_cons]
          cases htext : text with
          | nil => exact extend_of_not_isSeparator hc hwords
          | cons d text' =>
              rw [← htext, ih (by simp [htext]) hrest]
              simp [extend, hc]

end Piece

/-! ### Leaves -/

def Piece.child : Piece → Child
  | word text => .text (String.ofList text)
  | space => .text " "
  | softBreak => .node Kind.softBreak.name ∅ []

/-- The children that a text becomes. -/
def fragments (s : String) : List Child :=
  ((Piece.ofText s.toList).map Piece.child).foldr Child.join []

/-- Text that stays a leaf as it is: not empty, without tabs and line feeds, and without two spaces
in a row. -/
def IsPlain (s : String) : Prop :=
  s ≠ "" ∧ '\t' ∉ s.toList ∧ '\n' ∉ s.toList ∧
    s.toList.IsChain fun c d => ¬(c = ' ' ∧ d = ' ')

open Piece

theorem child_of_ne_softBreak {p : Piece} (h : p ≠ softBreak) :
    p.child = .text (String.ofList p.written) := by
  cases p with
  | word text => rfl
  | space => rfl
  | softBreak => exact absurd rfl h

theorem foldr_join_of_not_mem_softBreak {pieces : List Piece} (h : softBreak ∉ pieces)
    (hne : pieces ≠ []) :
    (pieces.map Piece.child).foldr Child.join [] = [.text (String.ofList (writtenAll pieces))] := by
  induction pieces with
  | nil => exact absurd rfl hne
  | cons p rest ih =>
      obtain ⟨hp, hrest⟩ := not_or.mp (List.mem_cons.not.mp h)
      rw [List.map_cons, List.foldr_cons, child_of_ne_softBreak (Ne.symm hp), writtenAll_cons]
      cases hr : rest with
      | nil => simp [Child.join]
      | cons q rest' =>
          rw [← hr, ih hrest (by simp [hr]), Child.join, String.ofList_append]

/-- The pieces that children made of pieces give when they are read again. -/
def Piece.again : Child → List Piece
  | .text s => ofText s.toList
  | .node _ _ _ => [softBreak]

theorem flatMap_again_foldr_join {pieces : List Piece} (h : Alternate pieces) :
    ((pieces.map Piece.child).foldr Child.join []).flatMap again = pieces := by
  induction pieces with
  | nil => rfl
  | cons p rest ih =>
      obtain ⟨hsound, hhead, hrest⟩ := alternate_cons.mp h
      have ih := ih hrest
      rw [List.map_cons, List.foldr_cons]
      generalize (rest.map Piece.child).foldr Child.join [] = joined at ih ⊢
      by_cases hp : p = softBreak
      · subst hp
        simp [Piece.child, Child.join, again, ih]
      · have hsingle : ofText p.written = [p] := by
          simpa [ofText] using ofText_written_append (l := []) hsound hp (by simp [ofText])
        rw [child_of_ne_softBreak hp]
        cases joined with
        | nil =>
            obtain rfl : [] = rest := ih
            simp [Child.join, again, hsingle]
        | cons d joined =>
            cases d with
            | node name attributes children =>
                rw [Child.join, List.flatMap_cons, ih, again, String.toList_ofList, hsingle]
                · rfl
                · simp
            | text t =>
                -- The joined leaf begins with the piece, and what follows it is of the other sort.
                rw [List.flatMap_cons, again] at ih
                have hturn : ∀ q ∈ (ofText t.toList).head?, p.breaks ≠ q.breaks := by
                  intro q hq
                  refine hhead q ?_
                  rw [← ih, List.head?_append, Option.mem_def.mp hq]
                  rfl
                rw [Child.join, List.flatMap_cons, again, String.toList_append,
                  String.toList_ofList, ofText_written_append hsound hp hturn, List.cons_append,
                  ih]

theorem not_mem_of_text_mem_fragments {s t : String} (h : .text t ∈ fragments s) :
    '\n' ∉ t.toList := by
  have happend (u v : String) (hu : '\n' ∉ u.toList) (hv : '\n' ∉ v.toList) :
      '\n' ∉ (u ++ v).toList := by
    simp [hu, hv]
  refine Child.forall_text_foldr_join happend (fun u hu => ?_) t h
  obtain ⟨p, hp, hchild⟩ := List.mem_map.mp hu
  cases p with
  | word text =>
      obtain rfl := Child.text.inj hchild
      intro hmem
      rw [String.toList_ofList] at hmem
      simpa [isSeparator] using not_isSeparator_of_mem_word hp _ hmem
  | space =>
      obtain rfl := Child.text.inj hchild
      decide
  | softBreak => simp [Piece.child] at hchild

theorem isPlain_iff (s : String) :
    IsPlain s ↔ s ≠ "" ∧ '\n' ∉ s.toList ∧ writtenAll (ofText s.toList) = s.toList := by
  have hspaces (htab : '\t' ∉ s.toList) (hnewline : '\n' ∉ s.toList) :
      (s.toList.IsChain fun c d => ¬(c = ' ' ∧ d = ' ')) ↔
        s.toList.IsChain fun c d => ¬(isSeparator c = true ∧ isSeparator d = true) := by
    have hseparator (c : Char) (hc : c ∈ s.toList) : isSeparator c = true ↔ c = ' ' := by
      have h1 : c ≠ '\t' := fun h => htab (h ▸ hc)
      have h2 : c ≠ '\n' := fun h => hnewline (h ▸ hc)
      simp [isSeparator, h1, h2]
    refine List.IsChain.iff_of_mem_imp fun c d hc hd => ?_
    rw [hseparator c hc, hseparator d hd]
  rw [writtenAll_ofText_eq_iff, IsPlain]
  constructor
  · intro h
    obtain ⟨hne, htab, hnewline, hchain⟩ := h
    exact ⟨hne, hnewline, htab, (hspaces htab hnewline).mp hchain⟩
  · intro h
    obtain ⟨hne, hnewline, htab, hchain⟩ := h
    exact ⟨hne, htab, hnewline, (hspaces htab hnewline).mpr hchain⟩

theorem fragments_of_not_mem {s : String} (hne : s ≠ "") (hnewline : '\n' ∉ s.toList) :
    fragments s = [.text (String.ofList (writtenAll (ofText s.toList)))] := by
  refine foldr_join_of_not_mem_softBreak ?_ ?_
  · rwa [softBreak_mem_ofText_iff]
  · exact ofText_ne_nil (by simpa using hne)

theorem fragments_of_isPlain {s : String} (h : IsPlain s) : fragments s = [.text s] := by
  obtain ⟨hne, hnewline, hwritten⟩ := (isPlain_iff s).mp h
  rw [fragments_of_not_mem hne hnewline, hwritten, String.ofList_toList]

theorem isPlain_of_text_mem_fragments {s : String} (h : .text s ∈ fragments s) : IsPlain s := by
  have hnewline := not_mem_of_text_mem_fragments h
  have hne : s ≠ "" := by
    rintro rfl
    simp [fragments, ofText] at h
  rw [fragments_of_not_mem hne hnewline, List.mem_singleton, Child.text.injEq] at h
  exact (isPlain_iff s).mpr ⟨hne, hnewline, by rw [← String.toList_ofList (l := writtenAll _), ← h]⟩

end DocBridge.Pandoc
