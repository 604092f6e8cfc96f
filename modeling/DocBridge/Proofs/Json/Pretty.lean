import DocBridge.Proofs.Dictionary
import DocBridge.Proofs.Json.Scalars

/-!
# Values that are read back from their text

Reading undoes pretty printing of every value whose objects are sorted and whose numbers are
integers of 64 bits, as long as arrays and objects nest no deeper than the reader allows. A value
that nests deeper is refused, so nothing but the nesting decides.

Arrays and objects are laid out in the same way, so a list of entries is read back once for both.
-/

namespace DocBridge.Json

namespace Value

mutual

/-- How deep arrays and objects nest in a value. -/
def nesting : Value → Nat
  | array items => nestingAll items + 1
  | object members => nestingMembers members + 1
  | _ => 0

def nestingAll : List Value → Nat
  | [] => 0
  | v :: rest => max (nesting v) (nestingAll rest)

def nestingMembers : List (String × Value) → Nat
  | [] => 0
  | (_, v) :: rest => max (nesting v) (nestingMembers rest)

end

theorem nestingAll_le_iff {items : List Value} {depth : Nat} :
    nestingAll items ≤ depth ↔ ∀ v ∈ items, v.nesting ≤ depth := by
  induction items with
  | nil => simp [nestingAll]
  | cons v rest ih => rw [nestingAll, Nat.max_le, ih, List.forall_mem_cons]

theorem nestingMembers_le_iff {members : List (String × Value)} {depth : Nat} :
    nestingMembers members ≤ depth ↔ ∀ member ∈ members, member.2.nesting ≤ depth := by
  induction members with
  | nil => simp [nestingMembers]
  | cons member rest ih => rw [nestingMembers, Nat.max_le, ih, List.forall_mem_cons]

/-- A value that the reader can give back: no object has a key twice or out of order, and numbers
are integers of 64 bits. -/
inductive Restorable : Value → Prop
  | null : Restorable null
  | boolean (b : Bool) : Restorable (boolean b)
  | string (s : String) : Restorable (string s)
  | number {n : Number} (h : n.Fits) : Restorable (number n)
  | array {items : List Value} (h : ∀ v ∈ items, Restorable v) : Restorable (array items)
  | object {members : Dictionary Value} (hsorted : members.Sorted)
      (h : ∀ member ∈ members, Restorable member.2) : Restorable (object members)

theorem restorable_natural {n : Nat} (h : n < UInt64.size) : (natural n).Restorable := by
  have hsize : UInt64.size = 18446744073709551616 := rfl
  refine .number ⟨?_, ?_⟩ <;> omega

theorem restorable_ofMembers {members : List (String × Value)}
    (h : ∀ member ∈ members, member.2.Restorable) : (ofMembers members).Restorable :=
  .object (Dictionary.sorted_ofEntries members) fun member hmember =>
    h member (Dictionary.mem_of_mem_ofEntries hmember)

end Value

/-! ### Layout -/

namespace Printer

/-- Texts on lines of their own, each behind a comma. -/
def behindCommas (level : Nat) (texts : List (List Char)) : List Char :=
  texts.flatMap fun text => ',' :: ((newline level).toList ++ text)

/-- What stands behind an opening bracket: texts on lines of their own, and the closing bracket. -/
def spread (level : Nat) (close : Char) : List (List Char) → List Char
  | [] => [close]
  | text :: texts => (newline (level + 1)).toList ++ (text ++
    (behindCommas (level + 1) texts ++ ((newline level).toList ++ [close])))

def itemText (level : Nat) (v : Value) : List Char := (pretty level v).toList

def memberText (level : Nat) (member : String × Value) : List Char :=
  (quote member.1).toList ++ ':' :: ' ' :: (pretty level member.2).toList

variable {level : Nat} {close : Char} {text : List Char} {texts : List (List Char)}

theorem behindCommas_cons : behindCommas level (text :: texts) =
    ',' :: ((newline level).toList ++ (text ++ behindCommas level texts)) := by
  simp [behindCommas]

theorem toList_newline (level : Nat) :
    (newline level).toList = '\n' :: List.replicate (2 * level) ' ' := by
  simp [newline]

theorem toList_prettyItems (level : Nat) (items : List Value) :
    (prettyItems level items).toList = behindCommas level (items.map (itemText level)) := by
  induction items with
  | nil => simp [prettyItems, behindCommas]
  | cons v rest ih =>
      rw [prettyItems, String.toList_append, ih, List.map_cons, behindCommas_cons]
      simp [itemText]

theorem toList_prettyMembers (level : Nat) (members : List (String × Value)) :
    (prettyMembers level members).toList = behindCommas level (members.map (memberText level)) := by
  induction members with
  | nil => simp [prettyMembers, behindCommas]
  | cons member rest ih =>
      rw [prettyMembers, String.toList_append, ih, List.map_cons, behindCommas_cons]
      simp [memberText]

theorem toList_pretty_array (level : Nat) (items : List Value) :
    (pretty level (.array items)).toList =
      '[' :: spread level ']' (items.map (itemText (level + 1))) := by
  cases items with
  | nil => simp [pretty, spread]
  | cons v rest => simp [pretty, spread, toList_prettyItems, itemText]

theorem toList_pretty_object (level : Nat) (members : List (String × Value)) :
    (pretty level (.object members)).toList =
      '\x7b' :: spread level '\x7d' (members.map (memberText (level + 1))) := by
  cases members with
  | nil => simp [pretty, spread]
  | cons member rest => simp [pretty, spread, toList_prettyMembers, memberText]

theorem length_le_length_behindCommas (level : Nat) (texts : List (List Char)) :
    texts.length ≤ (behindCommas level texts).length ∧
      ∀ text ∈ texts, text.length ≤ (behindCommas level texts).length := by
  induction texts with
  | nil => simp
  | cons first rest ih =>
      obtain ⟨hrest, hmem⟩ := ih
      simp only [behindCommas_cons, List.length_cons, List.length_append]
      refine ⟨by omega, List.forall_mem_cons.mpr ⟨by omega, fun text htext => ?_⟩⟩
      have hlength := hmem text htext
      omega

/-- Each text takes a line, so there are not more of them than characters, and none is longer than
all of it. -/
theorem length_le_length_spread (level : Nat) (close : Char) (texts : List (List Char)) :
    texts.length ≤ (spread level close texts).length ∧
      ∀ text ∈ texts, text.length ≤ (spread level close texts).length := by
  cases texts with
  | nil => simp
  | cons first rest =>
      obtain ⟨hrest, hmem⟩ := length_le_length_behindCommas (level + 1) rest
      simp only [spread, List.length_cons, List.length_append, List.length_nil]
      refine ⟨by omega, List.forall_mem_cons.mpr ⟨by omega, fun text htext => ?_⟩⟩
      have hlength := hmem text htext
      omega

end Printer

/-! ### Lists of entries -/

theorem endsNumber_nil : EndsNumber [] := nofun

theorem endsNumber_cons {c : Char} {rest : List Char}
    (h : c.isDigit = false ∧ c ≠ '.' ∧ c ≠ 'e' ∧ c ≠ 'E') : EndsNumber (c :: rest) := by
  intro d hd
  obtain rfl := Option.some.inj hd
  exact h

/-- An item or a member starts here: there is no blank, and no bracket that closes. -/
def StartsEntry (s : List Char) : Prop :=
  ∃ c rest, s = c :: rest ∧ Text.isSpacing c = false ∧ c ≠ ']' ∧ c ≠ '\x7d'

namespace Reader

open Printer

theorem skipBlanks_cons {c : Char} {rest : List Char} (h : Text.isSpacing c = false) :
    skipBlanks (c :: rest) = c :: rest := List.dropWhile_cons_of_neg (by simp [h])

theorem skipBlanks_newline (level : Nat) (s : List Char) :
    skipBlanks ((newline level).toList ++ s) = skipBlanks s := by
  refine List.dropWhile_append_of_pos fun c hc => ?_
  rw [toList_newline] at hc
  rcases List.mem_cons.mp hc with rfl | hc
  · decide
  · rw [List.eq_of_mem_replicate hc]
    decide

theorem skipBlanks_startsEntry {s : List Char} (h : StartsEntry s) (rest : List Char) :
    skipBlanks (s ++ rest) = s ++ rest := by
  obtain ⟨c, s, rfl, hc, -⟩ := h
  exact skipBlanks_cons hc

theorem endsNumber_newline (level : Nat) (s : List Char) :
    EndsNumber ((newline level).toList ++ s) := by
  rw [toList_newline, List.cons_append]
  exact endsNumber_cons (by decide)

section Entries

variable {α : Type} {item : List Char → Option (α × List Char)} {text : α → List Char}
  {p : α → Prop} [DecidablePred p] {close : Char} {level count : Nat} {x : α} {xs : List α}
  {s tail : List Char}

theorem skipBlanks_close (hclose : close = ']' ∨ close = '\x7d') :
    skipBlanks (close :: tail) = close :: tail := by
  rcases hclose with rfl | rfl <;> exact skipBlanks_cons (by decide)

/-- Entries behind commas are read back one by one, unless one of them is refused. -/
theorem sequence_behindCommas (hclose : close = ']' ∨ close = '\x7d')
    (hstart : ∀ y ∈ x :: xs, StartsEntry (text y))
    (hitem : ∀ y ∈ x :: xs, ∀ rest, EndsNumber rest →
      item (text y ++ rest) = if p y then some (y, rest) else none)
    (hcount : xs.length < count)
    (hs : skipBlanks s = text x ++ (behindCommas (level + 1) (xs.map text) ++
      ((newline level).toList ++ close :: tail))) :
    sequence item close count s = if ∀ y ∈ x :: xs, p y then some (x :: xs, tail) else none := by
  induction xs generalizing x s count with
  | nil =>
      obtain ⟨count, rfl⟩ := Nat.exists_eq_succ_of_ne_zero (Nat.ne_of_gt hcount)
      rw [List.map_nil, behindCommas, List.flatMap_nil, List.nil_append] at hs
      rw [sequence, hs, hitem x List.mem_cons_self _ (endsNumber_newline level _)]
      by_cases hx : p x
      · have hend : skipBlanks ((newline level).toList ++ close :: tail) = close :: tail := by
          rw [skipBlanks_newline, skipBlanks_close hclose]
        simp only [if_pos hx, Option.bind_eq_bind, Option.bind_some, hend]
        rcases hclose with rfl | rfl <;> simp [hx]
      · simp [hx]
  | cons y ys ih =>
      obtain ⟨count, rfl⟩ := Nat.exists_eq_succ_of_ne_zero (Nat.ne_of_gt (Nat.zero_lt_of_lt hcount))
      obtain ⟨-, hstart⟩ := List.forall_mem_cons.mp hstart
      obtain ⟨hfirst, hitem⟩ := List.forall_mem_cons.mp hitem
      rw [List.map_cons, behindCommas_cons, List.cons_append] at hs
      rw [sequence, hs, hfirst _ (endsNumber_cons (by decide))]
      by_cases hx : p x
      · have hcomma : Text.isSpacing ',' = false := by decide
        simp only [if_pos hx, Option.bind_eq_bind, Option.bind_some, skipBlanks_cons hcomma]
        rw [ih hstart hitem (Nat.lt_of_succ_lt_succ hcount)]
        -- What was read of this entry is kept only when all those behind it are read.
        · by_cases hys : ∀ z ∈ y :: ys, p z
          · rw [if_pos hys, if_pos (List.forall_mem_cons.mpr ⟨hx, hys⟩), Option.bind_some]
          · rw [if_neg hys, if_neg fun h => hys (List.forall_mem_cons.mp h).2, Option.bind_none]
        · rw [List.append_assoc, List.append_assoc, skipBlanks_newline,
            skipBlanks_startsEntry (hstart y List.mem_cons_self)]
      · simp [hx]

/-- A list of entries is read back from its layout. No entry is longer than the layout, so there it
is enough to read entries that are as short. -/
theorem enclosed_spread (hclose : close = ']' ∨ close = '\x7d')
    (hstart : ∀ y ∈ xs, StartsEntry (text y))
    (hitem : ∀ y ∈ xs, (text y).length ≤ count → ∀ rest, EndsNumber rest →
      item (text y ++ rest) = if p y then some (y, rest) else none)
    (hcount : (spread level close (xs.map text)).length ≤ count) :
    enclosed item close count (spread level close (xs.map text) ++ tail) =
      if ∀ y ∈ xs, p y then some (xs, tail) else none := by
  obtain ⟨hlength, htexts⟩ := length_le_length_spread level close (xs.map text)
  rw [List.length_map] at hlength
  replace hitem : ∀ y ∈ xs, ∀ rest, EndsNumber rest →
      item (text y ++ rest) = if p y then some (y, rest) else none := by
    intro y hy
    exact hitem y hy (Nat.le_trans (htexts _ (List.mem_map_of_mem hy)) hcount)
  cases xs with
  | nil =>
      rw [List.map_nil, spread, List.singleton_append, enclosed, skipBlanks_close hclose]
      simp
  | cons x xs =>
      obtain ⟨c, rest, hx, hblank, hbracket, hbrace⟩ := hstart x List.mem_cons_self
      have hother : c ≠ close := by
        rcases hclose with rfl | rfl
        · exact hbracket
        · exact hbrace
      have hskip : skipBlanks (spread level close ((x :: xs).map text) ++ tail) =
          text x ++ (behindCommas (level + 1) (xs.map text) ++
            ((newline level).toList ++ close :: tail)) := by
        simp only [List.map_cons, spread, List.append_assoc, List.singleton_append,
          skipBlanks_newline]
        exact skipBlanks_startsEntry (hstart x List.mem_cons_self) _
      have hagain : skipBlanks (text x ++ (behindCommas (level + 1) (xs.map text) ++
          ((newline level).toList ++ close :: tail))) = _ :=
        skipBlanks_startsEntry (hstart x List.mem_cons_self) _
      rw [enclosed, hskip]
      rw [hx, List.cons_append] at hagain ⊢
      simp only [if_neg hother]
      exact sequence_behindCommas hclose hstart hitem (Nat.le_trans hlength hcount)
        (by rw [hagain, hx, List.cons_append])

end Entries

/-! ### Values -/

variable {count depth level : Nat} {c : Char} {rest : List Char} {v : Value}

theorem startsEntry_of_isDigit (h : c.isDigit = true) : StartsEntry (c :: rest) := by
  refine ⟨c, rest, rfl, ?_, ne_of_isDigit h (by decide), ne_of_isDigit h (by decide)⟩
  simp [Text.isSpacing, Text.isSpaceOrTab, ne_of_isDigit h]

theorem startsEntry_pretty (h : v.Restorable) : StartsEntry (pretty level v).toList := by
  cases h with
  | null => exact ⟨'n', _, by simp [pretty, scalar]; rfl, by decide, by decide, by decide⟩
  | boolean b =>
      cases b with
      | true => exact ⟨'t', _, by simp [pretty, scalar]; rfl, by decide, by decide, by decide⟩
      | false => exact ⟨'f', _, by simp [pretty, scalar]; rfl, by decide, by decide, by decide⟩
  | string s => exact ⟨'"', _, toList_quote s, by decide, by decide, by decide⟩
  | @number n hfits =>
      obtain ⟨c, digits, htext, hc⟩ := exists_number_eq_cons hfits
      change StartsEntry (number n).toList
      rw [htext]
      rcases hc with rfl | hc
      · exact ⟨'-', digits, rfl, by decide, by decide, by decide⟩
      · exact startsEntry_of_isDigit hc
  | array => exact ⟨'[', _, toList_pretty_array _ _, by decide, by decide, by decide⟩
  | object => exact ⟨'\x7b', _, toList_pretty_object _ _, by decide, by decide, by decide⟩

theorem startsEntry_memberText (member : String × Value) :
    StartsEntry (memberText level member) := by
  rw [memberText, toList_quote]
  exact ⟨'"', _, rfl, by decide, by decide, by decide⟩

theorem value?_of_ne (hbracket : c ≠ '[') (hbrace : c ≠ '\x7b') :
    value? count depth (c :: rest) = scalar? (c :: rest) := by
  cases depth with
  | zero => rfl
  | succ depth =>
      unfold value?
      split
      · next heq => exact absurd (List.cons.inj heq).1 hbracket
      · next heq => exact absurd (List.cons.inj heq).1 hbrace
      · rfl

theorem value?_quote (s : String) (rest : List Char) :
    value? count depth ((quote s).toList ++ rest) = some (.string s, rest) := by
  have hquote := string?_quote s rest
  rw [toList_quote, List.cons_append] at hquote ⊢
  rw [value?_of_ne (by decide) (by decide), scalar?, hquote]
  rfl

theorem value?_number {n : Number} (h : n.Fits) (hrest : EndsNumber rest) :
    value? count depth ((number n).toList ++ rest) = some (.number n, rest) := by
  have hread := Numeral.read?_number h hrest
  obtain ⟨c, digits, htext, hc⟩ := exists_number_eq_cons h
  have hne (d : Char) (hsign : '-' ≠ d) (hd : d.isDigit = false) : c ≠ d := by
    rcases hc with rfl | hc
    · exact hsign
    · exact ne_of_isDigit hc hd
  rw [htext, List.cons_append] at hread ⊢
  rw [value?_of_ne (hne _ (by decide) (by decide)) (hne _ (by decide) (by decide))]
  unfold scalar?
  split
  case h_5 =>
    rw [hread]
    rfl
  all_goals
    next heq => exact absurd (List.cons.inj heq).1 (hne _ (by decide) (by decide))

/-- A member is read back if its value is. -/
theorem member?_memberText {value : List Char → Option (Value × List Char)}
    {member : String × Value} (h : member.2.Restorable) :
    member? value (memberText level member ++ rest) =
      (value ((pretty level member.2).toList ++ rest)).map fun (v, left) =>
        ((member.1, v), left) := by
  have hcolon : Text.isSpacing ':' = false := by decide
  have hblank (s : List Char) : skipBlanks (' ' :: s) = skipBlanks s :=
    List.dropWhile_cons_of_pos (by decide)
  rw [memberText, List.append_assoc, member?, string?_quote]
  simp only [Option.bind_eq_bind, Option.bind_some, List.cons_append, skipBlanks_cons hcolon,
    hblank, skipBlanks_startsEntry (startsEntry_pretty h)]
  cases value ((pretty level member.2).toList ++ rest) <;> rfl

theorem value?_zero_of_bracket (h : c = '[' ∨ c = '\x7b') :
    value? count 0 (c :: rest) = none := by
  rcases h with rfl | rfl <;> rfl

theorem value?_null : value? count depth ((pretty level .null).toList ++ rest) =
    some (.null, rest) := by
  have htext : (pretty level .null).toList = ['n', 'u', 'l', 'l'] := by simp [pretty, scalar]
  rw [htext]
  exact value?_of_ne (by decide) (by decide)

theorem value?_boolean (b : Bool) :
    value? count depth ((pretty level (.boolean b)).toList ++ rest) =
      some (.boolean b, rest) := by
  cases b with
  | true =>
      have htext : (pretty level (.boolean true)).toList = ['t', 'r', 'u', 'e'] := by
        simp [pretty, scalar]
      rw [htext]
      exact value?_of_ne (by decide) (by decide)
  | false =>
      have htext : (pretty level (.boolean false)).toList = ['f', 'a', 'l', 's', 'e'] := by
        simp [pretty, scalar]
      rw [htext]
      exact value?_of_ne (by decide) (by decide)

/-- The text of a value is read back up to what comes next, unless the value nests too deep. -/
theorem value?_pretty (h : v.Restorable) (hcount : (pretty level v).toList.length ≤ count)
    (hrest : EndsNumber rest) :
    value? count depth ((pretty level v).toList ++ rest) =
      if v.nesting ≤ depth then some (v, rest) else none := by
  -- The count bounds the entries of every list in the value and so stays; the depth goes down.
  induction h generalizing level depth rest with
  | null => exact value?_null.trans (if_pos (Nat.zero_le depth)).symm
  | boolean b => exact (value?_boolean b).trans (if_pos (Nat.zero_le depth)).symm
  | string s => exact (value?_quote s rest).trans (if_pos (Nat.zero_le depth)).symm
  | number hfits => exact (value?_number hfits hrest).trans (if_pos (Nat.zero_le depth)).symm
  | @array items hitems ih =>
      rw [toList_pretty_array] at hcount ⊢
      rw [List.length_cons] at hcount
      cases depth with
      | zero =>
          exact (value?_zero_of_bracket (.inl rfl)).trans (if_neg (Nat.not_succ_le_zero _)).symm
      | succ depth =>
          have hstart : ∀ v ∈ items, StartsEntry (itemText (level + 1) v) :=
            fun v hv => startsEntry_pretty (hitems v hv)
          have hitem : ∀ v ∈ items, (itemText (level + 1) v).length ≤ count →
              ∀ rest, EndsNumber rest → value? count depth (itemText (level + 1) v ++ rest) =
                if v.nesting ≤ depth then some (v, rest) else none :=
            fun v hv htext rest hrest => ih v hv htext hrest
          rw [List.cons_append, value?,
            enclosed_spread (.inl rfl) hstart hitem (Nat.le_of_succ_le hcount)]
          simp only [Value.nesting, Nat.add_le_add_iff_right, Value.nestingAll_le_iff]
          split <;> rfl
  | @object members hsorted hmembers ih =>
      rw [toList_pretty_object] at hcount ⊢
      rw [List.length_cons] at hcount
      cases depth with
      | zero =>
          exact (value?_zero_of_bracket (.inr rfl)).trans (if_neg (Nat.not_succ_le_zero _)).symm
      | succ depth =>
          have hstart : ∀ member ∈ members, StartsEntry (memberText (level + 1) member) :=
            fun member _ => startsEntry_memberText member
          have hmember : ∀ member ∈ members, (memberText (level + 1) member).length ≤ count →
              ∀ rest, EndsNumber rest →
                member? (value? count depth) (memberText (level + 1) member ++ rest) =
                  if member.2.nesting ≤ depth then some (member, rest) else none := by
            intro member hmem htext rest hrest
            rw [memberText, List.length_append, List.length_cons, List.length_cons] at htext
            rw [member?_memberText (hmembers member hmem), ih member hmem (by omega) hrest]
            split <;> rfl
          rw [List.cons_append, value?,
            enclosed_spread (.inr rfl) hstart hmember (Nat.le_of_succ_le hcount)]
          simp only [Value.nesting, Nat.add_le_add_iff_right, Value.nestingMembers_le_iff]
          split
          · rw [Option.map_some, Value.ofMembers, Dictionary.ofEntries_of_sorted hsorted]
          · rfl

end Reader

/-- A text that is printed is read back just when its value nests no deeper than allowed. -/
theorem read?_pretty {v : Value} (h : v.Restorable) (depth : Nat) :
    read? depth v.pretty = if v.nesting ≤ depth then some v else none := by
  have hstart : Reader.skipBlanks v.pretty.toList = v.pretty.toList := by
    have hentry : StartsEntry v.pretty.toList := Reader.startsEntry_pretty h
    simpa using Reader.skipBlanks_startsEntry hentry []
  have hread : Reader.value? v.pretty.toList.length depth v.pretty.toList =
      if v.nesting ≤ depth then some (v, []) else none := by
    rw [← List.append_nil v.pretty.toList]
    exact Reader.value?_pretty h (by simp [Value.pretty]) endsNumber_nil
  rw [read?, hstart]
  simp only [Option.bind_eq_bind, hread]
  split <;> rfl

end DocBridge.Json
