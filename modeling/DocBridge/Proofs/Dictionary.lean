import DocBridge.Dictionary
import Mathlib.Data.List.Forall2

/-!
# Sorted dictionaries

Keys of a sorted dictionary occur once, so an entry is found by its key, and dictionaries in which
the same is found are the same. Binding the entries of a sorted dictionary one after another gives
the dictionary again.
-/

namespace DocBridge.Dictionary

variable {α : Type} {d e : Dictionary α} {x y : String × α} {key : String} {value : α}

theorem lookup_cons_ite (entry : String × α) (rest : List (String × α)) (key : String) :
    (entry :: rest).lookup key = if key = entry.1 then some entry.2 else rest.lookup key := by
  rw [List.lookup_cons]
  by_cases hkey : key = entry.1
  · rw [if_pos hkey, beq_iff_eq.mpr hkey]
  · rw [if_neg hkey, beq_eq_false_iff_ne.mpr hkey]

theorem lookup_filter_ne (entries : List (String × α)) (first second key : String) :
    (entries.filter fun entry => entry.1 != first && entry.1 != second).lookup key =
      if key = first ∨ key = second then none else entries.lookup key := by
  induction entries with
  | nil => simp
  | cons entry rest ih =>
      rw [lookup_cons_ite]
      by_cases hkept : entry.1 = first ∨ entry.1 = second
      · rw [List.filter_cons_of_neg (by simpa [or_iff_not_imp_left] using hkept), ih]
        by_cases hkey : key = entry.1
        · rw [hkey, if_pos hkept, if_pos hkept]
        · rw [if_neg hkey]
      · rw [List.filter_cons_of_pos (by simpa using hkept), lookup_cons_ite, ih]
        by_cases hkey : key = entry.1
        · rw [if_pos hkey, if_pos hkey, hkey, if_neg hkept]
        · rw [if_neg hkey, if_neg hkey]

theorem mem_of_find? (h : d.find? key = some value) : (key, value) ∈ d := by
  obtain ⟨l, r, rfl, -⟩ := List.lookup_eq_some_iff.mp h
  simp

theorem Sorted.find?_of_mem (h : Sorted d) (hmem : (key, value) ∈ d) :
    d.find? key = some value := by
  induction d with
  | nil => simp at hmem
  | cons entry rest ih =>
      obtain ⟨k, v⟩ := entry
      obtain ⟨hk, hrest⟩ := List.pairwise_cons.mp h
      rcases List.mem_cons.mp hmem with heq | hmem
      · obtain ⟨rfl, rfl⟩ := Prod.mk.inj heq
        simp [find?]
      · have hne : (key == k) = false := by
          simpa using fun he : key = k => String.lt_irrefl _ (he ▸ hk _ hmem)
        rw [find?, List.lookup_cons, hne]
        exact ih hrest hmem

/-- When each of two sorted dictionaries has the least key of the other, this is one key. -/
theorem Sorted.least_key_eq (hd : Sorted (x :: d)) (he : Sorted (y :: e))
    (hx : ∃ value, (x.1, value) ∈ y :: e) (hy : ∃ value, (y.1, value) ∈ x :: d) : x.1 = y.1 := by
  have least {key : String} {w : String × α} {f : Dictionary α} (hf : Sorted (w :: f))
      (hkey : ∃ value, (key, value) ∈ w :: f) : w.1 ≤ key := by
    obtain ⟨v, hv⟩ := hkey
    rcases List.mem_cons.mp hv with rfl | hv
    · exact String.le_refl _
    · exact String.not_lt.mp (String.lt_asymm ((List.pairwise_cons.mp hf).1 _ hv))
  exact String.le_antisymm (least hd hy) (least he hx)

theorem forall₂_of_partners (r : α → α → Prop) (hd : Sorted d) (he : Sorted e)
    (hleft : ∀ x ∈ d, ∃ other, (x.1, other) ∈ e ∧ r x.2 other)
    (hright : ∀ y ∈ e, ∃ value, (y.1, value) ∈ d) :
    List.Forall₂ (fun x y => x.1 = y.1 ∧ r x.2 y.2) d e := by
  induction d generalizing e with
  | nil =>
      cases e with
      | nil => exact .nil
      | cons y e =>
          obtain ⟨_, hmem⟩ := hright y List.mem_cons_self
          simp at hmem
  | cons x d ih =>
      obtain ⟨other, hother, hr⟩ := hleft x List.mem_cons_self
      cases e with
      | nil => simp at hother
      | cons y e =>
          have hkey : x.1 = y.1 :=
            hd.least_key_eq he ⟨other, hother⟩ (hright y List.mem_cons_self)
          obtain ⟨hxd, hd⟩ := List.pairwise_cons.mp hd
          obtain ⟨hye, he⟩ := List.pairwise_cons.mp he
          -- A partner with a key above the least one is not the first entry.
          refine .cons ⟨hkey, ?_⟩ (ih hd he ?_ ?_)
          · rcases List.mem_cons.mp hother with heq | hmem
            · rwa [← heq]
            · exact absurd (hye _ hmem) (hkey ▸ String.lt_irrefl _)
          · intro z hz
            obtain ⟨v, hv, hr⟩ := hleft z (List.mem_cons_of_mem _ hz)
            refine ⟨v, (List.mem_cons.mp hv).resolve_left ?_, hr⟩
            rintro rfl
            exact String.lt_irrefl _ (hkey ▸ hxd z hz)
          · intro z hz
            obtain ⟨v, hv⟩ := hright z (List.mem_cons_of_mem _ hz)
            refine ⟨v, (List.mem_cons.mp hv).resolve_left ?_⟩
            rintro rfl
            exact String.lt_irrefl _ (hkey ▸ hye z hz)

theorem exists_mem_of_forall₂ {β γ : Type} {r : β → γ → Prop} {l : List β} {m : List γ}
    (h : List.Forall₂ r l m) {b : β} (hb : b ∈ l) : ∃ c ∈ m, r b c := by
  induction h with
  | nil => simp at hb
  | cons hr _ ih =>
      rcases List.mem_cons.mp hb with rfl | hb
      · exact ⟨_, List.mem_cons_self, hr⟩
      · exact (ih hb).imp fun _ h => ⟨List.mem_cons_of_mem _ h.1, h.2⟩

theorem Sorted.ext (hd : Sorted d) (he : Sorted e) (h : ∀ key, d.find? key = e.find? key) :
    d = e := by
  have hpartners : List.Forall₂ (fun x y => x.1 = y.1 ∧ x.2 = y.2) d e := by
    refine forall₂_of_partners Eq hd he (fun x hx => ?_) (fun y hy => ?_)
    · exact ⟨x.2, mem_of_find? ((h x.1).symm.trans (hd.find?_of_mem hx)), rfl⟩
    · exact ⟨y.2, mem_of_find? ((h y.1).trans (he.find?_of_mem hy))⟩
  exact List.forall₂_eq_eq_eq ▸ hpartners.imp fun x y hxy => Prod.ext hxy.1 hxy.2

theorem insert_of_forall_lt (h : ∀ entry ∈ d, entry.1 < key) :
    insert key value d = d ++ [(key, value)] := by
  induction d with
  | nil => rfl
  | cons entry rest ih =>
      obtain ⟨k, v⟩ := entry
      have hlt : k < key := h _ List.mem_cons_self
      have hne : key ≠ k := fun heq => String.lt_irrefl _ (heq ▸ hlt)
      rw [insert, if_neg (String.lt_asymm hlt), if_neg hne,
        ih fun entry hentry => h entry (List.mem_cons_of_mem _ hentry), List.cons_append]

theorem mem_of_mem_ofEntries {entries : List (String × α)} (h : x ∈ ofEntries entries) :
    x ∈ entries := by
  suffices ∀ bound : Dictionary α,
      x ∈ entries.foldl (fun bound entry => insert entry.1 entry.2 bound) bound →
        x ∈ bound ∨ x ∈ entries from (this [] h).resolve_left List.not_mem_nil
  clear h
  induction entries with
  | nil => exact fun bound h => .inl h
  | cons entry rest ih =>
      intro bound h
      rcases ih _ h with hbound | hrest
      · rcases mem_insert hbound with rfl | hbound
        · exact .inr List.mem_cons_self
        · exact .inl hbound
      · exact .inr (List.mem_cons_of_mem _ hrest)

/-- The entries of a sorted dictionary are bound in their order. -/
theorem ofEntries_of_sorted (h : Sorted d) : ofEntries d = d := by
  suffices ∀ bound : Dictionary α, Sorted (bound ++ d) →
      d.foldl (fun bound entry => insert entry.1 entry.2 bound) bound = bound ++ d from
    this [] h
  clear h
  induction d with
  | nil => intro bound _; exact (List.append_nil bound).symm
  | cons entry rest ih =>
      intro bound hsorted
      have hlast : insert entry.1 entry.2 bound = bound ++ [entry] :=
        insert_of_forall_lt fun earlier hearlier =>
          (List.pairwise_append.mp hsorted).2.2 earlier hearlier entry List.mem_cons_self
      rw [List.foldl_cons, hlast, ih _ (by simpa using hsorted), List.append_assoc,
        List.singleton_append]

theorem Sorted.lookup_reverse (h : Sorted d) (key : String) :
    d.reverse.lookup key = d.find? key := by
  rw [← find?_ofEntries, ofEntries_of_sorted h]

end DocBridge.Dictionary
