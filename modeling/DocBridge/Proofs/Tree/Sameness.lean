import DocBridge.Proofs.Dictionary
import DocBridge.Tree.Equality

/-!
# Attributes that are the same

Attributes are the same when what is left of them without empty metadata agrees entry by entry. The
comparison looks entries up by their keys, once from each side. Since keys are sorted and occur
once, this is the same as going through both lists side by side.
-/

namespace DocBridge

namespace Json.Value

@[simp] theorem same_string_iff {s : String} {v : Value} :
    (string s).same v = true ↔ v = string s := by
  cases v with
  | string t => rw [same, beq_iff_eq, string.injEq, eq_comm]
  | _ => simp [same]

@[simp] theorem same_natural_iff {n : Nat} {v : Value} :
    (natural n).same v = true ↔ v = natural n := by
  unfold natural
  cases v with
  | number m =>
      cases m with
      | integer k => rw [same, Number.same, beq_iff_eq, number.injEq, Number.integer.injEq, eq_comm]
      | real x => simp [same, Number.same]
  | _ => simp [same]

theorem string?_eq_some_iff {s : String} {v : Value} : v.string? = some s ↔ v = string s := by
  cases v <;> simp [string?]

theorem natural?_eq_some_iff {m : Nat} {v : Value} :
    v.natural? = some m ↔ v = natural m ∧ m < UInt64.size := by
  unfold natural
  cases v with
  | number k =>
      cases k with
      | integer i =>
          simp only [natural?, Number.natural?, number.injEq, Number.integer.injEq]
          split
          · next hi =>
              rw [Option.some.injEq]
              omega
          · next hi =>
              refine iff_of_false (by simp) ?_
              omega
      | real x => simp [natural?, Number.natural?]
  | _ => simp [natural?]

theorem getD_natural?_lt (v : Value) : v.natural?.getD 1 < UInt64.size := by
  cases h : v.natural? with
  | none => decide
  | some m => exact (natural?_eq_some_iff.mp h).2

end Json.Value

theorem isEmptyMetadata_iff {key : String} {value : Json.Value} :
    isEmptyMetadata key value = true ↔ key = "m" ∧ value = .object [] := by
  unfold isEmptyMetadata
  rw [Bool.and_eq_true, beq_iff_eq]
  refine and_congr_right fun _ => ?_
  split <;> simp_all

theorem isEmptyMetadata_congr {key : String} {v w : Json.Value} (h : v.same w = true) :
    isEmptyMetadata key v = isEmptyMetadata key w := by
  rw [Bool.eq_iff_iff, isEmptyMetadata_iff, isEmptyMetadata_iff]
  refine and_congr_right fun _ => ?_
  constructor <;> rintro rfl
  · cases w with
    | object members => cases members <;> simp_all [Json.Value.same, Json.Value.membersSame]
    | _ => simp [Json.Value.same] at h
  · cases v with
    | object members => cases members <;> simp_all [Json.Value.same, Json.Value.membersSame]
    | _ => simp [Json.Value.same] at h

namespace Attributes

variable {attributes left right : Attributes} {key : String} {value : Json.Value}

/-- The entries that say more than their absence. -/
def essential (attributes : Attributes) : Dictionary Json.Value :=
  attributes.entries.filter fun entry => !isEmptyMetadata entry.1 entry.2

theorem sorted_essential (attributes : Attributes) : attributes.essential.Sorted :=
  attributes.sorted.filter _

theorem find?_eq_some_iff : attributes.find? key = some value ↔ (key, value) ∈ attributes.entries :=
  ⟨Dictionary.mem_of_find?, attributes.sorted.find?_of_mem⟩

theorem mem_essential : (key, value) ∈ attributes.essential ↔
    attributes.find? key = some value ∧ isEmptyMetadata key value = false := by
  simp [essential, find?_eq_some_iff]

theorem same_iff_find? : left.same right = true ↔
    (∀ key value, left.find? key = some value →
      (∃ other, right.find? key = some other ∧ value.same other = true) ∨
        right.find? key = none ∧ isEmptyMetadata key value = true) ∧
    ∀ key other, right.find? key = some other → left.find? key = none →
      isEmptyMetadata key other = true := by
  have hmatched (entry : String × Json.Value) : matchedIn right entry = true ↔
      (∃ other, right.find? entry.1 = some other ∧ entry.2.same other = true) ∨
        right.find? entry.1 = none ∧ isEmptyMetadata entry.1 entry.2 = true := by
    unfold matchedIn
    cases right.find? entry.1 <;> simp
  simp only [same, Bool.and_eq_true, List.all_eq_true, List.mem_filter, Option.isNone_iff_eq_none,
    hmatched, Prod.forall, and_imp, find?_eq_some_iff]

theorem forall₂_essential_of_same (h : left.same right = true) :
    List.Forall₂ (fun x y => x.1 = y.1 ∧ x.2.same y.2 = true) left.essential right.essential := by
  obtain ⟨hleft, hright⟩ := same_iff_find?.mp h
  refine Dictionary.forall₂_of_partners (fun v w => v.same w = true) (sorted_essential left)
    (sorted_essential right) ?_ ?_
  · intro entry hmem
    obtain ⟨hfind, hvalue⟩ := mem_essential.mp hmem
    obtain ⟨other, hother, hsame⟩ | ⟨-, hempty⟩ := hleft entry.1 entry.2 hfind
    · exact ⟨other, mem_essential.mpr ⟨hother, isEmptyMetadata_congr hsame ▸ hvalue⟩, hsame⟩
    · exact absurd hempty (by simp [hvalue])
  · intro entry hmem
    obtain ⟨hfind, hother⟩ := mem_essential.mp hmem
    cases hvalue : left.find? entry.1 with
    | none => exact absurd (hright entry.1 entry.2 hfind hvalue) (by simp [hother])
    | some value =>
        obtain ⟨other, hfind', hsame⟩ | ⟨hnone, -⟩ := hleft entry.1 value hvalue
        · obtain rfl : entry.2 = other := Option.some.inj (hfind.symm.trans hfind')
          exact ⟨value, mem_essential.mpr ⟨hvalue, isEmptyMetadata_congr hsame ▸ hother⟩⟩
        · exact absurd hfind (by simp [hnone])

theorem same_of_forall₂_essential
    (h : List.Forall₂ (fun x y => x.1 = y.1 ∧ x.2.same y.2 = true)
      left.essential right.essential) : left.same right = true := by
  have hpartner {key other} (hmem : (key, other) ∈ right.essential) :
      ∃ value, (key, value) ∈ left.essential := by
    obtain ⟨⟨_, value⟩, hvalue, rfl, -⟩ := Dictionary.exists_mem_of_forall₂ h.flip hmem
    exact ⟨value, hvalue⟩
  refine same_iff_find?.mpr ⟨?_, ?_⟩
  · intro key value hfind
    cases hvalue : isEmptyMetadata key value with
    | false =>
        have hmem : (key, value) ∈ left.essential := mem_essential.mpr ⟨hfind, hvalue⟩
        obtain ⟨⟨_, other⟩, hother, rfl, hsame⟩ := Dictionary.exists_mem_of_forall₂ h hmem
        exact .inl ⟨other, (mem_essential.mp hother).1, hsame⟩
    | true =>
        cases hother : right.find? key with
        | none => exact .inr ⟨rfl, rfl⟩
        | some other =>
            cases hempty : isEmptyMetadata key other with
            | true =>
                obtain ⟨rfl, rfl⟩ := isEmptyMetadata_iff.mp hvalue
                obtain ⟨-, rfl⟩ := isEmptyMetadata_iff.mp hempty
                exact .inl ⟨_, rfl, rfl⟩
            | false =>
                -- The other side holds more, so it has a partner with this key that does too.
                obtain ⟨value', hvalue'⟩ := hpartner (mem_essential.mpr ⟨hother, hempty⟩)
                obtain ⟨hfind', hvalue'⟩ := mem_essential.mp hvalue'
                obtain rfl : value = value' := Option.some.inj (hfind.symm.trans hfind')
                simp [hvalue] at hvalue'
  · intro key other hfind hnone
    by_contra hother
    obtain ⟨value, hvalue⟩ := hpartner (mem_essential.mpr ⟨hfind, by simpa using hother⟩)
    simp [(mem_essential.mp hvalue).1] at hnone

/-- Attributes are the same when what is left of them without empty metadata is. -/
theorem same_iff_essential : left.same right = true ↔
    List.Forall₂ (fun x y => x.1 = y.1 ∧ x.2.same y.2 = true) left.essential right.essential :=
  ⟨forall₂_essential_of_same, same_of_forall₂_essential⟩

theorem same_iff_essential_eq
    (h : ∀ entry ∈ left.essential, ∀ v, entry.2.same v = true ↔ v = entry.2) :
    left.same right = true ↔ right.essential = left.essential := by
  rw [same_iff_essential]
  generalize right.essential = others
  generalize left.essential = entries at h
  induction entries generalizing others with
  | nil => rw [List.forall₂_nil_left_iff]
  | cons entry entries ih =>
      obtain ⟨hentry, hentries⟩ := List.forall_mem_cons.mp h
      rw [List.forall₂_cons_left_iff]
      constructor
      · intro h
        obtain ⟨⟨key, value⟩, others', ⟨hkey, hvalue⟩, hothers, rfl⟩ := h
        rw [(ih others' hentries).mp hothers, (hentry value).mp hvalue]
        exact congrArg (· :: entries) (Prod.ext hkey.symm rfl)
      · rintro rfl
        exact ⟨entry, entries, ⟨rfl, (hentry _).mpr rfl⟩, (ih _ hentries).mpr rfl, rfl⟩

end Attributes

namespace Node

variable {n : Node} {key : String}

theorem attribute?_eq_some_iff {value : Json.Value} (hkey : key ≠ "m") :
    n.attribute? key = some value ↔ (key, value) ∈ n.attributes.essential := by
  simp [attribute?, Attributes.mem_essential, isEmptyMetadata, hkey]

theorem string?_eq_some_iff {s : String} (hkey : key ≠ "m") :
    n.string? key = some s ↔ (key, .string s) ∈ n.attributes.essential := by
  rw [← attribute?_eq_some_iff hkey, string?, Option.bind_eq_some_iff]
  simp [Json.Value.string?_eq_some_iff]

theorem string?_eq_none (hkey : key ≠ "m")
    (h : ∀ s, (key, .string s) ∉ n.attributes.essential) : n.string? key = none := by
  rw [Option.eq_none_iff_forall_ne_some]
  intro s hs
  exact h s ((string?_eq_some_iff hkey).mp hs)

theorem natural?_eq_some_iff {m : Nat} (hkey : key ≠ "m") :
    n.natural? key = some m ↔
      (key, .natural m) ∈ n.attributes.essential ∧ m < UInt64.size := by
  rw [← attribute?_eq_some_iff hkey, natural?, Option.bind_eq_some_iff]
  simp only [Json.Value.natural?_eq_some_iff]
  constructor
  · intro h
    obtain ⟨_, h, rfl, hlt⟩ := h
    exact ⟨h, hlt⟩
  · intro h
    obtain ⟨h, hlt⟩ := h
    exact ⟨_, h, rfl, hlt⟩

theorem getD_natural?_lt (n : Node) (key : String) : (n.natural? key).getD 1 < UInt64.size := by
  cases h : n.attribute? key with
  | none =>
      rw [natural?, h]
      decide
  | some v =>
      rw [natural?, h]
      exact v.getD_natural?_lt

end Node

end DocBridge
