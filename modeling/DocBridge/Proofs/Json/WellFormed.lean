import DocBridge.Json.Reader
import DocBridge.Proofs.Dictionary

/-!
# Values that are well-formed

Objects are built from their members in order of the keys, so what is built from well-formed parts
is well-formed, and so is whatever is read.
-/

namespace DocBridge.Json

namespace Value

variable {items : List Value} {members : List (String × Value)}

theorem allWellFormed_iff : AllWellFormed items ↔ ∀ v ∈ items, WellFormed v := by
  induction items with
  | nil => simp [AllWellFormed]
  | cons v rest ih => rw [AllWellFormed, ih, List.forall_mem_cons]

theorem membersWellFormed_iff :
    MembersWellFormed members ↔ ∀ member ∈ members, WellFormed member.2 := by
  induction members with
  | nil => simp [MembersWellFormed]
  | cons member rest ih => rw [MembersWellFormed, ih, List.forall_mem_cons]

theorem wellFormed_ofMembers (h : ∀ member ∈ members, member.2.WellFormed) :
    (ofMembers members).WellFormed := by
  refine ⟨Dictionary.sorted_ofEntries members, membersWellFormed_iff.mpr ?_⟩
  intro member hmember
  exact h member (Dictionary.mem_of_mem_ofEntries hmember)

end Value

/-! ### What is read -/

namespace Reader

section Entries

variable {α : Type} {P : α → Prop} {item : List Char → Option (α × List Char)} {close : Char}
  {count : Nat} {s rest : List Char} {xs : List α}

theorem forall_mem_of_sequence (hitem : ∀ s x rest, item s = some (x, rest) → P x)
    (h : sequence item close count s = some (xs, rest)) : ∀ x ∈ xs, P x := by
  induction count generalizing s xs rest with
  | zero => simp [sequence] at h
  | succ count ih =>
      rw [sequence] at h
      obtain ⟨⟨first, left⟩, hfirst, h⟩ := Option.bind_eq_some_iff.mp h
      have hp := hitem _ _ _ hfirst
      dsimp only at h
      split at h
      · obtain ⟨⟨others, last⟩, hothers, h⟩ := Option.bind_eq_some_iff.mp h
        obtain ⟨rfl, -⟩ := Prod.mk.inj (Option.some.inj h)
        exact List.forall_mem_cons.mpr ⟨hp, ih hothers⟩
      · split at h
        · obtain ⟨rfl, -⟩ := Prod.mk.inj (Option.some.inj h)
          exact List.forall_mem_singleton.mpr hp
        · cases h
      · cases h

theorem forall_mem_of_enclosed (hitem : ∀ s x rest, item s = some (x, rest) → P x)
    (h : enclosed item close count s = some (xs, rest)) : ∀ x ∈ xs, P x := by
  unfold enclosed at h
  split at h
  · split at h
    · obtain ⟨rfl, -⟩ := Prod.mk.inj (Option.some.inj h)
      simp
    · exact forall_mem_of_sequence hitem h
  · cases h

end Entries

variable {count depth : Nat} {s rest : List Char} {v : Value}

theorem wellFormed_of_scalar? (h : scalar? s = some (v, rest)) : v.WellFormed := by
  unfold scalar? at h
  split at h
  case h_4 | h_5 =>
    obtain ⟨⟨_, _⟩, -, h⟩ := Option.map_eq_some_iff.mp h
    obtain ⟨rfl, -⟩ := Prod.mk.inj h
    trivial
  all_goals
    obtain ⟨rfl, -⟩ := Prod.mk.inj (Option.some.inj h)
    trivial

theorem member?_eq_some {value : List Char → Option (Value × List Char)} {member : String × Value}
    (h : member? value s = some (member, rest)) : ∃ left, value left = some (member.2, rest) := by
  unfold member? at h
  obtain ⟨⟨key, left⟩, -, h⟩ := Option.bind_eq_some_iff.mp h
  dsimp only at h
  split at h
  · obtain ⟨⟨v, last⟩, hv, h⟩ := Option.bind_eq_some_iff.mp h
    obtain ⟨rfl, rfl⟩ := Prod.mk.inj (Option.some.inj h)
    exact ⟨_, hv⟩
  · cases h

theorem wellFormed_of_value? (h : value? count depth s = some (v, rest)) : v.WellFormed := by
  induction depth generalizing s v rest with
  | zero => exact wellFormed_of_scalar? h
  | succ depth ih =>
      unfold value? at h
      split at h
      · obtain ⟨⟨items, left⟩, hitems, h⟩ := Option.map_eq_some_iff.mp h
        obtain ⟨rfl, -⟩ := Prod.mk.inj h
        exact Value.allWellFormed_iff.mpr (forall_mem_of_enclosed (fun _ _ _ => ih) hitems)
      · obtain ⟨⟨members, left⟩, hmembers, h⟩ := Option.map_eq_some_iff.mp h
        obtain ⟨rfl, -⟩ := Prod.mk.inj h
        apply Value.wellFormed_ofMembers
        refine forall_mem_of_enclosed (fun s member rest hmember => ?_) hmembers
        obtain ⟨left, hvalue⟩ := member?_eq_some hmember
        exact ih hvalue
      · exact wellFormed_of_scalar? h

end Reader

/-- What is read is well-formed. -/
theorem wellFormed_of_read? {depth : Nat} {text : String} {v : Value}
    (h : read? depth text = some v) : v.WellFormed := by
  unfold read? at h
  obtain ⟨⟨read, rest⟩, hread, h⟩ := Option.bind_eq_some_iff.mp h
  dsimp only at h
  split at h
  · obtain rfl := Option.some.inj h
    exact Reader.wellFormed_of_value? hread
  · cases h

end DocBridge.Json
