import DocBridge.Json.Value
import Mathlib.Logic.Relation

/-!
# Equal JSON values

Two JSON values are equal when they are the same but for the signs of zeros in them: the double zero
has two signs and is one number, and every other part of a value is compared as it is. With all
zeros made positive, equality of values is being the same value, so it is an equivalence.
-/

namespace DocBridge

namespace Binary64

/-- The same number, zero without its sign. -/
def unsignedZero (x : Binary64) : Binary64 := if x.isZero then zero false else x

theorem same_iff_unsignedZero_eq {x y : Binary64} :
    x.same y = true ↔ x.unsignedZero = y.unsignedZero := by
  have hzero : (zero false).isZero = true := rfl
  unfold same unsignedZero
  rw [Bool.or_eq_true, Bool.and_eq_true, beq_iff_eq]
  split
  · next hx =>
    split
    · next hy => simp [hx, hy]
    · next hy =>
      refine iff_of_false ?_ fun h => hy (h ▸ hzero)
      rintro (⟨-, hy'⟩ | rfl)
      · exact hy hy'
      · exact hy hx
  · next hx =>
    split
    · next hy =>
      refine iff_of_false ?_ fun h => hx (h ▸ hzero)
      rintro (⟨hx', -⟩ | rfl)
      · exact hx hx'
      · exact hx hy
    · next hy => simp [hx]

end Binary64

namespace Json

/-- The same number, zero without its sign. -/
def Number.unsignedZero : Number → Number
  | integer n => integer n
  | real x => real x.unsignedZero

theorem Number.same_iff_unsignedZero_eq {m n : Number} :
    m.same n = true ↔ m.unsignedZero = n.unsignedZero := by
  cases m <;> cases n <;> simp [same, unsignedZero, Binary64.same_iff_unsignedZero_eq]

namespace Value

mutual

/-- The value with all zeros in it without sign. -/
def unsignedZeros : Value → Value
  | number n => number n.unsignedZero
  | array items => array (unsignedZerosOfAll items)
  | object members => object (unsignedZerosOfMembers members)
  | v => v

def unsignedZerosOfAll : List Value → List Value
  | [] => []
  | v :: rest => unsignedZeros v :: unsignedZerosOfAll rest

def unsignedZerosOfMembers : List (String × Value) → List (String × Value)
  | [] => []
  | (key, v) :: rest => (key, unsignedZeros v) :: unsignedZerosOfMembers rest

end

mutual

/-- Values are equal when they are the same but for the signs of zeros. -/
theorem same_iff_unsignedZeros_eq : (v w : Value) →
    (v.same w = true ↔ v.unsignedZeros = w.unsignedZeros)
  | null, w => by cases w <;> simp [same, unsignedZeros]
  | boolean b, w => by cases w <;> simp [same, unsignedZeros]
  | number m, w => by
      cases w <;> simp [same, unsignedZeros, Number.same_iff_unsignedZero_eq]
  | string s, w => by cases w <;> simp [same, unsignedZeros]
  | array items, w => by
      cases w with
      | array items' =>
          rw [same, unsignedZeros, unsignedZeros, array.injEq]
          exact allSame_iff_unsignedZeros_eq items items'
      | _ => simp [same, unsignedZeros]
  | object members, w => by
      cases w with
      | object members' =>
          rw [same, unsignedZeros, unsignedZeros, object.injEq]
          exact membersSame_iff_unsignedZeros_eq members members'
      | _ => simp [same, unsignedZeros]

theorem allSame_iff_unsignedZeros_eq : (items items' : List Value) →
    (allSame items items' = true ↔ unsignedZerosOfAll items = unsignedZerosOfAll items')
  | [], items' => by cases items' <;> simp [allSame, unsignedZerosOfAll]
  | v :: rest, [] => by simp [allSame, unsignedZerosOfAll]
  | v :: rest, v' :: rest' => by
      rw [allSame, unsignedZerosOfAll, unsignedZerosOfAll, Bool.and_eq_true, List.cons.injEq,
        same_iff_unsignedZeros_eq v v', allSame_iff_unsignedZeros_eq rest rest']

theorem membersSame_iff_unsignedZeros_eq : (members members' : List (String × Value)) →
    (membersSame members members' = true ↔
      unsignedZerosOfMembers members = unsignedZerosOfMembers members')
  | [], members' => by cases members' <;> simp [membersSame, unsignedZerosOfMembers]
  | (key, v) :: rest, [] => by simp [membersSame, unsignedZerosOfMembers]
  | (key, v) :: rest, (key', v') :: rest' => by
      rw [membersSame, unsignedZerosOfMembers, unsignedZerosOfMembers, Bool.and_eq_true,
        Bool.and_eq_true, beq_iff_eq, List.cons.injEq, Prod.mk.injEq,
        same_iff_unsignedZeros_eq v v', membersSame_iff_unsignedZeros_eq rest rest']

end

theorem equivalence_same : Equivalence fun v w : Value => v.same w = true := by
  simp only [same_iff_unsignedZeros_eq]
  exact Equivalence.comap ⟨fun _ => rfl, Eq.symm, Eq.trans⟩ unsignedZeros

end Value

end Json

end DocBridge
