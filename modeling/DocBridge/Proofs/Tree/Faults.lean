import DocBridge.Error
import DocBridge.Proofs.Except

/-!
# Failures of reading trees

A reader of trees that refuses what it is given does so with a tree fault. A reader put together
from others that do fails in no other way either.
-/

namespace DocBridge

/-- A reader succeeds with something that has a property, or fails with a tree fault. -/
def Yields {α : Type} (P : α → Prop) : Except Error α → Prop
  | .ok a => P a
  | .error e => ∃ fault, e = .malformedTree fault

section Yields

variable {α β : Type} {P : α → Prop} {Q : β → Prop}

theorem Yields.bind {x : Except Error α} {f : α → Except Error β} (hx : Yields P x)
    (hf : ∀ a, P a → Yields Q (f a)) : Yields Q (x >>= f) := by
  cases x with
  | ok a => exact hf a hx
  | error e => exact hx

theorem Yields.map {x : Except Error α} (f : α → β) (hx : Yields P x)
    (hf : ∀ a, P a → Q (f a)) : Yields Q (f <$> x) := by
  cases x with
  | ok a => exact hf a hx
  | error e => exact hx

end Yields

end DocBridge
