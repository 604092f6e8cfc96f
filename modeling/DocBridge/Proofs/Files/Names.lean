import DocBridge.Files.Store
import DocBridge.Proofs.Text.Lines

/-!
# Files by their names

A path that is one name leads to the entry of that name in the working directory.
-/

namespace DocBridge.Files

theorem fromUTF8?_toUTF8 (s : String) : String.fromUTF8? s.toUTF8 = some s := by
  simp [String.fromUTF8?, String.fromUTF8, s.isValidUTF8]

namespace Path

variable {path : Path}

/-- The check of a path in a form that can be evaluated. -/
theorem check_eq (path : Path) : path.check =
    if '\x00' ∈ path.toList then .error .nullInPath
    else if path = "" then .error .notFound
    else if longest < path.utf8ByteSize then .error .nameTooLong
    else .ok () := by
  simp [check]

/-- The path is a name that an entry can have. -/
def IsName (path : Path) : Prop :=
  '/' ∉ path.toList ∧ '\x00' ∉ path.toList ∧ isStill path = false ∧ path ≠ ".." ∧
    path.utf8ByteSize ≤ longestName

instance (path : Path) : Decidable path.IsName := inferInstanceAs (Decidable (_ ∧ _))

theorem IsName.check_eq_ok (h : path.IsName) : path.check = .ok () := by
  obtain ⟨-, hnull, hstill, -, hshort⟩ := h
  have hne : path ≠ "" := by
    rintro rfl
    simp [isStill] at hstill
  have hlong : ¬ longest < path.utf8ByteSize := by
    rw [longestName] at hshort
    rw [longest]
    omega
  rw [check_eq, if_neg hnull, if_neg hne, if_neg hlong]

end Path

namespace Store

variable {store : Store} {name : Path}

theorem entryAt_name (hworking : store.working = []) (h : name.IsName) :
    store.entryAt name =
      match store.root.find? name with
      | some entry => .ok entry
      | none => .error .notFound := by
  obtain ⟨hsingle, -, hstill, hup, hshort⟩ := id h
  have hsteps : Path.steps name = [name] := Text.split_of_not_mem hsingle
  have hfollow : store.follow name [] = .ok { here := store.root } := by
    rw [follow, hworking]
    split <;> rfl
  have hfind : (⟨store.root, []⟩ : Place).find name = .ok (store.root.find? name) :=
    if_neg (Nat.not_lt.mpr hshort)
  rw [entryAt, h.check_eq_ok, hsteps]
  simp only [bind, Except.bind, List.getLast?_singleton, Option.getD_some,
    List.dropLast_singleton, hfollow, hstill, hup, hfind]
  rfl

theorem read_name (hworking : store.working = []) (h : name.IsName) {text : String}
    (hfile : store.root.find? name = some (.file text.toUTF8)) : store.read name = .ok text := by
  rw [read, entryAt_name hworking h, hfile]
  simp only [bind, Except.bind, fromUTF8?_toUTF8]

end Store

end DocBridge.Files
