/-!
# Dictionaries

A dictionary is a list of keyed entries in strictly increasing key order. Keys are compared by code
point, which is also the order of their UTF-8 bytes. Since the order is strict, each key occurs once
and two dictionaries with the same entries are the same list.
-/

namespace DocBridge

abbrev Dictionary (α : Type) := List (String × α)

namespace Dictionary

variable {α : Type}

/-- Keys strictly increase from left to right. -/
def Sorted (d : Dictionary α) : Prop := d.Pairwise (·.1 < ·.1)

/-- Binds a key in a sorted dictionary, in the place of any earlier binding. -/
def insert (key : String) (value : α) : Dictionary α → Dictionary α
  | [] => [(key, value)]
  | (k, v) :: rest =>
    if key < k then (key, value) :: (k, v) :: rest
    else if key = k then (key, value) :: rest
    else (k, v) :: insert key value rest

def find? (d : Dictionary α) (key : String) : Option α := d.lookup key

def keys (d : Dictionary α) : List String := d.map (·.1)

/-- Of several entries with one key the last is kept. -/
def ofEntries (entries : List (String × α)) : Dictionary α :=
  entries.foldl (fun d entry => insert entry.1 entry.2 d) []

theorem sorted_nil : Sorted ([] : Dictionary α) := List.Pairwise.nil

theorem mem_insert {key : String} {value : α} {d : Dictionary α} {entry : String × α}
    (h : entry ∈ insert key value d) : entry = (key, value) ∨ entry ∈ d := by
  induction d with
  | nil => simpa [insert] using h
  | cons head rest ih =>
    obtain ⟨k, v⟩ := head
    unfold insert at h
    split at h
    · simpa using h
    · split at h
      · rcases List.mem_cons.1 h with h | h
        · exact .inl h
        · exact .inr (List.mem_cons_of_mem _ h)
      · rcases List.mem_cons.1 h with h | h
        · exact .inr (h ▸ List.mem_cons_self)
        · exact (ih h).imp id (List.mem_cons_of_mem _)

theorem find?_insert_self (key : String) (value : α) (d : Dictionary α) :
    find? (insert key value d) key = some value := by
  induction d with
  | nil => simp [insert, find?]
  | cons head rest ih =>
    obtain ⟨k, v⟩ := head
    unfold insert
    split
    · simp [find?]
    · split
      · simp [find?]
      · next hne =>
        have hkey : (key == k) = false := by simpa using hne
        rw [find?, List.lookup_cons, hkey]
        exact ih

theorem find?_insert_of_ne {key other : String} (h : other ≠ key) (value : α) (d : Dictionary α) :
    find? (insert key value d) other = find? d other := by
  have hkey : (other == key) = false := by simpa using h
  induction d with
  | nil => simp [insert, find?, List.lookup_cons, hkey]
  | cons head rest ih =>
    obtain ⟨k, v⟩ := head
    unfold insert
    split
    · rw [find?, List.lookup_cons, hkey]
      rfl
    · split
      · next heq =>
        subst heq
        simp only [find?, List.lookup_cons, hkey]
      · rw [find?, List.lookup_cons, find?, List.lookup_cons]
        split
        · rfl
        · exact ih

/-- The binding of a key is its last entry. -/
theorem find?_ofEntries (entries : List (String × α)) (key : String) :
    find? (ofEntries entries) key = entries.reverse.lookup key := by
  suffices ∀ reversed : List (String × α),
      find? (ofEntries reversed.reverse) key = reversed.lookup key by
    simpa using this entries.reverse
  intro reversed
  induction reversed with
  | nil => rfl
  | cons entry rest ih =>
    obtain ⟨k, v⟩ := entry
    have hlast : ofEntries ((k, v) :: rest).reverse = insert k v (ofEntries rest.reverse) := by
      rw [List.reverse_cons, ofEntries, List.foldl_append]
      rfl
    rw [hlast, List.lookup_cons]
    by_cases hkey : key = k
    · rw [hkey, find?_insert_self, beq_self_eq_true]
    · have hbeq : (key == k) = false := by simpa using hkey
      rw [find?_insert_of_ne hkey, ih, hbeq]

theorem lookup_map {β : Type} (key : β → String) (value : β → α) (name : String) (l : List β) :
    (l.map fun b => (key b, value b)).lookup name = (l.find? (key · == name)).map value := by
  induction l with
  | nil => rfl
  | cons b rest ih =>
      rw [List.map_cons, List.lookup_cons, List.find?_cons, ih, BEq.comm]
      cases key b == name <;> rfl

theorem find?_ofEntries_map {β : Type} (key : β → String) (value : β → α) (name : String)
    (l : List β) : find? (ofEntries (l.map fun b => (key b, value b))) name =
      (l.reverse.find? (key · == name)).map value := by
  rw [find?_ofEntries, ← List.map_reverse, lookup_map]

theorem sorted_insert {d : Dictionary α} (h : Sorted d) (key : String) (value : α) :
    Sorted (insert key value d) := by
  induction d with
  | nil => simp [insert, Sorted]
  | cons head rest ih =>
    obtain ⟨k, v⟩ := head
    obtain ⟨hk, hrest⟩ := List.pairwise_cons.1 h
    unfold insert
    split
    · next hlt =>
      refine List.pairwise_cons.2 ⟨fun entry hentry => ?_, h⟩
      rcases List.mem_cons.1 hentry with rfl | hentry
      · exact hlt
      · exact String.lt_trans hlt (hk entry hentry)
    · next hlt =>
      split
      · next heq => subst heq; exact List.pairwise_cons.2 ⟨hk, hrest⟩
      · next hne =>
        refine List.pairwise_cons.2 ⟨fun entry hentry => ?_, ih hrest⟩
        rcases mem_insert hentry with rfl | hentry
        · exact Decidable.byContradiction fun hn =>
            hne (String.le_antisymm (String.not_lt.1 hn) (String.not_lt.1 hlt))
        · exact hk entry hentry

theorem sorted_ofEntries (entries : List (String × α)) : Sorted (ofEntries entries) := by
  suffices ∀ d : Dictionary α, Sorted d →
      Sorted (entries.foldl (fun d entry => insert entry.1 entry.2 d) d) from this [] sorted_nil
  induction entries with
  | nil => exact fun _ h => h
  | cons entry rest ih => exact fun d h => ih _ (sorted_insert h _ _)

end Dictionary

end DocBridge
