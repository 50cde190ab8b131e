/-!
# Ordered entries

Package maps, evidence, weights and the objects of data formats are lists of key and value pairs
whose order is their order of insertion and whose keys are distinct. A lookup is `List.lookup`; the
two ways of inserting differ in who wins when the key is already there. Neither moves a key that has
a place.
-/

namespace RepoAtlas.Entries

variable {α β : Type} [BEq α]

/-- Sets the value of a key, in the place it already has or else at the end. -/
def insert (key : α) (value : β) : List (α × β) → List (α × β)
  | [] => [(key, value)]
  | (k, v) :: rest => if k == key then (k, value) :: rest else (k, v) :: insert key value rest

/-- Adds a key at the end unless it has a value already. -/
def insertNew (key : α) (value : β) : List (α × β) → List (α × β)
  | [] => [(key, value)]
  | (k, v) :: rest => if k == key then (k, v) :: rest else (k, v) :: insertNew key value rest

/-- The entries that pairs leave when each sets its key in turn. -/
def ofPairs (pairs : List (α × β)) : List (α × β) :=
  pairs.foldl (fun entries (key, value) => insert key value entries) []

def addNew (entries more : List (α × β)) : List (α × β) :=
  more.foldl (fun entries (key, value) => insertNew key value entries) entries

section Lookup

variable [LawfulBEq α]

/-- After a key is set, it has that value and every other key has what it had. -/
theorem lookup_insert (key other : α) (value : β) (entries : List (α × β)) :
    (insert key value entries).lookup other =
      if other == key then some value else entries.lookup other := by
  induction entries with
  | nil => cases h : other == key <;> simp [insert, List.lookup_cons, h]
  | cons entry rest ih =>
    obtain ⟨k, v⟩ := entry
    by_cases same : k = key
    · subst same
      cases h : other == k <;> simp [insert, List.lookup_cons, h]
    · cases hk : other == k with
      | true =>
        obtain rfl := eq_of_beq hk
        simp [insert, same]
      | false => simp [insert, List.lookup_cons, same, hk, ih]

/-- A new key gets its value, and a key that had one keeps it. -/
theorem lookup_insertNew (key other : α) (value : β) (entries : List (α × β)) :
    (insertNew key value entries).lookup other =
      if other == key then some ((entries.lookup key).getD value) else entries.lookup other := by
  induction entries with
  | nil => cases h : other == key <;> simp [insertNew, List.lookup_cons, h]
  | cons entry rest ih =>
    obtain ⟨k, v⟩ := entry
    by_cases same : k = key
    · subst same
      cases h : other == k <;> simp [insertNew, List.lookup_cons, h]
    · have apart : (key == k) = false := by simpa using fun h => same h.symm
      cases hk : other == k with
      | true =>
        obtain rfl := eq_of_beq hk
        simp [insertNew, same]
      | false => simp [insertNew, List.lookup_cons, same, hk, ih, apart]

end Lookup

end RepoAtlas.Entries
