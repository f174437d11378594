/-
# Tables keyed by text, in insertion order

A table holds at most one value for a key and lists its keys in the order in
which they were first inserted. It carries the matchers of a router, the
positions of a node's children and the values captured from a request.

Key definitions: `Table.get?`, `Table.insert`, `Table.keys`.
Key theorems: `Table.get?_insert_self`, `Table.get?_insert_ne`,
`Table.keys_insert`.
-/

namespace Signpost

/-- A finite map from texts to values; entries stand in the order in which
their keys were first inserted. -/
structure Table (α : Type) where
  entries : List (String × α) := []
deriving Repr, DecidableEq, Inhabited

namespace Table

variable {α : Type}

/-- The table without entries. -/
def empty : Table α := {}

/-- The value under `key` in a list of entries: that of the first such entry. -/
def find (key : String) : List (String × α) → Option α
  | [] => none
  | (k, a) :: es => if k = key then some a else find key es

/-- The entries after `key` was given the value `a`: its entry is rewritten in
place, or added at the end. -/
def put (key : String) (a : α) : List (String × α) → List (String × α)
  | [] => [(key, a)]
  | (k, b) :: es => if k = key then (key, a) :: es else (k, b) :: put key a es

/-- The value under `key`. -/
def get? (t : Table α) (key : String) : Option α := find key t.entries

/-- Gives `key` the value `a`, in place of the value it had. -/
def insert (t : Table α) (key : String) (a : α) : Table α := ⟨put key a t.entries⟩

/-- The number of keys. -/
def size (t : Table α) : Nat := t.entries.length

/-- True if there is no key. -/
def isEmpty (t : Table α) : Bool := t.entries.isEmpty

/-- The keys, in the order of their first insertion. -/
def keys (t : Table α) : List String := t.entries.map (·.1)

@[simp] theorem get?_empty (key : String) : (empty : Table α).get? key = none := rfl

theorem find_put_self (key : String) (a : α) : ∀ es : List (String × α),
    find key (put key a es) = some a
  | [] => by simp [put, find]
  | (k, b) :: es => by
    by_cases h : k = key
    · simp [put, find, h]
    · simp [put, find, h, find_put_self key a es]

theorem find_put_ne {key other : String} (hne : other ≠ key) (a : α) :
    ∀ es : List (String × α), find other (put key a es) = find other es
  | [] => by simp [put, find, Ne.symm hne]
  | (k, b) :: es => by
    by_cases h : k = key
    · have hk : ¬ k = other := fun e => hne (e ▸ h)
      simp [put, find, h, Ne.symm hne]
    · simp [put, find, h, find_put_ne hne a es]

/-- A key that has no value gets it at the end. -/
theorem put_of_find_none {key : String} (a : α) : ∀ {es : List (String × α)},
    find key es = none → put key a es = es ++ [(key, a)]
  | [], _ => rfl
  | (k, b) :: es, h => by
    by_cases hk : k = key
    · simp [find, hk] at h
    · simp only [find, hk, if_false] at h
      simp only [put, hk, if_false, put_of_find_none a h, List.cons_append]

/-- What was inserted last under a key is read back. -/
@[simp] theorem get?_insert_self (t : Table α) (key : String) (a : α) :
    (t.insert key a).get? key = some a :=
  find_put_self key a t.entries

/-- An insertion leaves the other keys alone. -/
theorem get?_insert_ne (t : Table α) {key other : String} (hne : other ≠ key) (a : α) :
    (t.insert key a).get? other = t.get? other :=
  find_put_ne hne a t.entries

theorem mem_of_find {key : String} {a : α} : ∀ {es : List (String × α)},
    find key es = some a → (key, a) ∈ es
  | (k, b) :: es, h => by
    by_cases hk : k = key
    · simp only [find, hk, if_true, Option.some.injEq] at h
      simp [hk, h]
    · simp only [find, hk, if_false] at h
      exact List.mem_cons_of_mem _ (mem_of_find h)

/-- The value under a key is that of an entry. -/
theorem mem_entries_of_get? {t : Table α} {key : String} {a : α} (h : t.get? key = some a) :
    (key, a) ∈ t.entries :=
  mem_of_find h

theorem find_isSome_iff (key : String) : ∀ es : List (String × α),
    (find key es).isSome = true ↔ key ∈ es.map (·.1)
  | [] => by simp [find]
  | (k, b) :: es => by
    by_cases h : k = key
    · simp [find, h]
    · simp [find, h, find_isSome_iff key es, Ne.symm h]

/-- A key has a value exactly when it is listed. -/
theorem isSome_get?_iff (t : Table α) (key : String) :
    (t.get? key).isSome = true ↔ key ∈ t.keys :=
  find_isSome_iff key t.entries

theorem map_put (key : String) (a : α) : ∀ es : List (String × α),
    (put key a es).map (·.1) =
      if key ∈ es.map (·.1) then es.map (·.1) else es.map (·.1) ++ [key]
  | [] => by simp [put]
  | (k, b) :: es => by
    by_cases h : k = key
    · simp [put, h]
    · simp only [put, h, if_false, List.map_cons, map_put key a es, List.mem_cons,
        Ne.symm h, false_or]
      split <;> simp

/-- An insertion adds its key at the end, unless the key is there already. -/
theorem keys_insert (t : Table α) (key : String) (a : α) :
    (t.insert key a).keys = if key ∈ t.keys then t.keys else t.keys ++ [key] :=
  map_put key a t.entries

end Table
end Signpost
