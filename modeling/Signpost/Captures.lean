/-
# What a request captured

Every group that takes part in the match of a segment is kept twice: under its
name, if it has one, where equal names gather their texts in order; and under
a positional key `_K`, where `K` counts the groups of the whole request from
one.

Key definitions: `Captures`, `Captures.add`, `Captures.set`,
`Captures.positionalKey`, `Captures.get?`, `Captures.getAll`.
Key theorems: `Captures.getAll_add_self`, `Captures.getAll_set_self`,
`Captures.getAll_add_ne`, `Captures.getAll_set_ne`.
-/
import Signpost.Table

namespace Signpost

/-- The texts captured under each key. -/
structure Captures where
  table : Table (List String) := {}
deriving Repr, DecidableEq, Inhabited

namespace Captures

/-- Nothing captured. -/
def empty : Captures := {}

/-- All texts under a key, in the order of capture. -/
def getAll (v : Captures) (key : String) : List String := (v.table.get? key).getD []

/-- The first text under a key. -/
def get? (v : Captures) (key : String) : Option String := (v.getAll key).head?

/-- The key of the `index`-th group of a request. -/
def positionalKey (index : Nat) : String := "_" ++ toString index

/-- The text of the `index`-th group of a request. -/
def positional? (v : Captures) (index : Nat) : Option String := v.get? (positionalKey index)

/-- The number of keys, positional ones included. -/
def size (v : Captures) : Nat := v.table.size

/-- True if nothing was captured. -/
def isEmpty (v : Captures) : Bool := v.table.isEmpty

/-- The keys, in the order of their first use. -/
def keys (v : Captures) : List String := v.table.keys

/-- Adds a text to those under its key. -/
def add (v : Captures) (key text : String) : Captures :=
  ⟨v.table.insert key (v.getAll key ++ [text])⟩

/-- Puts one text in place of all those under its key. -/
def set (v : Captures) (key text : String) : Captures := ⟨v.table.insert key [text]⟩

@[simp] theorem getAll_empty (key : String) : empty.getAll key = [] := rfl

@[simp] theorem getAll_add_self (v : Captures) (key text : String) :
    (v.add key text).getAll key = v.getAll key ++ [text] := by
  simp [add, getAll]

@[simp] theorem getAll_set_self (v : Captures) (key text : String) :
    (v.set key text).getAll key = [text] := by
  simp [set, getAll]

theorem getAll_add_ne (v : Captures) {key other : String} (hne : other ≠ key) (text : String) :
    (v.add key text).getAll other = v.getAll other := by
  simp [add, getAll, Table.get?_insert_ne _ hne]

theorem getAll_set_ne (v : Captures) {key other : String} (hne : other ≠ key) (text : String) :
    (v.set key text).getAll other = v.getAll other := by
  simp [set, getAll, Table.get?_insert_ne _ hne]

end Captures
end Signpost
