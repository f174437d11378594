/-
# Sparse arrays

An array of which few places are filled, as a binary tree in which the bits of
an index, the lowest first, lead to its place. Only filled places take up
memory.

Key definitions: `SparseArray`, `SparseArray.ofSize`, `SparseArray.get?`,
`SparseArray.set`.
-/

namespace Signpost

/-- A binary tree with values at its leaves. -/
inductive BitTree (α : Type) where
  | vacant
  | leaf (value : α)
  | fork (even odd : BitTree α)
deriving Repr, DecidableEq, Inhabited

namespace BitTree

variable {α : Type}

/-- The value at an index of `depth` bits. -/
def get? : Nat → BitTree α → Nat → Option α
  | 0, leaf v, _ => some v
  | depth + 1, fork even odd, i =>
    if i % 2 = 0 then get? depth even (i / 2) else get? depth odd (i / 2)
  | _, _, _ => none

/-- Puts a value at an index of `depth` bits. -/
def set (v : α) : Nat → Nat → BitTree α → BitTree α
  | 0, _, _ => leaf v
  | depth + 1, i, fork even odd =>
    if i % 2 = 0 then fork (set v depth (i / 2) even) odd else fork even (set v depth (i / 2) odd)
  | depth + 1, i, _ =>
    if i % 2 = 0 then fork (set v depth (i / 2) vacant) vacant
    else fork vacant (set v depth (i / 2) vacant)

end BitTree

/-- An array whose indices have `depth` bits. -/
structure SparseArray (α : Type) where
  depth : Nat
  tree : BitTree α := .vacant
deriving Repr, DecidableEq, Inhabited

namespace SparseArray

variable {α : Type}

/-- An array without values, for at least `size` places. -/
def ofSize (size : Nat) : SparseArray α := { depth := size.log2 + 1 }

/-- The value at an index. -/
def get? (a : SparseArray α) (i : Nat) : Option α := a.tree.get? a.depth i

/-- Puts a value at an index. -/
def set (a : SparseArray α) (i : Nat) (v : α) : SparseArray α :=
  { a with tree := a.tree.set v a.depth i }

end SparseArray
end Signpost
