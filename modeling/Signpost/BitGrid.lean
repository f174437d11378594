/-
# Grids of bits

A grid holds a bit for every row and column. All bits are clear at first. A
row is kept as an array of words of 32 bits, as long as its last set bit needs,
so rows that were never touched take up next to no memory.

Key definitions: `BitGrid`, `BitGrid.get`, `BitGrid.set`.
Key theorems: `BitGrid.get_clear`, `BitGrid.get_set`.
-/

namespace Signpost

/-- Bits by row and column. -/
structure BitGrid where
  rows : Array (Array Nat) := #[]
deriving Repr, DecidableEq, Inhabited

namespace BitGrid

/-- Makes an array at least `n` long. -/
def extend {α : Type} (a : Array α) (filler : α) (n : Nat) : Array α :=
  if n ≤ a.size then a else a ++ Array.replicate (n - a.size) filler

/-- The bit of a column in a row of words. -/
def bit (words : Array Nat) (column : Nat) : Bool :=
  (words[column / 32]?.getD 0).testBit (column % 32)

/-- Sets the bit of a column in a row of words. -/
def setBit (words : Array Nat) (column : Nat) : Array Nat :=
  (extend words 0 (column / 32 + 1)).modify (column / 32) fun word => word ||| 1 <<< (column % 32)

/-- The bit at a place. -/
def get (g : BitGrid) (row column : Nat) : Bool := bit (g.rows[row]?.getD #[]) column

/-- Sets the bit at a place. -/
def set (g : BitGrid) (row column : Nat) : BitGrid :=
  ⟨(extend g.rows #[] (row + 1)).modify row fun words => setBit words column⟩

theorem size_extend {α : Type} (a : Array α) (filler : α) (n : Nat) :
    (extend a filler n).size = max a.size n := by
  unfold extend
  split
  · omega
  · rw [Array.size_append, Array.size_replicate]; omega

/-- Making an array longer does not change what is read from it, where the
filler is read past its end. -/
theorem getD_extend {α : Type} (a : Array α) (filler : α) (n i : Nat) :
    (extend a filler n)[i]?.getD filler = a[i]?.getD filler := by
  unfold extend
  split
  · rfl
  · rw [Array.getElem?_append]
    split
    · rfl
    · rename_i h
      rw [Array.getElem?_replicate, Array.getElem?_eq_none (Nat.le_of_not_lt h)]
      split <;> rfl

/-- What is read after one place of an extended array was changed. -/
theorem getD_modify_extend {α : Type} (a : Array α) (filler : α) (i j : Nat) (f : α → α) :
    ((extend a filler (i + 1)).modify i f)[j]?.getD filler =
      if i = j then f (a[j]?.getD filler) else a[j]?.getD filler := by
  rw [Array.getElem?_modify]
  split
  · rename_i h
    subst h
    have hi : i < (extend a filler (i + 1)).size := by rw [size_extend]; omega
    have h := getD_extend a filler (i + 1) i
    rw [Array.getElem?_eq_getElem hi] at h ⊢
    rw [← h]
    rfl
  · exact getD_extend a filler (i + 1) j

theorem bit_setBit (words : Array Nat) (column c : Nat) :
    bit (setBit words column) c = (bit words c || decide (c = column)) := by
  unfold bit setBit
  rw [getD_modify_extend]
  by_cases hword : column / 32 = c / 32
  · rw [if_pos hword, Nat.testBit_or, Nat.one_shiftLeft, Nat.testBit_two_pow]
    congr 1
    exact decide_eq_decide.mpr (by omega)
  · have hne : c ≠ column := fun h => hword (by rw [h])
    rw [if_neg hword, decide_eq_false hne, Bool.or_false]

/-- All bits of a new grid are clear. -/
@[simp] theorem get_clear (row column : Nat) : ({} : BitGrid).get row column = false := by
  simp [get, bit]

/-- Setting a bit sets that one and no other. -/
theorem get_set (g : BitGrid) (row column r c : Nat) :
    (g.set row column).get r c = (g.get r c || (decide (r = row) && decide (c = column))) := by
  unfold get set
  rw [getD_modify_extend]
  by_cases hrow : row = r
  · rw [if_pos hrow, bit_setBit, decide_eq_true hrow.symm, Bool.true_and]
  · rw [if_neg hrow, decide_eq_false (Ne.symm hrow), Bool.false_and, Bool.or_false]

end BitGrid
end Signpost
