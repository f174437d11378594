/-
# The memory of a byte machine

An expression can be matched by machines that read single bytes. What such a
machine takes up bounds the expressions that are compiled, and is reckoned
here without building it. Every state takes 32 bytes; a state that tells
ranges of bytes apart takes 8 more for each of them, and a state with branches
4 more for each of those. States are numbered as they are added.

While a set is added, equal states are shared as far as a cache remembers
them. The cache has a fixed number of slots; a state is kept in the slot that
its hash gives and displaces what was there.

Key definitions: `Regex.Footprint`, `Regex.Footprint.bytes`,
`Regex.Footprint.repeated`, `Regex.StateCache`, `Regex.Growth.share`.
-/
import Signpost.SparseArray

namespace Signpost
namespace Regex

/-- What a machine takes up: its states, and the bytes of their lists. -/
structure Footprint where
  states : Nat := 0
  listBytes : Nat := 0
deriving Repr, DecidableEq, Inhabited

namespace Footprint

/-- All bytes. -/
def bytes (f : Footprint) : Nat := 32 * f.states + f.listBytes

/-- The greatest number of bytes: 10 MiB. -/
def limit : Nat := 10 * 0x100000

/-- True if the bytes are too many. -/
def isTooLarge (f : Footprint) : Bool := limit < f.bytes

/-- More states. -/
def addStates (f : Footprint) (n : Nat) : Footprint := { f with states := f.states + n }

/-- More ranges of bytes that lead on. -/
def addRanges (f : Footprint) (n : Nat) : Footprint := { f with listBytes := f.listBytes + 8 * n }

/-- More branches. -/
def addBranches (f : Footprint) (n : Nat) : Footprint :=
  { f with listBytes := f.listBytes + 4 * n }

/-- Both together. -/
def add (f g : Footprint) : Footprint := ⟨f.states + g.states, f.listBytes + g.listBytes⟩

/-- Adds the same thing a number of times, or until it is too large. -/
def repeated (step : Footprint → Footprint) : Nat → Footprint → Footprint
  | 0, f => f
  | count + 1, f => if f.isTooLarge then f else repeated step count (step f)

end Footprint

/-- The states remembered while a set is added: each by what it was made from,
in the slot of its hash. -/
structure StateCache where
  slots : Nat
  kept : SparseArray (List Nat × Nat)
deriving Repr, Inhabited

namespace StateCache

/-- A cache that remembers nothing. -/
def ofSlots (slots : Nat) : StateCache := ⟨slots, SparseArray.ofSize slots⟩

/-- The hash of a list of numbers, of 64 bits: each number is mixed in by an
exclusive or, followed by a multiplication. -/
def hash (key : List Nat) : UInt64 :=
  key.foldl (fun h n => (h ^^^ n.toUInt64) * 1099511628211) 14695981039346656037

/-- The slot for a list of numbers. -/
def slot (c : StateCache) (key : List Nat) : Nat := (hash key).toNat % c.slots

/-- The state that was made from the numbers, if it is remembered. -/
def find? (c : StateCache) (key : List Nat) : Option Nat :=
  match c.kept.get? (c.slot key) with
  | some (held, state) => if held = key then some state else none
  | none => none

/-- Remembers a state. -/
def insert (c : StateCache) (key : List Nat) (state : Nat) : StateCache :=
  { c with kept := c.kept.set (c.slot key) (key, state) }

end StateCache

/-- A machine to which a set is being added. -/
structure Growth where
  footprint : Footprint
  cache : StateCache

/-- The state made from the numbers: a remembered one, or a new one with a list
of `ranges` ranges of bytes. -/
def Growth.share (g : Growth) (key : List Nat) (ranges : Nat) : Nat × Growth :=
  match g.cache.find? key with
  | some state => (state, g)
  | none =>
    let state := g.footprint.states
    (state, ⟨(g.footprint.addStates 1).addRanges ranges, g.cache.insert key state⟩)

end Regex
end Signpost
