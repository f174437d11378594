/-
# The memory for a set

In a machine that reads forwards the states for a set form a tree of its byte
sequences in which equal subtrees are shared. In a machine that reads
backwards every byte sequence is a chain that begins with its last byte, and
chains share how they end. A set of ASCII characters alone takes one state
that tells its ranges apart, and one to go on from.

Key definitions: `Regex.Footprint.addTree`, `Regex.Footprint.addChains`,
`Regex.Footprint.addSet`.
-/
import Signpost.Regex.Utf8
import Signpost.Regex.Footprint.Basic

namespace Signpost
namespace Regex

open Utf8 (ByteSequence)

/-- Adds the tree of some sequences, sorted and of at most the given length,
below which the state `stop` follows; gives its root. -/
def Growth.addTree (stop : Nat) : Nat → List ByteSequence → Growth → Nat × Growth
  | 0, _, g => (stop, g)
  | length + 1, sequences, g =>
    let alike := sequences.splitBy fun a b => a.head? == b.head?
    let (key, g) := alike.foldl (fun (acc : List Nat × Growth) sequences =>
      match sequences with
      | (range :: rest) :: _ =>
        let (target, g) :=
          if rest.isEmpty then (stop, acc.2)
          else Growth.addTree stop length (sequences.map List.tail) acc.2
        (target :: range.2 :: range.1 :: acc.1, g)
      | _ => acc) ([], g)
    g.share key.reverse alike.length

/-- Adds the chain of one sequence, from the first byte, which is read last, to
the last one; gives the state in which the chain begins. -/
def Growth.addChain (g : Growth) (stop : Nat) (sequence : ByteSequence) : Nat × Growth :=
  sequence.foldl (fun (acc : Nat × Growth) range => acc.2.share [acc.1, range.1, range.2] 0)
    (stop, g)

namespace Footprint

/-- Adds a set to a machine that reads forwards. -/
def addTree (s : CharSet) (f : Footprint) : Footprint :=
  (Growth.addTree f.states 4 (Utf8.sequencesOf s)
    ⟨f.addStates 1, StateCache.ofSlots 10000⟩).2.footprint

/-- Adds a set to a machine that reads backwards. -/
def addChains (s : CharSet) (f : Footprint) : Footprint :=
  let sequences := Utf8.sequencesOf s
  let start : Growth := ⟨f.addStates 2, StateCache.ofSlots 1000⟩
  let grown := sequences.foldl (fun g sequence => (g.addChain (f.states + 1) sequence).2) start
  grown.footprint.addBranches sequences.length

/-- Adds a set. -/
def addSet (backwards : Bool) (s : CharSet) (f : Footprint) : Footprint :=
  match s.single? with
  | some n => f.addStates (Utf8.encode n).length
  | none =>
    if s.isAscii then (f.addStates 2).addRanges s.ranges.length
    else if backwards then f.addChains s
    else f.addTree s

end Footprint
end Regex
end Signpost
