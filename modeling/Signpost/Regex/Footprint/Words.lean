/-
# The memory for a choice of words

A choice between words is a tree in which words that begin alike share their
first bytes. A word that ends where others go on divides the words that follow
it from those before it, for it is preferred to them: within one node, only
what stands between two such ends is shared.

Key definitions: `Regex.stretches`, `Regex.Footprint.ofWordTree`,
`Regex.Footprint.addWords`.
-/
import Signpost.Regex.Footprint.Basic

namespace Signpost
namespace Regex

/-- A word, as its bytes in the order in which they are read. -/
abbrev Word := List Nat

/-- The words between the empty ones. -/
def stretches : List Word → List (List Word)
  | [] => [[]]
  | [] :: words => [] :: stretches words
  | word :: words =>
    match stretches words with
    | stretch :: more => (word :: stretch) :: more
    | [] => [[word]]

/-- The words that begin with the byte `b`, without it. -/
def restsAfter (b : Nat) (words : List Word) : List Word :=
  words.filterMap fun word =>
    match word with
    | c :: rest => if c = b then some rest else none
    | [] => none

/-- The first bytes of some words, each once. -/
def firstBytes (words : List Word) : List Nat := (words.filterMap List.head?).eraseDups

namespace Footprint

/-- The memory for the stretch of a node: none for an empty one, one state for
the bytes that lead on, and no list in it if there is only one. -/
def addStretch (f : Footprint) (firsts : List Nat) : Footprint :=
  match firsts with
  | [] => f
  | [_] => (f.addStates 1).addBranches 1
  | _ => ((f.addStates 1).addRanges firsts.length).addBranches 1

/-- The memory for the tree of some words; `fuel` bounds their length. A node
where all words end takes none. -/
def ofWordTree : Nat → List Word → Footprint
  | 0, _ => {}
  | fuel + 1, words =>
    if words.all List.isEmpty then {}
    else
      let words := match words with
        | [] :: rest => [] :: rest.dropWhile List.isEmpty
        | _ => words
      let parts := stretches words
      let node : Footprint := ({ states := 1 } : Footprint).addBranches (parts.length - 1)
      parts.foldl (fun f stretch =>
        let firsts := firstBytes stretch
        firsts.foldl (fun f b => f.add (ofWordTree fuel (restsAfter b stretch)))
          (f.addStretch firsts)) node

/-- Adds a choice between words, none of which is empty. -/
def addWords (words : List Word) (f : Footprint) : Footprint :=
  (f.addStates 1).add (ofWordTree ((words.map List.length).foldl max 0 + 1) words)

end Footprint
end Regex
end Signpost
