/-
# Regular expressions

The expressions that are matched, in a normal form that their constructors
keep: sequences and choices are flat, a choice of single characters is a set,
a choice whose branches begin alike has its common beginning in front, and a
repetition of something empty is done at most once. The normal form decides
which of several matches is found, so it is part of what an expression means.

Branches begin alike if their first pieces are equal, where adjacent
characters make up one piece, a word. Two sets are equal only if they have the
same ranges and were written over the same alphabet.

Key definitions: `Regex.Alphabet`, `Regex.Expr`, `Regex.Expr.ofSet`,
`Regex.Expr.sequence`, `Regex.Expr.choice`, `Regex.Expr.repetition`,
`Regex.Expr.leastLength?`, `Regex.Expr.groupNames`.
-/
import Signpost.Regex.Assertion

namespace Signpost
namespace Regex

/-- The characters among which a set was written: all of them, or those of
ASCII where Unicode is turned off. It has no part in what the set matches. -/
inductive Alphabet where
  | unicode
  | ascii
deriving Repr, DecidableEq, Inhabited

/-- A regular expression. A group has its number and may have a name; a
repetition has a least count and may have a greatest. -/
inductive Expr where
  | empty
  | set (alphabet : Alphabet) (members : CharSet)
  | assertion (a : Assertion)
  | seq (first second : Expr)
  | alt (first second : Expr)
  | rep (body : Expr) (least : Nat) (most : Option Nat) (greedy : Bool)
  | group (number : Nat) (name : Option String) (body : Expr)
deriving Repr, DecidableEq, Inhabited

namespace Expr

/-- The expression that matches nothing, not even the empty text. -/
def fail : Expr := .set .unicode CharSet.empty

/-- The expression for one character. -/
def char (c : Char) : Expr := .set .unicode (CharSet.single c)

/-- The expression for a set. The alphabet is kept only of a set with two
members or more. -/
def ofSet (alphabet : Alphabet) (s : CharSet) : Expr :=
  if s.ranges.isEmpty || s.single?.isSome then set .unicode s else set alphabet s

/-- The parts of a sequence, left to right. -/
def parts : Expr → List Expr
  | empty => []
  | seq a b => parts a ++ parts b
  | e => [e]

/-- The branches of a choice, in their order. -/
def branches : Expr → List Expr
  | alt a b => branches a ++ branches b
  | e => [e]

/-- Parts, one after the other. -/
def ofParts : List Expr → Expr
  | [] => empty
  | [e] => e
  | e :: es => seq e (ofParts es)

/-- Branches, the earlier preferred. -/
def ofBranches : List Expr → Expr
  | [] => fail
  | [e] => e
  | e :: es => alt e (ofBranches es)

/-- The sequence of some expressions. -/
def sequence (es : List Expr) : Expr := ofParts (es.flatMap parts)

/-- True if an expression matches the empty text only. -/
def onlyEmpty : Expr → Bool
  | empty => true
  | set _ _ => false
  | assertion _ => true
  | seq a b => onlyEmpty a && onlyEmpty b
  | alt a b => onlyEmpty a && onlyEmpty b
  | rep e _ most _ => onlyEmpty e && most.isSome
  | group _ _ e => onlyEmpty e

/-- The least number of characters that a match consumes, as far as it is
known: it is not for a set without members and for what such a set is part
of. -/
def leastLength? : Expr → Option Nat
  | empty => some 0
  | set _ s => if s.ranges.isEmpty then none else some 1
  | assertion _ => some 0
  | seq a b => do return (← leastLength? a) + (← leastLength? b)
  | alt a b => do return min (← leastLength? a) (← leastLength? b)
  | rep e least _ _ => do return (← leastLength? e) * least
  | group _ _ e => leastLength? e

/-- True unless an expression is known to consume a character. -/
def nullable (e : Expr) : Bool := e.leastLength?.getD 0 == 0

/-- The repetition of an expression, from `least` to `most` times. -/
def repetition (e : Expr) (least : Nat) (most : Option Nat) (greedy : Bool) : Expr :=
  let least' := if onlyEmpty e then min least 1 else least
  let most' := if onlyEmpty e then some ((most.map fun m => min m 1).getD 1) else most
  if least' = 0 ∧ most' = some 0 then empty
  else if least' = 1 ∧ most' = some 1 then e
  else rep e least' most' greedy

/-- The members of an expression that is a set. -/
def members? : Expr → Option CharSet
  | set _ s => some s
  | _ => none

/-- The members of an expression that is a set of just one character. -/
def character? (e : Expr) : Option CharSet :=
  e.members?.filter fun s => s.single?.isSome

/-- The members of an expression that is a set and not of just one character. -/
def class? (e : Expr) : Option CharSet :=
  e.members?.filter fun s => s.single?.isNone

/-- One set for a choice of which every branch is a single character, or every
branch is a set of another size. -/
def asSet? (es : List Expr) : Option CharSet :=
  (es.mapM character?).or (es.mapM class?) |>.map fun sets => sets.foldr CharSet.union CharSet.empty

/-- A piece of a sequence: a word of adjacent characters, or any other part. -/
abbrev Piece := List Expr

/-- The pieces of a sequence, left to right. -/
def pieces (e : Expr) : List Piece :=
  e.parts.splitBy fun a b => a.character?.isSome && b.character?.isSome

/-- The longest common beginning of two lists of pieces. -/
def commonStart : List Piece → List Piece → List Piece
  | a :: as, b :: bs => if a = b then a :: commonStart as bs else []
  | _, _ => []

/-- The longest common beginning of the branches, if every one of them is a
sequence of two pieces or more. -/
def sharedStart : List Expr → List Piece
  | [] => []
  | e :: es =>
    if (e :: es).all fun b => decide (2 ≤ b.pieces.length) then
      es.foldl (fun start b => commonStart start b.pieces) e.pieces
    else []

/-- A choice with the common beginning of its branches in front, and again so
within what is left; `fuel` bounds the rounds. -/
def choiceRounds : Nat → List Expr → Expr
  | 0, es => ofBranches es
  | fuel + 1, es =>
    let bs := es.flatMap branches
    match bs with
    | [] => fail
    | [e] => e
    | _ =>
      match asSet? bs with
      | some s => ofSet .unicode s
      | none =>
        match sharedStart bs with
        | [] => ofBranches bs
        | start =>
          let tails := bs.map fun b => ofParts (b.pieces.drop start.length).flatten
          sequence (start.flatten ++ [choiceRounds fuel tails])

/-- The number of constructors. -/
def size : Expr → Nat
  | empty => 1
  | set _ _ => 1
  | assertion _ => 1
  | seq a b => size a + size b + 1
  | alt a b => size a + size b + 1
  | rep e _ _ _ => size e + 1
  | group _ _ e => size e + 1

/-- The choice between some expressions, the earlier preferred. -/
def choice (es : List Expr) : Expr := choiceRounds ((es.map size).foldl (· + ·) 1) es

/-- The groups of an expression by number, with their names, as they stand. -/
def groups : Expr → List (Nat × Option String)
  | empty => []
  | set _ _ => []
  | assertion _ => []
  | seq a b => groups a ++ groups b
  | alt a b => groups a ++ groups b
  | rep e _ _ _ => groups e
  | group n name e => (n, name) :: groups e

/-- The names of the groups `1`, `2`, and so on up to the greatest number in
use; a number that no group has counts as a group without a name. -/
def groupNames (e : Expr) : List (Option String) :=
  let gs := e.groups
  (List.range ((gs.map (·.1)).foldl max 0)).map fun i => (gs.lookup (i + 1)).join

end Expr
end Regex
end Signpost
