/-
# The memory of an expression

An expression is compiled only if two machines for it, one that reads forwards
and notes where its groups begin and end, and one that reads backwards and
does not, are both within the limit. A machine for an expression that does not
have to begin at the end of the text where the machine starts has a loop in
front that skips bytes.

Key definitions: `Regex.Place`, `Regex.Expr.grow`, `Regex.Expr.leads`,
`Regex.Expr.trails`, `Regex.Expr.footprint`, `Regex.Expr.isTooLarge`.
-/
import Signpost.Regex.Expr
import Signpost.Regex.Footprint.Set
import Signpost.Regex.Footprint.Words

namespace Signpost
namespace Regex

/-- Where an expression stands: alone, or as the second branch of a choice or a
later one. -/
inductive Place where
  | alone
  | second
  | later
deriving Repr, DecidableEq, Inhabited

/-- What the place of an expression adds after it: the second branch of a choice
the state that it forks from and the one where it joins, and the later ones a
branch each. -/
def Place.close : Place → Footprint → Footprint
  | alone, f => f
  | second, f => (f.addStates 2).addBranches 2
  | later, f => f.addBranches 1

/-- Adds a repetition of what `step` adds. -/
def Footprint.addRepetition (step : Footprint → Footprint) (nullable : Bool) (least : Nat)
    (most : Option Nat) (f : Footprint) : Footprint :=
  match most, least with
  | none, 0 =>
    if nullable then ((step f).addStates 3).addBranches 4
    else (step (f.addStates 1)).addBranches 2
  | none, k + 1 => ((f.repeated step (k + 1)).addStates 1).addBranches 2
  | some 1, 0 => ((step (f.addStates 1)).addStates 1).addBranches 2
  | some m, k =>
    let required := if k = 0 then f.addStates 1 else f.repeated step k
    if m = k then required
    else
      (required.addStates 1).repeated (fun f => (step (f.addStates 1)).addBranches 2) (m - k)

namespace Expr

/-- The code point of an expression that is one character. -/
def codePoint? (e : Expr) : Option Nat := e.character?.bind CharSet.single?

/-- The bytes of an expression that is a word. -/
def word? (e : Expr) : Option Word :=
  match e.parts with
  | [] => none
  | parts => (parts.mapM codePoint?).map (·.flatMap Utf8.encode)

/-- The words of a choice between words. -/
def words? (e : Expr) : Option (List Word) := e.branches.mapM word?

/-- Adds an expression to a machine. -/
def grow (backwards : Bool) : Expr → Place → Footprint → Footprint
  | empty, p, f => p.close (f.addStates 1)
  | set _ s, p, f => p.close (f.addSet backwards s)
  | assertion _, p, f => p.close (f.addStates 1)
  | seq a b, p, f =>
    p.close
      (if backwards then grow backwards a .alone (grow backwards b .alone f)
       else grow backwards b .alone (grow backwards a .alone f))
  | rep e least most _, p, f =>
    p.close (f.addRepetition (grow backwards e .alone) (nullable e) least most)
  | group _ _ e, p, f =>
    p.close
      (if backwards then grow backwards e .alone f
       else (grow backwards e .alone (f.addStates 1)).addStates 1)
  | alt a b, .alone, f =>
    match words? (alt a b) with
    | some words => f.addWords (if backwards then words.map List.reverse else words)
    | none => grow backwards b .second (grow backwards a .alone f)
  | alt a b, p, f => grow backwards b .later (p.close (grow backwards a .alone f))

/-- True if an assertion is known to be made where a match begins. -/
def leads (a : Assertion) : Expr → Bool
  | empty => false
  | set _ _ => false
  | assertion b => a = b
  | seq x y => leads a x || (onlyEmpty x && leads a y)
  | alt x y => leads a x && leads a y
  | rep e least _ _ => least != 0 && leads a e
  | group _ _ e => leads a e

/-- True if an assertion is known to be made where a match ends. -/
def trails (a : Assertion) : Expr → Bool
  | empty => false
  | set _ _ => false
  | assertion b => a = b
  | seq x y => trails a y || (onlyEmpty y && trails a x)
  | alt x y => trails a x && trails a y
  | rep e least _ _ => least != 0 && trails a e
  | group _ _ e => trails a e

/-- The states in front of a machine: one that leads on, or the loop that skips
bytes. -/
def lead (anchored : Bool) : Footprint :=
  if anchored then { states := 1 } else { states := 3, listBytes := 16 }

/-- The memory of a machine for an expression. The one that reads forwards notes
also where the whole match begins and ends. -/
def footprint (e : Expr) (backwards : Bool) : Footprint :=
  if backwards then (e.grow true .alone (lead (e.trails .textEnd))).addStates 1
  else (e.grow false .alone ((lead (e.leads .textStart)).addStates 1)).addStates 2

/-- True if one of the two machines is too large. -/
def isTooLarge (e : Expr) : Bool :=
  (e.footprint false).isTooLarge || (e.footprint true).isTooLarge

end Expr
end Regex
end Signpost
