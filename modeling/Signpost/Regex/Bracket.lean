/-
# Character classes in brackets

A class lists characters, ranges, escaped sets, named ASCII classes and
classes within; `&&`, `--` and `~~` combine what stands on their left with
what stands on their right, from left to right.

Key definitions: `Regex.Members`, `Regex.SetOperator`, `Regex.readNamedClass`,
`Regex.readClassStart`, `Regex.readMembers`, `Regex.readClass`.
-/
import Signpost.Regex.Escape

namespace Signpost
namespace Regex

/-- The members listed so far: their set, the number of entries and the
deepest nesting among them. -/
structure Members where
  set : CharSet := CharSet.empty
  count : Nat := 0
  depth : Nat := 0
deriving Repr, DecidableEq, Inhabited

namespace Members

/-- One more entry. -/
def add (m : Members) (s : CharSet) (depth : Nat) : Members :=
  ⟨CharSet.union s m.set, m.count + 1, max m.depth depth⟩

/-- The nesting of a list of entries: a list of one is no level of its own. -/
def nesting (m : Members) : Nat := if m.count ≤ 1 then m.depth else m.depth + 1

end Members

/-- The operators between two lists of members. -/
inductive SetOperator where
  | intersection
  | difference
  | symmetricDifference
deriving Repr, DecidableEq, Inhabited

/-- The operator that is written as `c` twice. -/
def SetOperator.ofChar? : Char → Option SetOperator
  | '&' => some .intersection
  | '-' => some .difference
  | '~' => some .symmetricDifference
  | _ => none

/-- What an operator makes of two sets. -/
def SetOperator.apply : SetOperator → CharSet → CharSet → CharSet
  | intersection, s, t => s.inter t
  | difference, s, t => s.diff t
  | symmetricDifference, s, t => s.symmDiff t

/-- The left side of an operator that still waits for its right side. -/
structure Pending where
  operator : SetOperator
  left : CharSet
  depth : Nat

/-- What the members listed so far come to, with the operator that waits for
them. Both sides are closed under change of case where case is ignored. -/
def combine (flags : Flags) (pending : Option Pending) (m : Members) :
    Except Fault (CharSet × Nat) :=
  match pending with
  | none => .ok (m.set, m.nesting)
  | some p => do
    let left ← flags.closeSet false p.left
    let right ← flags.closeSet false m.set
    .ok (p.operator.apply left right, max p.depth m.nesting + 1)

/-- Reads a named class such as `[:alpha:]` or `[:^alpha:]` after its opening
bracket; gives nothing if there is none. -/
def readNamedClass (flags : Flags) (cs : List Char) :
    Option (Except Fault CharSet × List Char) :=
  match cs with
  | ':' :: rest =>
    let negated := rest.head? = some '^'
    let rest := if negated then rest.tail else rest
    let name := rest.takeWhile (· != ':')
    match rest.dropWhile (· != ':') with
    | ':' :: ']' :: rest =>
      (CharSet.asciiClass? (String.ofList name)).map fun s => (flags.closeSet negated s, rest)
    | _ => none
  | _ => none

/-- Adds the hyphens that open a class, which stand for themselves; `fuel`
bounds their number. -/
def takeHyphens (flags : Flags) : Nat → Members → List Char → Members × List Char
  | fuel + 1, m, '-' :: cs =>
    takeHyphens flags fuel (m.add (CharSet.single '-') 0) (skipBlanks flags cs)
  | _, m, cs => (m, cs)

/-- Reads the beginning of a class after its bracket: `^` negates it, hyphens
and then a first `]` stand for themselves. -/
def readClassStart (flags : Flags) (cs : List Char) : Bool × Members × List Char :=
  let cs := skipBlanks flags cs
  let negated := cs.head? = some '^'
  let cs := if negated then skipBlanks flags cs.tail else cs
  let (m, cs) := takeHyphens flags cs.length {} cs
  match m.count, cs with
  | 0, ']' :: rest => (negated, m.add (CharSet.single ']') 0, skipBlanks flags rest)
  | _, _ => (negated, m, cs)

/-- Reads one character or escape sequence of a class. -/
def readMember (flags : Flags) : List Char → Except Fault (Atom × List Char)
  | [] => .error .unclosedClass
  | '\\' :: cs => readEscape flags cs
  | c :: cs => .ok (.character c, cs)

/-- The character at an end of a range, or alone. -/
def memberCharacter (flags : Flags) : Atom → Except Fault Char
  | .character c =>
    if flags.unicode || decide (c.toNat < 128) then .ok c else .error .needsUnicode
  | _ => .error .badRange

/-- The set of a member that is no range. -/
def memberSet (flags : Flags) : Atom → Except Fault CharSet
  | .set s => .ok s
  | .assertion _ => .error .badEscape
  | .character c => (memberCharacter flags (.character c)).map CharSet.single

/-- The character that follows a hyphen. In verbose mode blanks are passed
over, and the sign of a comment with the blanks after it. -/
def characterAhead (flags : Flags) (cs : List Char) : Option Char :=
  if flags.verbose then
    match cs.dropWhile Unicode.isWhiteSpace with
    | '#' :: rest => (rest.dropWhile Unicode.isWhiteSpace).head?
    | rest => rest.head?
  else cs.head?

/-- True if the text begins with a hyphen that makes a range: one that is
followed neither by the end of the class nor by a second hyphen. -/
def opensRange (flags : Flags) (cs : List Char) : Bool :=
  match cs with
  | '-' :: rest =>
    let next := characterAhead flags rest
    !(next == some ']' || next == some '-')
  | _ => false

/-- Reads a member, a single one or a range. -/
def readRange (flags : Flags) (cs : List Char) : Except Fault (CharSet × List Char) := do
  let (first, rest) ← readMember flags cs
  match skipBlanks flags rest with
  | [] => .error .unclosedClass
  | rest =>
    if opensRange flags rest then
      let (last, rest) ← readMember flags (skipBlanks flags rest.tail)
      let lo ← memberCharacter flags first
      let hi ← memberCharacter flags last
      if lo ≤ hi then .ok (CharSet.range lo hi, rest) else .error .badRange
    else
      let s ← memberSet flags first
      .ok (s, rest)

/-- Reads members up to the bracket that closes their class; `fuel` bounds
their number. The result is the set, its nesting and the rest. -/
def readMembers (flags : Flags) :
    Nat → Option Pending → Members → List Char → Except Fault (CharSet × Nat × List Char)
  | 0, _, _, _ => .error .unclosedClass
  | fuel + 1, pending, m, cs =>
    match skipBlanks flags cs with
    | [] => .error .unclosedClass
    | '[' :: rest =>
      match readNamedClass flags rest with
      | some (s, rest) => do
        let s ← s
        readMembers flags fuel pending (m.add s 0) rest
      | none => do
        let (negated, inner, rest) := readClassStart flags rest
        let (s, depth, rest) ← readMembers flags fuel none inner rest
        let s ← flags.closeSet negated s
        readMembers flags fuel pending (m.add s (depth + 1)) rest
    | ']' :: rest => do
      let (s, depth) ← combine flags pending m
      .ok (s, depth, rest)
    | c :: rest =>
      match SetOperator.ofChar? c, decide (rest.head? = some c) with
      | some operator, true => do
        let (left, depth) ← combine flags pending m
        readMembers flags fuel (some ⟨operator, left, depth⟩) {} rest.tail
      | _, _ => do
        let (s, rest) ← readRange flags (c :: rest)
        readMembers flags fuel pending (m.add s 0) rest

/-- Reads a class after its opening bracket: its set, its nesting and the
rest. -/
def readClass (flags : Flags) (cs : List Char) : Except Fault (CharSet × Nat × List Char) := do
  let (negated, m, rest) := readClassStart flags cs
  let (s, depth, rest) ← readMembers flags (cs.length + 1) none m rest
  let s ← flags.closeSet negated s
  .ok (s, depth + 1, rest)

end Regex
end Signpost
