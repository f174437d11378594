/-
# Compiled expressions

An expression is compiled once and then matched against many texts. A match
gives the text matched as a whole and, for every group, the text it holds, if
it took part; a group in a repetition holds what it matched in the last round
in which it took part.

Key definitions: `Regex`, `Regex.compile`, `Regex.Match`, `Regex.captures?`,
`Regex.isMatch`.
-/
import Signpost.Regex.Reader
import Signpost.Regex.Search
import Signpost.Regex.Footprint.Expr

namespace Signpost

/-- A compiled expression: its text, what the text means, and the program that
follows from it. -/
structure Regex where
  text : List Char
  expr : Regex.Expr
  program : Regex.Program
  program_eq : program = expr.program

namespace Regex

/-- Compiles the text of an expression; an expression whose machines would be
too large is refused. -/
def compile (text : List Char) : Except Fault Regex := do
  let expr ← read text
  if expr.isTooLarge then .error .tooLarge
  else .ok { text := text, expr := expr, program := expr.program, program_eq := rfl }

/-- The text of the expression. -/
def source (r : Regex) : String := String.ofList r.text

/-- The names of the groups from the first on. -/
def groupNames (r : Regex) : List (Option String) := r.expr.groupNames

/-- What a match gives: the text matched as a whole, and the texts of the
groups from the first on, where they took part. -/
structure Match where
  whole : String
  groups : List (Option String)
deriving Repr, DecidableEq, Inhabited

/-- A part of a text. -/
def slice (text : Array Char) (start stop : Nat) : String :=
  String.ofList ((text.toList.drop start).take (stop - start))

/-- The match of a thread that started at `start` and ran to its end. -/
def matchOf (text : Array Char) (groupCount start : Nat) (t : Thread) : Match where
  whole := slice text start t.position
  groups := (List.range groupCount).map fun i =>
    (groupSpan t.marks (i + 1)).map fun span => slice text span.1 span.2

/-- The first match of the expression in a text, with what its groups hold. -/
def captures? (r : Regex) (text : String) : Option Match :=
  let chars := text.toList.toArray
  (r.program.run chars).map fun m => matchOf chars r.groupNames.length m.1 m.2

/-- True if the expression matches somewhere in the text. -/
def isMatch (r : Regex) (text : String) : Bool := (r.program.run text.toList.toArray).isSome

/-- Asking for groups does not change whether there is a match. -/
theorem isSome_captures? (r : Regex) (text : String) :
    (r.captures? text).isSome = r.isMatch text := by
  simp [captures?, isMatch]

end Regex
end Signpost
