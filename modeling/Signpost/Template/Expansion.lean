/-
# Expanding a template

A template is the text of one path segment. A segment with a pair of braces,
or with a `*`, is a pattern; every other one stands for itself. The
placeholders of a pattern are replaced by their grammars, and the text around
them, which is the text of a regular expression already, is kept as it is. A
`*` is short for the placeholder `{wild}`. The whole of a segment `{re:…}` is
an expression of its own.

Key definitions: `Template.isPattern`, `Template.Piece`, `Template.pieces`,
`Template.custom?`, `Template.expand`.
-/
import Signpost.Template.Placeholder

namespace Signpost
namespace Template

/-- True if a segment has to be matched by a regular expression. -/
def isPattern (segment : String) : Bool :=
  (segment.toList.contains '{' && segment.toList.contains '}') || segment.toList.contains '*'

/-- A piece of a template: a character that is kept, or a placeholder with the
kind it names, if it names one, and its own name. -/
inductive Piece where
  | text (c : Char)
  | placeholder (kind : Option String) (name : String)
deriving Repr, DecidableEq, Inhabited

/-- The characters of the kinds and names of placeholders. -/
def isNameChar (c : Char) : Bool := c.isAlphanum || c == '_'

/-- Splits off the longest name at the beginning. -/
def takeName (cs : List Char) : String × List Char :=
  (String.ofList (cs.takeWhile isNameChar), cs.dropWhile isNameChar)

/-- Reads a placeholder after its opening brace: `name}` or `kind:name}`. -/
def takePlaceholder (cs : List Char) : Option (Piece × List Char) :=
  match takeName cs with
  | ("", _) => none
  | (name, '}' :: rest) => some (.placeholder none name, rest)
  | (kind, ':' :: rest) =>
    match takeName rest with
    | ("", _) => none
    | (name, '}' :: rest) => some (.placeholder (some kind) name, rest)
    | _ => none
  | _ => none

/-- Cuts a text into pieces; `fuel` bounds their number. -/
def cut : Nat → List Char → List Piece
  | fuel + 1, c :: cs =>
    match if c = '{' then takePlaceholder cs else none with
    | some (piece, rest) => piece :: cut fuel rest
    | none => .text c :: cut fuel cs
  | _, _ => []

/-- Writes every `*` as the placeholder it is short for. -/
def spellWild (cs : List Char) : List Char :=
  cs.flatMap fun c => if c = '*' then ['{', 'w', 'i', 'l', 'd', '}'] else [c]

/-- The pieces of a template. -/
def pieces (template : List Char) : List Piece :=
  let cs := spellWild template
  cut cs.length cs

/-- The expression that a piece stands for; a kind that does not exist is
returned in its place. -/
def Piece.expand : Piece → Except String (List Char)
  | .text c => .ok [c]
  | .placeholder kind name =>
    match Placeholder.ofKind? kind with
    | some found => .ok (found.grammar name.toList)
    | none => .error (kind.getD "")

/-- The body of a template that is one expression as a whole. -/
def custom? : List Char → Option (List Char)
  | '{' :: 'r' :: 'e' :: ':' :: rest =>
    if rest.getLast? = some '}' then some rest.dropLast else none
  | _ => none

/-- The text of the expression that a template stands for, or the first kind
in it that does not exist. -/
def expand (template : List Char) : Except String (List Char) :=
  match custom? template with
  | some body => .ok body
  | none => ((pieces template).mapM Piece.expand).map List.flatten

end Template
end Signpost
