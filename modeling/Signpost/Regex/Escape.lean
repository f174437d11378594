/-
# Characters, sets and assertions of an expression

The smallest parts of an expression, alone or inside a character class: a
character written as it is or by its code point, the sets behind `\d`, `\s`,
`\w` and `\p`, and the assertions behind `\b` and its like.

Key definitions: `Regex.Atom`, `Regex.Flags.closeSet`, `Regex.Flags.ofSet`,
`Regex.Flags.literal`, `Regex.Flags.dot`, `Regex.readEscape`.
-/
import Signpost.CharSet.Case
import Signpost.Regex.Scan
import Signpost.Regex.Expr

namespace Signpost
namespace Regex

/-- What one escape sequence stands for. -/
inductive Atom where
  | character (c : Char)
  | set (members : CharSet)
  | assertion (a : Assertion)
deriving Repr, DecidableEq, Inhabited

namespace Flags

/-- A set under the flags: closed under change of case where case is ignored,
and after that negated if it is to be. Without Unicode a negated set is
refused, for it would hold single bytes of longer characters. -/
def closeSet (flags : Flags) (negated : Bool) (s : CharSet) : Except Fault CharSet :=
  let closed :=
    if flags.ignoreCase then (if flags.unicode then s.foldCase else s.foldAscii) else s
  if negated then (if flags.unicode then .ok closed.compl else .error .needsUnicode)
  else .ok closed

/-- The alphabet over which sets are written. -/
def alphabet (flags : Flags) : Alphabet := if flags.unicode then .unicode else .ascii

/-- The expression for a set. -/
def ofSet (flags : Flags) (s : CharSet) : Expr := Expr.ofSet flags.alphabet s

/-- The expression for a character that stands for itself. -/
def literal (flags : Flags) (c : Char) : Expr :=
  let s := CharSet.single c
  flags.ofSet
    (if flags.ignoreCase then (if flags.unicode then s.foldCase else s.foldAscii) else s)

/-- The set of the full stop: all characters, or all that end no line. -/
def dot (flags : Flags) : Except Fault CharSet :=
  if !flags.unicode then .error .needsUnicode
  else if flags.dotAll then .ok Unicode.any
  else if flags.crlf then .ok (CharSet.ofRanges [(0x0A, 0x0A), (0x0D, 0x0D)]).compl
  else .ok (CharSet.single '\n').compl

end Flags

/-- The value of a hexadecimal digit. -/
def hexDigit? (c : Char) : Option Nat :=
  if '0' ≤ c ∧ c ≤ '9' then some (c.toNat - '0'.toNat)
  else if 'a' ≤ c ∧ c ≤ 'f' then some (c.toNat - 'a'.toNat + 10)
  else if 'A' ≤ c ∧ c ≤ 'F' then some (c.toNat - 'A'.toNat + 10)
  else none

/-- Reads exactly `count` hexadecimal digits after the value `n`. -/
def takeHex (flags : Flags) : Nat → Nat → List Char → Option (Nat × List Char)
  | 0, n, cs => some (n, cs)
  | count + 1, n, cs =>
    match skipBlanks flags cs with
    | [] => none
    | c :: rest => (hexDigit? c).bind fun d => takeHex flags count (16 * n + d) rest

/-- The value of one hexadecimal digit or more. -/
def hexValue? (ds : List Char) : Option Nat :=
  if ds.isEmpty then none else ds.foldlM (fun n d => (hexDigit? d).map (16 * n + ·)) 0

/-- The character with the code point `n`. -/
def scalar? (n : Nat) : Except Fault Char :=
  if h : n.isValidChar then .ok (Char.ofNatAux n h) else .error .badCodePoint

/-- Reads the code point after `\x`, `\u` or `\U`: in braces, or as a fixed
number of digits. Two digits alone are a byte when Unicode is off, and a byte
beyond ASCII is no character. -/
def readCodePoint (flags : Flags) (digits : Nat) (cs : List Char) :
    Except Fault (Atom × List Char) :=
  match skipBlanks flags cs with
  | '{' :: rest =>
    match takeBraced flags.verbose false rest with
    | none => .error .badEscape
    | some (ds, rest) =>
      match hexValue? ds with
      | none => .error .badEscape
      | some n => (scalar? n).map fun c => (.character c, rest)
  | cs =>
    match takeHex flags digits 0 cs with
    | none => .error .badEscape
    | some (n, rest) =>
      if !flags.unicode && digits = 2 && 127 < n then .error .needsUnicode
      else (scalar? n).map fun c => (.character c, rest)

/-- Splits a text at its first `!=`. -/
def splitUnequal : List Char → Option (List Char × List Char)
  | [] => none
  | c :: cs =>
    match c, cs with
    | '!', '=' :: rest => some ([], rest)
    | _, _ => (splitUnequal cs).map fun r => (c :: r.1, r.2)

/-- Splits a text at the first character `mark`. -/
def splitAtMark (mark : Char) (cs : List Char) : Option (List Char × List Char) :=
  match cs.span (· != mark) with
  | (_, []) => none
  | (name, _ :: value) => some (name, value)

/-- The set behind the text between the braces of `\p`, and whether the text
itself negates it. -/
def propertySet (text : List Char) : Option CharSet × Bool :=
  match splitUnequal text with
  | some (name, value) => (Unicode.propertyValue? name value, true)
  | none =>
    match (splitAtMark ':' text).or (splitAtMark '=' text) with
    | some (name, value) => (Unicode.propertyValue? name value, false)
    | none => (Unicode.property? text, false)

/-- Reads the property after `\p` or `\P`. -/
def readProperty (flags : Flags) (negated : Bool) (cs : List Char) :
    Except Fault (Atom × List Char) := do
  let (text, rest) ←
    match skipBlanks flags cs with
    | [] => .error .badEscape
    | '{' :: rest => (takeBraced flags.verbose false rest).elim (.error .badEscape) .ok
    | c :: rest => if c = '\\' then .error .badEscape else .ok ([c], rest)
  if !flags.unicode then .error .needsUnicode
  else
    match propertySet text with
    | (none, _) => .error .unknownProperty
    | (some s, opposite) =>
      let s ← flags.closeSet (negated != opposite) s
      .ok (.set s, rest)

/-- The set of a class with a one-letter name, or of its opposite. -/
def classSet (flags : Flags) (negated : Bool) (wide narrow : CharSet) : Except Fault Atom :=
  if flags.unicode then .ok (.set (if negated then wide.compl else wide))
  else if negated then .error .needsUnicode
  else .ok (.set narrow)

/-- Reads what may follow `\b` in braces. Braces that do not begin like a name
are left for a repetition. -/
def readBoundary (flags : Flags) (cs : List Char) : Except Fault (Atom × List Char) :=
  let isNameChar := fun c : Char => c.isAlpha || c = '-'
  match cs with
  | '{' :: rest =>
    match skipBlanks flags rest with
    | [] => .error .badEscape
    | c :: _ =>
      if isNameChar c then
        match takeBraced flags.verbose false rest with
        | none => .error .badEscape
        | some (name, rest) =>
          match String.ofList name with
          | "start" => .ok (.assertion (.wordStart flags.unicode), rest)
          | "end" => .ok (.assertion (.wordEnd flags.unicode), rest)
          | "start-half" => .ok (.assertion (.wordStartHalf flags.unicode), rest)
          | "end-half" => .ok (.assertion (.wordEndHalf flags.unicode), rest)
          | _ => .error .badEscape
      else .ok (.assertion (.boundary flags.unicode), cs)
  | _ => .ok (.assertion (.boundary flags.unicode), cs)

/-- True for the ASCII characters that a backslash makes stand for themselves:
all but letters, digits and the angle brackets. -/
def isEscapable (c : Char) : Bool :=
  decide (c.toNat < 128) && !c.isAlphanum && c != '<' && c != '>'

/-- Reads what follows a backslash. -/
def readEscape (flags : Flags) : List Char → Except Fault (Atom × List Char)
  | [] => .error .badEscape
  | c :: cs =>
    if isEscapable c then .ok (.character c, cs)
    else
      match c with
      | 'x' => readCodePoint flags 2 cs
      | 'u' => readCodePoint flags 4 cs
      | 'U' => readCodePoint flags 8 cs
      | 'p' => readProperty flags false cs
      | 'P' => readProperty flags true cs
      | 'd' => (classSet flags false Unicode.decimalNumber CharSet.digit).map (·, cs)
      | 'D' => (classSet flags true Unicode.decimalNumber CharSet.digit).map (·, cs)
      | 's' => (classSet flags false Unicode.whiteSpace CharSet.asciiSpace).map (·, cs)
      | 'S' => (classSet flags true Unicode.whiteSpace CharSet.asciiSpace).map (·, cs)
      | 'w' => (classSet flags false Unicode.word CharSet.asciiWord).map (·, cs)
      | 'W' => (classSet flags true Unicode.word CharSet.asciiWord).map (·, cs)
      | 'a' => .ok (.character '\x07', cs)
      | 'f' => .ok (.character '\x0C', cs)
      | 't' => .ok (.character '\t', cs)
      | 'n' => .ok (.character '\n', cs)
      | 'r' => .ok (.character '\r', cs)
      | 'v' => .ok (.character '\x0B', cs)
      | 'A' => .ok (.assertion .textStart, cs)
      | 'z' => .ok (.assertion .textEnd, cs)
      | 'b' => readBoundary flags cs
      | 'B' => .ok (.assertion (.notBoundary flags.unicode), cs)
      | '<' => .ok (.assertion (.wordStart flags.unicode), cs)
      | '>' => .ok (.assertion (.wordEnd flags.unicode), cs)
      | _ => .error .badEscape

end Regex
end Signpost
