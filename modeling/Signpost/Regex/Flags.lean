/-
# Flags

Flags change how the rest of an expression, or of a group, is read. They are
set and cleared by their letters, as in `(?i-s)`.

Key definitions: `Regex.Flags`, `Regex.Flags.set?`, `Regex.readFlags`.
-/
import Signpost.Regex.Fault

namespace Signpost
namespace Regex

/-- The flags in force. -/
structure Flags where
  ignoreCase : Bool := false
  multiLine : Bool := false
  dotAll : Bool := false
  swapGreed : Bool := false
  unicode : Bool := true
  crlf : Bool := false
  verbose : Bool := false
deriving Repr, DecidableEq, Inhabited

namespace Flags

/-- The flags after the one with the given letter was switched. -/
def set? (flags : Flags) (letter : Char) (on : Bool) : Option Flags :=
  match letter with
  | 'i' => some { flags with ignoreCase := on }
  | 'm' => some { flags with multiLine := on }
  | 's' => some { flags with dotAll := on }
  | 'U' => some { flags with swapGreed := on }
  | 'u' => some { flags with unicode := on }
  | 'R' => some { flags with crlf := on }
  | 'x' => some { flags with verbose := on }
  | _ => none

end Flags

/-- Reads flag letters up to the `:` or `)` that ends them. A hyphen, of which
there is one at most and with a letter after it, clears the flags that follow;
no letter stands twice. The result is the flags, whether anything stood there,
whether they end in `)`, and the rest. -/
def readFlags (flags : Flags) (seen : List Char) :
    List Char → Except Fault (Flags × Bool × Bool × List Char)
  | [] => .error .badFlags
  | c :: cs =>
    if c = ':' || c = ')' then
      if seen.head? = some '-' then .error .badFlags
      else .ok (flags, !seen.isEmpty, c = ')', cs)
    else if seen.contains c then .error .badFlags
    else if c = '-' then readFlags flags (c :: seen) cs
    else
      match flags.set? c (!seen.contains '-') with
      | some flags' => readFlags flags' (c :: seen) cs
      | none => .error .badFlags

end Regex
end Signpost
