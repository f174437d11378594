/-
# Scripts by name

The scripts with their characters. Names are in normal form: without case,
blanks, hyphens, low lines and a leading `is`.

Key definitions: `Unicode.normalName`, `Unicode.named`, `Unicode.scripts`,
`Unicode.script`.
-/
import Signpost.Unicode.Script.AtoG
import Signpost.Unicode.Script.HtoM
import Signpost.Unicode.Script.NtoZ

namespace Signpost
namespace Unicode

/-- The form in which names are compared. -/
def normalName (name : List Char) : String :=
  let whole := name.filter fun c => c.toNat < 128 && !(c = ' ' || c = '_' || c = '-')
  let lower := whole.map Char.toLower
  match name.take 2 |>.map Char.toLower with
  | ['i', 's'] => if lower = ['i', 's', 'c'] then "isc" else String.ofList (lower.drop 2)
  | _ => String.ofList lower

/-- The set listed under a name. -/
def named (name : String) (sets : List (List String × CharSet)) : Option CharSet :=
  (sets.find? fun entry => entry.1.contains name).map (·.2)

/-- The scripts by their names in normal form. -/
def scripts : List (List String × CharSet) := scriptsAtoG ++ scriptsHtoM ++ scriptsNtoZ

/-- The characters of the named script. -/
def script (name : String) : CharSet := (named name scripts).getD CharSet.empty

end Unicode
end Signpost
