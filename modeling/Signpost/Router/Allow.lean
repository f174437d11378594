/-
# The Allow header

The value of a header is a text without control characters; only the tab is
allowed among them.

Key definitions: `HeaderValue`, `HeaderValue.ofText?`,
`HeaderValue.visibleText?`, `Router.allowHeader`.
-/
import Signpost.Router.Lookup

namespace Signpost

/-- The bytes that the value of a header may have. -/
def isHeaderByte (b : UInt8) : Bool := (32 ≤ b || b == 9) && b != 127

/-- The bytes of visible ASCII characters, the space and the tab. -/
def isVisibleByte (b : UInt8) : Bool := (32 ≤ b && b < 127) || b == 9

/-- The value of a header, with its bytes in UTF-8. -/
structure HeaderValue where
  text : String
deriving Repr, DecidableEq, Inhabited

/-- A text is no value of a header. -/
inductive HeaderError where
  | badByte
deriving Repr, DecidableEq, Inhabited

/-- The wording of the error. -/
def HeaderError.message : HeaderError → String
  | badByte => "failed to parse header value"

namespace HeaderValue

/-- The bytes of a value. -/
def bytes (v : HeaderValue) : List UInt8 := v.text.toUTF8.data.toList

/-- The value that consists of a text. -/
def ofText? (text : String) : Except HeaderError HeaderValue :=
  if text.toUTF8.data.toList.all isHeaderByte then .ok ⟨text⟩ else .error .badByte

/-- The text of a value, if it is visible ASCII alone. -/
def visibleText? (v : HeaderValue) : Option String :=
  if v.bytes.all isVisibleByte then some v.text else none

end HeaderValue

/-- The methods that lead to a handler for a path, as the value of a header. -/
def Router.allowHeader {H : Type} (r : Router H) (path : String) :
    Except HeaderError HeaderValue :=
  HeaderValue.ofText? (r.pathMethods path)

end Signpost
