/-
# Compiling a template

A template is compiled to an expression that is anchored at both ends of a
segment. The expansion is put between the anchors as text.

Key definitions: `TemplateError`, `TemplateError.message`, `Template.source`,
`Template.compile`.
-/
import Signpost.Regex.Basic
import Signpost.Template.Expansion

namespace Signpost

/-- Why a template is refused: it is no regular expression once it is
expanded, or it names a kind of placeholder that does not exist. -/
inductive TemplateError where
  | badExpression (template : String) (reason : String)
  | unknownKind (template : String) (kind : String)
deriving Repr, DecidableEq, Inhabited

namespace TemplateError

/-- The template that was refused. -/
def template : TemplateError → String
  | badExpression template _ => template
  | unknownKind template _ => template

/-- The wording of the refusal. -/
def message : TemplateError → String
  | badExpression template reason => "invalid pattern '" ++ template ++ "': " ++ reason
  | unknownKind template kind =>
    "unknown placeholder type '" ++ kind ++ "' in pattern '" ++ template ++ "'"

/-- The same refusal in other words for what is wrong with an expression. -/
def withReason (reason : String) : TemplateError → TemplateError
  | badExpression template _ => badExpression template reason
  | unknownKind template kind => unknownKind template kind

end TemplateError

namespace Template

/-- The text of the expression that matches the segments of a template. The
group around the expansion has no number, so the groups keep theirs. -/
def source (template : String) : Except TemplateError (List Char) :=
  match expand template.toList with
  | .ok body => .ok ("^(?:".toList ++ body ++ ")$".toList)
  | .error kind => .error (.unknownKind template kind)

/-- Compiles a template. -/
def compile (template : String) : Except TemplateError Regex := do
  let text ← source template
  match Regex.compile text with
  | .ok regex => .ok regex
  | .error fault => .error (.badExpression template fault.message)

end Template
end Signpost
