/-
# Matchers and their store

A matcher is a compiled template. A store compiles a template when it is asked
for it first and hands out the same matcher from then on; a template that does
not compile leaves no trace. The serial number of a matcher says which of the
matchers of a store it is.

Key definitions: `Matcher`, `MatcherStore.obtain`, `MatcherStore.get?`,
`MatcherStore.obtainAll`.
-/
import Signpost.Table
import Signpost.Template.Compile

namespace Signpost

/-- A compiled template with its serial number in the store that made it. -/
structure Matcher where
  serial : Nat
  regex : Regex

/-- Compiled templates by their text. -/
structure MatcherStore where
  table : Table Matcher := {}

/-- What comes of asking a store for something: the store after it, and the
answer. -/
structure Obtained (α : Type) where
  store : MatcherStore
  outcome : Except TemplateError α

namespace MatcherStore

/-- The store without matchers. -/
def empty : MatcherStore := {}

/-- The matcher of a template, if the store has it. -/
def get? (s : MatcherStore) (template : String) : Option Matcher := s.table.get? template

/-- The number of matchers. -/
def size (s : MatcherStore) : Nat := s.table.size

/-- True if there is no matcher. -/
def isEmpty (s : MatcherStore) : Bool := s.table.isEmpty

/-- The matcher of a template: the one in the store, or else a new one, which
the store keeps. -/
def obtain (s : MatcherStore) (template : String) : Obtained Matcher :=
  match s.get? template with
  | some m => ⟨s, .ok m⟩
  | none =>
    match Template.compile template with
    | .ok regex =>
      let m : Matcher := ⟨s.size, regex⟩
      ⟨⟨s.table.insert template m⟩, .ok m⟩
    | .error e => ⟨s, .error e⟩

/-- The matcher of a segment, if the segment is a pattern. -/
def obtainFor (s : MatcherStore) (segment : String) : Obtained (Option Matcher) :=
  if Template.isPattern segment then
    let r := s.obtain segment
    ⟨r.store, r.outcome.map some⟩
  else ⟨s, .ok none⟩

/-- Each segment with its matcher, if it is a pattern; stops at the first
pattern that does not compile. -/
def obtainAll (s : MatcherStore) : List String → Obtained (List (String × Option Matcher))
  | [] => ⟨s, .ok []⟩
  | segment :: rest =>
    let r := s.obtainFor segment
    match r.outcome with
    | .error e => ⟨r.store, .error e⟩
    | .ok m =>
      let rs := r.store.obtainAll rest
      ⟨rs.store, rs.outcome.map ((segment, m) :: ·)⟩

end MatcherStore
end Signpost
