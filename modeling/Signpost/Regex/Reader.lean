/-
# Reading an expression

An expression is read left to right. What has been read of the current branch
is a list of items, the latest first; a repetition takes the latest of them.
A flag setting counts until the group that it stands in is closed.

The text is not looked at as a whole: a closing parenthesis ends whatever
group is open, so pieces of text that are put side by side are read as they
come.

Key definitions: `Regex.Item`, `Regex.Names`, `Regex.Opening`,
`Regex.readGroupStart`, `Regex.readCount`, `Regex.readItems`, `Regex.read`.
-/
import Signpost.Regex.Bracket

namespace Signpost
namespace Regex

/-- What has been read of a branch: an expression with the levels of nesting
in its text. A flag setting is an item that matches the empty text and cannot
be repeated. -/
structure Item where
  expr : Expr
  depth : Nat := 0
  repeatable : Bool := true
deriving Repr, DecidableEq, Inhabited

/-- The item that a flag setting leaves. -/
def Item.setting : Item := { expr := .empty, repeatable := false }

/-- One branch of its items, the latest first. -/
def Item.ofBranch (items : List Item) : Item :=
  match items with
  | [] => { expr := .empty }
  | [item] => item
  | items =>
    { expr := Expr.sequence (items.reverse.map (·.expr))
      depth := (items.map (·.depth)).foldl max 0 + 1 }

/-- A choice of branches, the latest first. -/
def Item.ofBranches (items : List Item) : Item :=
  match items with
  | [item] => item
  | items =>
    { expr := Expr.choice (items.reverse.map (·.expr))
      depth := (items.map (·.depth)).foldl max 0 + 1 }

/-- The groups opened so far: their number, and the names given. -/
structure Names where
  count : Nat := 0
  given : List String := []
deriving Repr, DecidableEq, Inhabited

/-- What an opening parenthesis begins. -/
inductive Opening where
  | setting (flags : Flags)
  | plain (flags : Flags)
  | capture (name : Option String)
deriving Repr, DecidableEq, Inhabited

/-- The characters of group names: first a letter or a low line, then also
digits, full stops and square brackets. -/
def isNameChar (first : Bool) (c : Char) : Bool :=
  c == '_' ||
    (if first then Unicode.isAlphabetic c
     else c == '.' || c == '[' || c == ']' || Unicode.isAlphanumeric c)

/-- True for the names that a group may have. -/
def isGroupName : List Char → Bool
  | [] => false
  | c :: cs => isNameChar true c && cs.all (isNameChar false)

/-- Reads the name of a group, up to its closing bracket. -/
def readGroupName (names : Names) (cs : List Char) : Except Fault (String × List Char) :=
  match cs.span (· != '>') with
  | (_, []) => .error .badGroupName
  | (name, _ :: rest) =>
    if !isGroupName name then .error .badGroupName
    else if names.given.contains (String.ofList name) then
      .error (.repeatedGroupName (String.ofList name))
    else .ok (String.ofList name, rest)

/-- Reads what follows an opening parenthesis. -/
def readGroupStart (flags : Flags) (names : Names) (cs : List Char) :
    Except Fault (Opening × List Char) :=
  match cs with
  | '?' :: '=' :: _ => .error .lookAround
  | '?' :: '!' :: _ => .error .lookAround
  | '?' :: '<' :: '=' :: _ => .error .lookAround
  | '?' :: '<' :: '!' :: _ => .error .lookAround
  | '?' :: 'P' :: '<' :: rest =>
    (readGroupName names rest).map fun r => (.capture (some r.1), r.2)
  | '?' :: '<' :: rest => (readGroupName names rest).map fun r => (.capture (some r.1), r.2)
  | '?' :: rest => do
    let (flags, any, closed, rest) ← readFlags flags [] rest
    if !closed then .ok (.plain flags, rest)
    else if any then .ok (.setting flags, rest)
    else .error .nothingToRepeat
  | rest => .ok (.capture none, rest)

/-- The counts of a repetition: the least and, if there is one, the greatest. -/
abbrev Counts := Nat × Option Nat

/-- Reads the counts of a repetition after their opening brace. -/
def readCount (flags : Flags) (cs : List Char) : Except Fault (Counts × List Char) :=
  match takeNumber flags (skipBlanks flags cs) with
  | (some least, '}' :: rest) => .ok ((least, some least), rest)
  | (some least, ',' :: rest) =>
    match skipBlanks flags rest with
    | '}' :: rest => .ok ((least, none), rest)
    | rest =>
      match takeNumber flags rest with
      | (some most, '}' :: rest) =>
        if least ≤ most then .ok ((least, some most), rest) else .error .badCount
      | _ => .error .badCount
  | _ => .error .badCount

/-- True if a question mark follows, and what comes after it. -/
def takeLazy : List Char → Bool × List Char
  | '?' :: rest => (true, rest)
  | rest => (false, rest)

/-- Repeats the latest item. -/
def repeatLatest (flags : Flags) (counts : Counts) (isLazy : Bool) :
    List Item → Except Fault (List Item)
  | [] => .error .nothingToRepeat
  | item :: items =>
    if item.repeatable then
      .ok ({ expr := Expr.repetition item.expr counts.1 counts.2 (isLazy == flags.swapGreed)
             depth := item.depth + 1 } :: items)
    else .error .nothingToRepeat

/-- The expression of an assertion that is written `^`. -/
def Flags.caret (flags : Flags) : Expr :=
  .assertion (if flags.multiLine then .lineStart flags.crlf else .textStart)

/-- The expression of an assertion that is written `$`. -/
def Flags.dollar (flags : Flags) : Expr :=
  .assertion (if flags.multiLine then .lineEnd flags.crlf else .textEnd)

/-- The expression of an escape sequence that stands alone. -/
def Flags.atom (flags : Flags) : Atom → Expr
  | .character c => flags.literal c
  | .set s => flags.ofSet s
  | .assertion a => .assertion a

/-- Reads the branches of a group up to the parenthesis that closes it, which
it leaves, or to the end; `fuel` bounds the items. `done` holds the finished
branches and `items` the current one, the latest first. -/
def readItems : Nat → Flags → Names → List Item → List Item → List Char →
    Except Fault (Item × Names × List Char)
  | 0, _, _, _, _, _ => .error .unclosedGroup
  | fuel + 1, flags, names, done, items, cs =>
    match skipBlanks flags cs with
    | [] => .ok (Item.ofBranches (Item.ofBranch items :: done), names, [])
    | ')' :: rest => .ok (Item.ofBranches (Item.ofBranch items :: done), names, ')' :: rest)
    | '|' :: rest => readItems fuel flags names (Item.ofBranch items :: done) [] rest
    | '(' :: rest => do
      let (opening, rest) ← readGroupStart flags names (skipBlanks flags rest)
      match opening with
      | .setting flags => readItems fuel flags names done (Item.setting :: items) rest
      | .plain inner => do
        let (body, names, rest) ← readItems fuel inner names [] [] rest
        let group := { expr := body.expr, depth := body.depth + 1 }
        match rest with
        | ')' :: rest => readItems fuel flags names done (group :: items) rest
        | _ => .error .unclosedGroup
      | .capture name => do
        let number := names.count + 1
        let (body, names, rest) ←
          readItems fuel flags ⟨number, name.toList ++ names.given⟩ [] [] rest
        let group := { expr := .group number name body.expr, depth := body.depth + 1 }
        match rest with
        | ')' :: rest => readItems fuel flags names done (group :: items) rest
        | _ => .error .unclosedGroup
    | '[' :: rest => do
      let (s, depth, rest) ← readClass flags rest
      readItems fuel flags names done ({ expr := flags.ofSet s, depth := depth } :: items) rest
    | '?' :: rest => do
      let (isLazy, rest) := takeLazy rest
      let items ← repeatLatest flags (0, some 1) isLazy items
      readItems fuel flags names done items rest
    | '*' :: rest => do
      let (isLazy, rest) := takeLazy rest
      let items ← repeatLatest flags (0, none) isLazy items
      readItems fuel flags names done items rest
    | '+' :: rest => do
      let (isLazy, rest) := takeLazy rest
      let items ← repeatLatest flags (1, none) isLazy items
      readItems fuel flags names done items rest
    | '{' :: rest => do
      let (counts, rest) ← readCount flags rest
      let (isLazy, rest) := takeLazy (skipBlanks flags rest)
      let items ← repeatLatest flags counts isLazy items
      readItems fuel flags names done items rest
    | '\\' :: rest => do
      let (atom, rest) ← readEscape flags rest
      readItems fuel flags names done ({ expr := flags.atom atom } :: items) rest
    | '.' :: rest => do
      let s ← flags.dot
      readItems fuel flags names done ({ expr := flags.ofSet s } :: items) rest
    | '^' :: rest => readItems fuel flags names done ({ expr := flags.caret } :: items) rest
    | '$' :: rest => readItems fuel flags names done ({ expr := flags.dollar } :: items) rest
    | c :: rest => readItems fuel flags names done ({ expr := flags.literal c } :: items) rest

/-- The levels to which the text of an expression may nest. -/
def depthLimit : Nat := 250

/-- Reads a whole expression. -/
def read (cs : List Char) : Except Fault Expr := do
  let (item, _, rest) ← readItems (cs.length + 1) {} {} [] [] cs
  if !rest.isEmpty then .error .unopenedGroup
  else if depthLimit < item.depth then .error .nestedTooDeep
  else .ok item.expr

end Regex
end Signpost
