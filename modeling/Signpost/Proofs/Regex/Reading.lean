/-
# Reading an expression piece by piece

A piece of text may be read as an item, whatever follows it (`ReadsItem`). For
the constructs of the language that are one character, or a class or an escape
sequence, there is a lemma that says which item that is; for groups and
repetitions there is one that says what the reader does next, if it is known
what it does with their parts. All of this is for the flags that are in force at
the beginning.

The fuel of the reader is more than what is left of the text, at any time.

Key definitions: `ReadsItem`, `Item.repeated`, `Names.more`, `Names.push`.
Key theorems: `readsItem_literal`, `readsItem_class`, `readItems_plain`,
`readItems_capture`, `readGroupStart_named`, `repeatLatest_ok`.
-/
import Mathlib.Data.List.TakeDrop
import Signpost.Proofs.Extra
import Signpost.Regex.Reader

namespace Signpost
namespace Regex

/-- The text is read as an item, whatever follows it. -/
def ReadsItem (names names' : Names) (cs : List Char) (item : Item) : Prop :=
  ∀ (done items : List Item) (rest : List Char) (fuel : Nat), (cs ++ rest).length < fuel →
    ∃ fuel', rest.length < fuel' ∧
      readItems fuel {} names done items (cs ++ rest) =
        readItems fuel' {} names' done (item :: items) rest

/-- An item that is repeated, between two counts. -/
def Item.repeated (item : Item) (least : Nat) (most : Option Nat) : Item where
  expr := Expr.repetition item.expr least most true
  depth := item.depth + 1

/-- More groups opened, without names. -/
def Names.more (names : Names) (n : Nat) : Names := ⟨names.count + n, names.given⟩

/-- One more group opened, with a name. -/
def Names.push (names : Names) (name : List Char) : Names :=
  ⟨names.count + 1, String.ofList name :: names.given⟩

variable {names names' : Names}

/-! ### Items -/

/-- A text of which the reader makes an item in one step. -/
theorem readsItem_of_step {c : Char} {cs : List Char} {item : Item}
    (h : ∀ done items rest fuel, (cs ++ rest).length < fuel →
      readItems (fuel + 1) {} names done items (c :: (cs ++ rest)) =
        readItems fuel {} names' done (item :: items) rest) :
    ReadsItem names names' (c :: cs) item := by
  intro done items rest fuel hfuel
  rw [List.cons_append, List.length_cons] at hfuel
  obtain ⟨k, rfl⟩ := Nat.exists_eq_add_of_lt (Nat.zero_lt_of_lt hfuel)
  rw [Nat.zero_add] at hfuel ⊢
  have hk : (cs ++ rest).length < k := Nat.lt_of_succ_lt_succ hfuel
  have hrest : rest.length < k := by
    rw [List.length_append] at hk
    omega
  exact ⟨k, hrest, h done items rest k hk⟩

/-- The characters that do not stand for themselves. -/
def specials : List Char := ['|', '(', ')', '[', '?', '*', '+', '{', '\\', '.', '^', '$']

theorem readsItem_literal {c : Char} (hc : c ∉ specials) :
    ReadsItem names names [c] { expr := ({} : Flags).literal c } := by
  refine readsItem_of_step fun done items rest fuel _ => ?_
  rw [List.nil_append]
  have hskip : skipBlanks {} (c :: rest) = c :: rest := rfl
  conv => lhs; unfold readItems
  rw [hskip]
  split <;> simp_all [specials]

theorem readsItem_caret : ReadsItem names names ['^'] { expr := .assertion .textStart } :=
  readsItem_of_step fun _ _ _ _ _ => rfl

theorem readsItem_dollar : ReadsItem names names ['$'] { expr := .assertion .textEnd } :=
  readsItem_of_step fun _ _ _ _ _ => rfl

/-- The characters that a full stop stands for. -/
def notLineFeed : CharSet := (CharSet.single '\n').compl

theorem readsItem_dot :
    ReadsItem names names ['.'] { expr := ({} : Flags).ofSet notLineFeed } :=
  readsItem_of_step fun _ _ _ _ _ => rfl

theorem readsItem_escape {cs : List Char} {atom : Atom}
    (h : ∀ rest, readEscape {} (cs ++ rest) = .ok (atom, rest)) :
    ReadsItem names names ('\\' :: cs) { expr := ({} : Flags).atom atom } := by
  refine readsItem_of_step fun done items rest fuel _ => ?_
  have hstep : readItems (fuel + 1) {} names done items ('\\' :: (cs ++ rest)) =
      readEscape {} (cs ++ rest) >>= fun r =>
        readItems fuel {} names done ({ expr := ({} : Flags).atom r.1 } :: items) r.2 := rfl
  rw [hstep, h]
  rfl

theorem readsItem_class {cs : List Char} {s : CharSet} {depth : Nat}
    (h : ∀ rest, readClass {} (cs ++ rest) = .ok (s, depth, rest)) :
    ReadsItem names names ('[' :: cs) { expr := ({} : Flags).ofSet s, depth := depth } := by
  refine readsItem_of_step fun done items rest fuel _ => ?_
  have hstep : readItems (fuel + 1) {} names done items ('[' :: (cs ++ rest)) =
      readClass {} (cs ++ rest) >>= fun r =>
        readItems fuel {} names done
          ({ expr := ({} : Flags).ofSet r.1, depth := r.2.1 } :: items) r.2.2 := rfl
  rw [hstep, h]
  rfl

/-! ### Groups -/

section Groups

variable {fuel : Nat} {done items : List Item} {cs inside rest : List Char} {body : Item}

/-- What is read after an opening parenthesis. -/
theorem readItems_open :
    readItems (fuel + 1) {} names done items ('(' :: cs) =
      readGroupStart {} names cs >>= fun start =>
        match start.1 with
        | .setting flags => readItems fuel flags names done (Item.setting :: items) start.2
        | .plain inner => readItems fuel inner names [] [] start.2 >>= fun r =>
          match r.2.2 with
          | ')' :: rest => readItems fuel {} r.2.1 done
              ({ expr := r.1.expr, depth := r.1.depth + 1 } :: items) rest
          | _ => .error .unclosedGroup
        | .capture name =>
          readItems fuel {} ⟨names.count + 1, name.toList ++ names.given⟩ [] [] start.2 >>= fun r =>
            match r.2.2 with
            | ')' :: rest => readItems fuel {} r.2.1 done
                ({ expr := .group (names.count + 1) name r.1.expr, depth := r.1.depth + 1 } :: items)
                rest
            | _ => .error .unclosedGroup := rfl

theorem readItems_plain (hstart : readGroupStart {} names cs = .ok (.plain {}, inside))
    (hbody : readItems fuel {} names [] [] inside = .ok (body, names', ')' :: rest)) :
    readItems (fuel + 1) {} names done items ('(' :: cs) =
      readItems fuel {} names' done ({ expr := body.expr, depth := body.depth + 1 } :: items) rest := by
  rw [readItems_open, hstart]
  show (readItems fuel {} names [] [] inside >>= _) = _
  rw [hbody]
  rfl

theorem readItems_capture {name : Option String}
    (hstart : readGroupStart {} names cs = .ok (.capture name, inside))
    (hbody : readItems fuel {} ⟨names.count + 1, name.toList ++ names.given⟩ [] [] inside =
      .ok (body, names', ')' :: rest)) :
    readItems (fuel + 1) {} names done items ('(' :: cs) =
      readItems fuel {} names' done
        ({ expr := .group (names.count + 1) name body.expr, depth := body.depth + 1 } :: items)
        rest := by
  rw [readItems_open, hstart]
  show (readItems fuel {} ⟨names.count + 1, name.toList ++ names.given⟩ [] [] inside >>= _) = _
  rw [hbody]
  rfl

end Groups

/-- What opens a group with a number and without a name. -/
theorem readGroupStart_unnamed (names : Names) {cs : List Char} (h : cs.head? ≠ some '?') :
    readGroupStart {} names cs = .ok (.capture none, cs) := by
  cases cs with
  | nil => rfl
  | cons c cs =>
    have hc : c ≠ '?' := fun he => h (by rw [he]; rfl)
    unfold readGroupStart
    split <;> simp_all

/-- The name of a group, if it may have it. -/
theorem readGroupName_ok {name rest : List Char} (hname : isGroupName name = true)
    (hclose : '>' ∉ name) (hnew : String.ofList name ∉ names.given) :
    readGroupName names (name ++ '>' :: rest) = .ok (String.ofList name, rest) := by
  unfold readGroupName
  rw [List.span_append_cons hclose]
  simp [hname, hnew]

/-- The name of a group, if no group may have it. -/
theorem readGroupName_error {name rest : List Char} (hname : isGroupName name = false)
    (hclose : '>' ∉ name) :
    readGroupName names (name ++ '>' :: rest) = .error .badGroupName := by
  unfold readGroupName
  rw [List.span_append_cons hclose]
  simp [hname]

/-- The name of a group, if it was given before. -/
theorem readGroupName_repeated {name rest : List Char} (hname : isGroupName name = true)
    (hclose : '>' ∉ name) (hgiven : String.ofList name ∈ names.given) :
    readGroupName names (name ++ '>' :: rest) =
      .error (.repeatedGroupName (String.ofList name)) := by
  unfold readGroupName
  rw [List.span_append_cons hclose]
  simp [hname, hgiven]

/-- A group is not read if no group may have its name. -/
theorem readItems_badGroupName {name rest : List Char} {done items : List Item} {fuel : Nat}
    (hname : isGroupName name = false) (hclose : '>' ∉ name) :
    readItems (fuel + 1) {} names done items
      ('(' :: '?' :: 'P' :: '<' :: (name ++ '>' :: rest)) = .error .badGroupName := by
  have hstart : readGroupStart {} names ('?' :: 'P' :: '<' :: (name ++ '>' :: rest)) =
      .error .badGroupName := by
    show (readGroupName names (name ++ '>' :: rest)).map _ = _
    rw [readGroupName_error hname hclose]
    rfl
  rw [readItems_open, hstart]
  rfl

/-- What opens a group with a name that it may have. -/
theorem readGroupStart_named {name : List Char} (hname : isGroupName name = true)
    (hclose : '>' ∉ name) (hnew : String.ofList name ∉ names.given) (rest : List Char) :
    readGroupStart {} names ('?' :: 'P' :: '<' :: (name ++ '>' :: rest)) =
      .ok (.capture (some (String.ofList name)), rest) := by
  show (readGroupName names (name ++ '>' :: rest)).map _ = _
  rw [readGroupName_ok hname hclose hnew]
  rfl

/-! ### Repetitions -/

theorem takeLazy_of_ne {rest : List Char} (h : rest.head? ≠ some '?') :
    takeLazy rest = (false, rest) := by
  unfold takeLazy
  split
  · exact absurd rfl h
  · rfl

theorem repeatLatest_ok {counts : Counts} {item : Item} (h : item.repeatable = true)
    (items : List Item) :
    repeatLatest {} counts false (item :: items) =
      .ok (item.repeated counts.1 counts.2 :: items) := by
  show (if item.repeatable = true then _ else _) = _
  rw [if_pos h]
  rfl

end Regex
end Signpost
