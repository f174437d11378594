/-
# Whole segments

The expansion of a template is put between the anchors as text, as the body of
a group. If the parenthesis behind the expansion closes the group, the
expression is the group between the two anchors, and every match is a whole
segment. It does so for every expansion that can be read alone
(`expr_of_compile`). An expansion that closes the group itself, such as
`a)|(b`, takes a part of the expression out of the reach of an anchor, and a
match of that part may leave text over.

Key definitions: `Regex.readGroup`, `Regex.ClosesGroup`.
Key theorems: `Regex.exists_readGroup`, `Regex.not_closesGroup_of_read`,
`Template.expr_of_compile`, `Template.isAnchored_of_compile`,
`Template.whole_of_compile`.
-/
import Signpost.Proofs.Regex.Anchor
import Signpost.Proofs.Regex.Locality.Reader
import Signpost.Proofs.Template.Single

namespace Signpost

namespace Regex

theorem readItems_of_read {cs : List Char} {e : Expr} (h : Regex.read cs = .ok e) :
    ∃ item names, readItems (cs.length + 1) {} {} [] [] cs = .ok (item, names, []) ∧
      item.expr = e := by
  unfold Regex.read at h
  obtain ⟨⟨item, names, rest⟩, hitems, h⟩ := Except.bind_eq_ok_iff.mp h
  cases rest with
  | cons c rest => cases h
  | nil =>
    change (if depthLimit < item.depth then Except.error Fault.nestedTooDeep else .ok item.expr) = _
      at h
    split at h
    · cases h
    · exact ⟨item, names, hitems, Except.ok.inj h⟩

/-! ### The group around an expansion -/

/-- What is read of the group that is put around a text, and what is left. -/
def readGroup (body : List Char) : Except Fault (Item × Names × List Char) :=
  readItems (body.length + 5) {} {} [] [] (body ++ ")$".toList)

/-- The text closes the group that is put around it: the reader of the group
comes to a parenthesis that is not the one behind the text. -/
def ClosesGroup (body : List Char) : Prop :=
  ∃ item names left, readGroup body = .ok (item, names, ')' :: left) ∧ left ≠ ['$']

theorem ends_close : Ends ")$".toList := ⟨['$'], rfl, by decide, by decide⟩

/-- Where a text is read between the anchors, the group around it is closed; if
it is closed by the parenthesis behind the text, the group is all there is. -/
theorem exists_readGroup {body : List Char} {e : Expr}
    (h : Regex.read ("^(?:".toList ++ body ++ ")$".toList) = .ok e) :
    ∃ item names left, readGroup body = .ok (item, names, ')' :: left) ∧
      (left = ['$'] → e = .sequence [.assertion .textStart, item.expr, .assertion .textEnd]) := by
  obtain ⟨item', names', hitems, rfl⟩ := readItems_of_read h
  have htext : "^(?:".toList ++ body ++ ")$".toList =
      '^' :: '(' :: '?' :: ':' :: (body ++ ")$".toList) := by simp
  have hlen : ('^' :: '(' :: '?' :: ':' :: (body ++ ")$".toList)).length + 1 =
      body.length + 5 + 2 := by simp
  rw [htext, hlen] at hitems
  change (readGroup body).bind _ = _ at hitems
  obtain ⟨⟨item, names, left⟩, hgroup, hitems⟩ := Except.bind_eq_ok_iff.mp hitems
  cases left with
  | nil => cases hitems
  | cons c left =>
    by_cases hc : c = ')'
    · subst hc
      refine ⟨item, names, left, hgroup, fun hleft => ?_⟩
      subst hleft
      cases hitems
      rfl
    · dsimp only at hitems
      split at hitems
      · rename_i heq
        exact absurd (List.cons.inj heq).1 hc
      · cases hitems

/-- What is read alone, to its end, is also read in the group, up to the
parenthesis behind it, if that is not taken for a part of a comment. -/
theorem readGroup_of_read {body : List Char} {e : Expr} (h : Regex.read body = .ok e) :
    ∃ item names, item.expr = e ∧ (readGroup body = .ok (item, names, ")$".toList) ∨
      readGroup body = .ok (item, names, [])) := by
  obtain ⟨item, names, hitems, hexpr⟩ := readItems_of_read h
  have hfuel : body.length + 1 ≤ body.length + 5 := by omega
  obtain ⟨rest, hgroup, hrest⟩ :=
    readsOn ends_close hfuel (before_append ")$".toList body) hitems
  refine ⟨item, names, hexpr, ?_⟩
  rcases hrest with rfl | ⟨-, rfl⟩
  · exact Or.inl hgroup
  · exact Or.inr hgroup

theorem not_closesGroup_of_read {body : List Char} {e : Expr} (h : Regex.read body = .ok e) :
    ¬ ClosesGroup body := by
  rintro ⟨item, names, left, hgroup, hleft⟩
  obtain ⟨item', names', -, hgroup' | hgroup'⟩ := readGroup_of_read h
  · rw [hgroup'] at hgroup
    cases hgroup
    exact hleft rfl
  · rw [hgroup'] at hgroup
    cases hgroup

end Regex

namespace Template

open Regex

theorem source_of_expand {template : String} {body : List Char}
    (hexpand : expand template.toList = .ok body) :
    source template = .ok ("^(?:".toList ++ body ++ ")$".toList) := by
  unfold source
  rw [hexpand]

/-- **What a template compiles to.** If its expansion is an expression alone,
it is that expression between the two anchors. -/
theorem expr_of_compile {template : String} {body : List Char} {e : Expr} {r : Regex}
    (hexpand : expand template.toList = .ok body) (hread : Regex.read body = .ok e)
    (hcompile : compile template = .ok r) :
    r.expr = .sequence [.assertion .textStart, e, .assertion .textEnd] := by
  obtain ⟨item, names, left, hgroup, hexpr⟩ :=
    exists_readGroup (read_of_compile (source_of_expand hexpand) hcompile)
  obtain ⟨item', names', rfl, hgroup' | hgroup'⟩ := readGroup_of_read hread
  · rw [hgroup'] at hgroup
    cases hgroup
    exact hexpr rfl
  · rw [hgroup'] at hgroup
    cases hgroup

theorem isAnchored_of_compile {template : String} {body : List Char} {r : Regex}
    (hexpand : expand template.toList = .ok body) (hcompile : compile template = .ok r)
    (hopen : ¬ ClosesGroup body) : r.expr.isAnchored = true := by
  obtain ⟨item, names, left, hgroup, hexpr⟩ :=
    exists_readGroup (read_of_compile (source_of_expand hexpand) hcompile)
  by_cases hleft : left = ['$']
  · rw [hexpr hleft]
    exact Expr.isAnchored_sequence item.expr
  · exact absurd ⟨item, names, left, hgroup, hleft⟩ hopen

/-- **When a match is the whole segment.** Every match of a template is the
whole segment, unless its expansion closes the group that is put around it; and
even then, if the expression that comes of it is anchored. -/
theorem whole_of_compile {template : String} {body : List Char} {r : Regex}
    (hexpand : expand template.toList = .ok body) (hcompile : compile template = .ok r)
    (hcondition : ClosesGroup body → r.expr.isAnchored = true) {segment : String}
    {found : Match} (h : r.captures? segment = some found) : found.whole = segment := by
  have hanchored : r.expr.isAnchored = true := by
    by_cases hcloses : ClosesGroup body
    · exact hcondition hcloses
    · exact isAnchored_of_compile hexpand hcompile hcloses
  exact whole_of_isAnchored hanchored h

theorem whole_of_compile_plus :
    ∃ r found, compile "\x7bre:a+\x7d" = .ok r ∧ r.captures? "aa" = some found ∧
      found.whole = "aa" := by
  have hsome : ((compile "\x7bre:a+\x7d").toOption.bind fun r => r.captures? "aa").isSome = true := by
    decide +kernel
  cases hcompile : compile "\x7bre:a+\x7d" with
  | error fault =>
    rw [hcompile] at hsome
    cases hsome
  | ok r =>
    rw [hcompile] at hsome
    obtain ⟨found, hfound⟩ := Option.isSome_iff_exists.mp hsome
    have hexpand : expand "\x7bre:a+\x7d".toList = .ok ['a', '+'] := by decide +kernel
    have hread : Regex.read ['a', '+'] = .ok (.rep (.char 'a') 1 none true) := by decide +kernel
    exact ⟨r, found, rfl, hfound,
      whole_of_compile hexpand hcompile (fun h => absurd h (not_closesGroup_of_read hread)) hfound⟩

/-- Here the anchors are in different branches. -/
example : ((compile "\x7bre:a)|(b\x7d").toOption.bind fun r =>
    (r.captures? "axx").map (·.whole)) = some "a" := by decide +kernel

end Template
end Signpost
