/-
# Expressions are read alike with more behind them

The reader of an expression ends a branch where its text ends, or at a closing
parenthesis that it leaves. So an expression that is read alone, to its end, is
read in the same way as the body of a group, and it is the parenthesis behind
it that closes the group, unless the text ends within a comment, and then no
parenthesis does (`readsOn`).

Key definitions: `ReadsOn`.
Key theorems: `readGroupStart_append`, `ReadsOn.group`, `readsOn`.
-/
import Signpost.Proofs.Regex.Locality.Bracket

namespace Signpost
namespace Regex

variable {tail cs cs' rest : List Char} {flags : Flags} {names : Names}

/-! ### The beginning of a group -/

/-- Flag letters are read alike. -/
theorem readFlags_append (tail : List Char) : ∀ {seen cs : List Char} {flags flags' : Flags}
    {any closed : Bool} {rest : List Char},
    readFlags flags seen cs = .ok (flags', any, closed, rest) →
    readFlags flags seen (cs ++ tail) = .ok (flags', any, closed, rest ++ tail)
  | _, [], _, _, _, _, _, h => by cases h
  | seen, c :: cs, flags, flags', any, closed, rest, h => by
    rw [List.cons_append]
    unfold readFlags at h ⊢
    by_cases hstop : (decide (c = ':') || decide (c = ')')) = true
    · rw [if_pos hstop] at h ⊢
      by_cases hhyphen : seen.head? = some '-'
      · rw [if_pos hhyphen] at h
        cases h
      · rw [if_neg hhyphen] at h ⊢
        cases h
        rfl
    rw [if_neg hstop] at h ⊢
    by_cases hseen : seen.contains c = true
    · rw [if_pos hseen] at h
      cases h
    rw [if_neg hseen] at h ⊢
    by_cases hhyphen : c = '-'
    · rw [if_pos hhyphen] at h ⊢
      exact readFlags_append tail h
    rw [if_neg hhyphen] at h ⊢
    cases hset : flags.set? c (!seen.contains '-') with
    | none =>
      rw [hset] at h
      cases h
    | some flags' =>
      rw [hset] at h
      exact readFlags_append tail h

/-- The name of a group is read alike. -/
theorem readGroupName_append (tail : List Char) {name : String}
    (h : readGroupName names cs = .ok (name, rest)) :
    readGroupName names (cs ++ tail) = .ok (name, rest ++ tail) := by
  unfold readGroupName at h ⊢
  rw [List.span_eq_takeWhile_dropWhile] at h ⊢
  rw [List.takeWhile_append, List.dropWhile_append]
  cases hdrop : cs.dropWhile (· != '>') with
  | nil =>
    rw [hdrop] at h
    cases h
  | cons c r =>
    have hlen := congrArg List.length (List.takeWhile_append_dropWhile (p := (· != '>')) (l := cs))
    rw [List.length_append, hdrop, List.length_cons] at hlen
    rw [hdrop] at h
    rw [if_neg (by omega), List.isEmpty_cons, if_neg (by decide), List.cons_append]
    dsimp only at h ⊢
    by_cases hname : (!isGroupName (cs.takeWhile (· != '>'))) = true
    · rw [if_pos hname] at h
      cases h
    rw [if_neg hname] at h ⊢
    by_cases hgiven : names.given.contains (String.ofList (cs.takeWhile (· != '>'))) = true
    · rw [if_pos hgiven] at h
      cases h
    · rw [if_neg hgiven] at h ⊢
      cases h
      rfl

theorem readGroupStart_other {c : Char} (hc : c ≠ '?') (cs : List Char) :
    readGroupStart flags names (c :: cs) = .ok (.capture none, c :: cs) := by
  unfold readGroupStart
  split
  all_goals first
    | rfl
    | (rename_i heq; exact absurd (List.cons.inj heq).1 hc)

theorem readGroupStart_angle {d : Char} (hd : d ≠ '=' ∧ d ≠ '!') (r : List Char) :
    readGroupStart flags names ('?' :: '<' :: d :: r) =
      (readGroupName names (d :: r)).map fun r => (.capture (some r.1), r.2) := by
  unfold readGroupStart
  split
  · rename_i heq
    cases heq
  · rename_i heq
    cases heq
  · rename_i heq
    cases heq
    exact absurd rfl hd.1
  · rename_i heq
    cases heq
    exact absurd rfl hd.2
  · rename_i heq
    cases heq
  · rename_i heq
    cases heq
    rfl
  · rename_i hangle heq
    cases heq
    exact absurd rfl (hangle _)
  · rename_i hquestion
    exact absurd rfl (hquestion _)

theorem readGroupStart_flags {d : Char} (hd : d ≠ '=' ∧ d ≠ '!' ∧ d ≠ '<') {r : List Char}
    (hnamed : d = 'P' → r.head? ≠ some '<') :
    readGroupStart flags names ('?' :: d :: r) =
      (readFlags flags [] (d :: r)).bind fun x =>
        if !x.2.2.1 then .ok (.plain x.1, x.2.2.2)
        else if x.2.1 then .ok (.setting x.1, x.2.2.2)
        else .error .nothingToRepeat := by
  unfold readGroupStart
  split <;> simp_all
  rfl

theorem map_readGroupName_append (tail : List Char) {opening : Opening}
    (h : (readGroupName names cs).map (fun r => (Opening.capture (some r.1), r.2)) =
      .ok (opening, rest)) :
    (readGroupName names (cs ++ tail)).map (fun r => (Opening.capture (some r.1), r.2)) =
      .ok (opening, rest ++ tail) := by
  obtain ⟨⟨name, left⟩, hname, heq⟩ := Except.map_eq_ok_iff.mp h
  rw [readGroupName_append tail hname]
  cases heq
  rfl

/-- What begins a group is read alike, if there is anything. -/
theorem readGroupStart_append (hend : Ends tail) {c : Char} {opening : Opening}
    (h : readGroupStart flags names (c :: cs) = .ok (opening, rest)) :
    readGroupStart flags names (c :: (cs ++ tail)) = .ok (opening, rest ++ tail) := by
  by_cases hc : c = '?'
  swap
  · rw [readGroupStart_other hc] at h ⊢
    cases h
    rfl
  subst hc
  cases cs with
  | nil => cases h
  | cons d r =>
    by_cases hangle : d = '<'
    · subst hangle
      cases r with
      | nil => cases h
      | cons e r =>
        by_cases hlook : e = '=' ∨ e = '!'
        · rcases hlook with rfl | rfl <;> cases h
        · have he := not_or.mp hlook
          rw [readGroupStart_angle he] at h
          rw [List.cons_append, List.cons_append, readGroupStart_angle he]
          exact map_readGroupName_append tail h
    by_cases hlook : d = '=' ∨ d = '!'
    · rcases hlook with rfl | rfl <;> cases h
    by_cases hnamed : d = 'P' ∧ r.head? = some '<'
    · obtain ⟨rfl, hhead⟩ := hnamed
      obtain ⟨r, rfl⟩ := List.head?_eq_some_iff.mp hhead
      exact map_readGroupName_append tail h
    · have hd := not_or.mp hlook
      have hP : d = 'P' → r.head? ≠ some '<' := fun hP hhead => hnamed ⟨hP, hhead⟩
      have hP' : d = 'P' → (r ++ tail).head? ≠ some '<' := fun hd hhead =>
        hP hd ((head?_append_ends hend (by decide) r).mp hhead)
      rw [readGroupStart_flags ⟨hd.1, hd.2, hangle⟩ hP] at h
      rw [List.cons_append, readGroupStart_flags ⟨hd.1, hd.2, hangle⟩ hP']
      obtain ⟨⟨flags', any, closed, left⟩, hflags, h⟩ := Except.bind_eq_ok_iff.mp h
      have hflags' := readFlags_append tail hflags
      rw [List.cons_append] at hflags'
      rw [hflags']
      cases closed <;> cases any <;> cases h <;> rfl

theorem Before.takeLazy (hend : Ends tail) (h : Before tail cs cs') :
    (takeLazy cs').1 = (takeLazy cs).1 ∧ Before tail (takeLazy cs).2 (takeLazy cs').2 := by
  have hother : ∀ {c : Char} (r : List Char), c ≠ '?' →
      Regex.takeLazy (c :: r) = (false, c :: r) := by
    intro c r hc
    unfold Regex.takeLazy
    split
    · rename_i heq
      exact absurd (List.cons.inj heq).1 hc
    · rfl
  cases cs with
  | nil =>
    rcases h.nil_cases hend with rfl | ⟨more, rfl, -⟩
    · exact ⟨rfl, h⟩
    · rw [hother more (by decide)]
      exact ⟨rfl, h⟩
  | cons c r =>
    obtain rfl := h.eq_of_cons
    by_cases hc : c = '?'
    · subst hc
      exact ⟨rfl, before_append tail r⟩
    · rw [hother r hc, hother (r ++ tail) hc]
      exact ⟨rfl, h⟩

/-! ### Items -/

/-- What is read with some fuel is also read with more behind it and with
`fuel'`. -/
def ReadsOn (tail : List Char) (fuel fuel' : Nat) : Prop :=
  ∀ ⦃flags : Flags⦄ ⦃names names' : Names⦄ ⦃done items : List Item⦄ ⦃cs cs' rest : List Char⦄
    ⦃item : Item⦄, Before tail cs cs' →
    readItems fuel flags names done items cs = .ok (item, names', rest) →
    ∃ rest', readItems fuel' flags names done items cs' = .ok (item, names', rest') ∧
      Before tail rest rest'

section Steps

variable {fuel fuel' : Nat} {names' : Names} {done items : List Item} {item : Item}
  {c : Char} {r : List Char}

/-- A repetition and what follows it. -/
theorem ReadsOn.repetition (hend : Ends tail) (ih : ReadsOn tail fuel fuel') {counts : Counts}
    (hbefore : Before tail cs cs')
    (h : (repeatLatest flags counts (takeLazy cs).1 items).bind
      (fun items => readItems fuel flags names done items (takeLazy cs).2) =
        .ok (item, names', rest)) :
    ∃ rest', (repeatLatest flags counts (takeLazy cs').1 items).bind
        (fun items => readItems fuel' flags names done items (takeLazy cs').2) =
          .ok (item, names', rest') ∧
      Before tail rest rest' := by
  obtain ⟨hlazy, hleft⟩ := hbefore.takeLazy hend
  obtain ⟨items', hitems, h⟩ := Except.bind_eq_ok_iff.mp h
  obtain ⟨rest', hread, hrest⟩ := ih hleft h
  refine ⟨rest', ?_, hrest⟩
  rw [hlazy, hitems]
  exact hread

theorem readItems_nil (h : skipBlanks flags cs = []) :
    readItems (fuel + 1) flags names done items cs =
      .ok (Item.ofBranches (Item.ofBranch items :: done), names, []) := by
  conv => lhs; unfold readItems
  rw [h]

theorem readItems_close (h : skipBlanks flags cs = ')' :: r) :
    readItems (fuel + 1) flags names done items cs =
      .ok (Item.ofBranches (Item.ofBranch items :: done), names, ')' :: r) := by
  conv => lhs; unfold readItems
  rw [h]
  rfl

theorem readItems_literal (h : skipBlanks flags cs = c :: r) (hc : c ∉ specials) :
    readItems (fuel + 1) flags names done items cs =
      readItems fuel flags names done ({ expr := flags.literal c } :: items) r := by
  conv => lhs; unfold readItems
  rw [h]
  split <;> simp_all [specials]

theorem readItems_group (h : skipBlanks flags cs = '(' :: r) :
    readItems (fuel + 1) flags names done items cs =
      (readGroupStart flags names (skipBlanks flags r)).bind fun start =>
        match start.1 with
        | .setting flags => readItems fuel flags names done (Item.setting :: items) start.2
        | .plain inner => (readItems fuel inner names [] [] start.2).bind fun body =>
          match body.2.2 with
          | ')' :: rest => readItems fuel flags body.2.1 done
              ({ expr := body.1.expr, depth := body.1.depth + 1 } :: items) rest
          | _ => .error .unclosedGroup
        | .capture name =>
          (readItems fuel flags ⟨names.count + 1, name.toList ++ names.given⟩ [] [] start.2).bind
            fun body =>
              match body.2.2 with
              | ')' :: rest => readItems fuel flags body.2.1 done
                  ({ expr := .group (names.count + 1) name body.1.expr
                     depth := body.1.depth + 1 } :: items) rest
              | _ => .error .unclosedGroup := by
  conv => lhs; unfold readItems
  rw [h]
  rfl

/-- The body of a group that is closed, and what follows it. -/
theorem ReadsOn.body (ih : ReadsOn tail fuel fuel') (group : Item → Item) {inner : Flags}
    {names₁ : Names} {left : List Char}
    (h : (readItems fuel inner names₁ [] [] left).bind
      (fun body => match body.2.2 with
        | ')' :: rest => readItems fuel flags body.2.1 done (group body.1 :: items) rest
        | _ => .error .unclosedGroup) = .ok (item, names', rest)) :
    ∃ rest', (readItems fuel' inner names₁ [] [] (left ++ tail)).bind
        (fun body => match body.2.2 with
          | ')' :: rest => readItems fuel' flags body.2.1 done (group body.1 :: items) rest
          | _ => .error .unclosedGroup) = .ok (item, names', rest') ∧
      Before tail rest rest' := by
  obtain ⟨⟨body, names₂, closed⟩, hbody, h⟩ := Except.bind_eq_ok_iff.mp h
  obtain ⟨closed', hbody', hclosed⟩ := ih (before_append tail left) hbody
  cases closed with
  | nil => cases h
  | cons c closed =>
    by_cases hc : c = ')'
    · subst hc
      obtain rfl := hclosed.eq_of_cons
      obtain ⟨rest', hread, hrest⟩ := ih (before_append tail closed) h
      refine ⟨rest', ?_, hrest⟩
      rw [hbody']
      exact hread
    · dsimp only at h
      split at h
      · rename_i heq
        exact absurd (List.cons.inj heq).1 hc
      · cases h

/-- A group and what follows it. -/
theorem ReadsOn.group (hend : Ends tail) (ih : ReadsOn tail fuel fuel')
    (hskip : skipBlanks flags cs = '(' :: r) (hskip' : skipBlanks flags cs' = '(' :: (r ++ tail))
    (h : readItems (fuel + 1) flags names done items cs = .ok (item, names', rest)) :
    ∃ rest', readItems (fuel' + 1) flags names done items cs' = .ok (item, names', rest') ∧
      Before tail rest rest' := by
  rw [readItems_group hskip] at h
  rw [readItems_group hskip']
  have hinside := (before_append tail r).skipBlanks hend flags
  cases hr : skipBlanks flags r with
  | nil =>
    -- there is no end of the group
    rw [hr] at h
    change (readItems fuel flags ⟨names.count + 1, _⟩ [] [] []).bind _ = _ at h
    cases fuel with
    | zero => cases h
    | succ k =>
      have hnil : skipBlanks flags [] = [] := by
        unfold skipBlanks
        split <;> rfl
      rw [readItems_nil hnil] at h
      cases h
  | cons c left =>
    rw [hr] at h hinside
    obtain ⟨⟨opening, left⟩, hstart, h⟩ := Except.bind_eq_ok_iff.mp h
    rw [hinside.eq_of_cons, readGroupStart_append hend hstart]
    cases opening with
    | setting flags' => exact ih (before_append tail left) h
    | plain inner =>
      exact ih.body (fun body => { expr := body.expr, depth := body.depth + 1 }) h
    | capture name =>
      exact ih.body (fun body =>
        { expr := .group (names.count + 1) name body.expr, depth := body.depth + 1 }) h

end Steps

/-- All that is read is also read with more behind it, and with more fuel. -/
theorem readsOn (hend : Ends tail) : ∀ {fuel fuel' : Nat}, fuel ≤ fuel' → ReadsOn tail fuel fuel'
  | 0, _, _ => fun _ _ _ _ _ _ _ _ _ _ h => by cases h
  | fuel + 1, fuel', hfuel => by
    obtain ⟨k, rfl⟩ := Nat.exists_eq_add_of_le' (show 1 ≤ fuel' by omega)
    have ih : ReadsOn tail fuel k := readsOn hend (by omega)
    intro flags names names' done items cs cs' rest item hbefore h
    have hblanks := hbefore.skipBlanks hend flags
    cases hskip : skipBlanks flags cs with
    | nil =>
      rw [hskip] at hblanks
      rw [readItems_nil hskip] at h
      cases h
      rcases hblanks.nil_cases hend with hnil | ⟨more, hclose, heq⟩
      · exact ⟨[], readItems_nil hnil, Or.inr ⟨rfl, rfl⟩⟩
      · exact ⟨')' :: more, readItems_close hclose, Or.inl (hclose.symm.trans heq.symm)⟩
    | cons c r =>
      rw [hskip] at hblanks
      have hskip' := hblanks.eq_of_cons
      by_cases hspecial : c ∉ specials
      · rw [readItems_literal hskip hspecial] at h
        rw [readItems_literal hskip' hspecial]
        exact ih (before_append tail r) h
      have hmem := Classical.not_not.mp hspecial
      by_cases hgroup : c = '('
      · subst hgroup
        exact ih.group hend hskip hskip' h
      conv at h => lhs; unfold readItems
      conv => enter [1, rest', 1]; lhs; unfold readItems
      rw [hskip] at h
      rw [hskip']
      -- the cases stand in the order of the special characters
      simp only [specials, List.mem_cons, List.not_mem_nil, or_false] at hmem
      rcases hmem with rfl | rfl | rfl | rfl | rfl | rfl | rfl | rfl | rfl | rfl | rfl | rfl
      · exact ih (before_append tail r) h
      · exact absurd rfl hgroup
      · cases h
        exact ⟨_, rfl, before_append tail (')' :: r)⟩
      · obtain ⟨⟨s, depth, left⟩, hclass, h⟩ := Except.bind_eq_ok_iff.mp h
        obtain ⟨rest', hread, hrest⟩ := ih (before_append tail left) h
        refine ⟨rest', ?_, hrest⟩
        show Except.bind (readClass flags (r ++ tail)) _ = _
        rw [readClass_append hend hclass]
        exact hread
      · exact ih.repetition hend (before_append tail r) h
      · exact ih.repetition hend (before_append tail r) h
      · exact ih.repetition hend (before_append tail r) h
      · obtain ⟨⟨counts, left⟩, hcount, h⟩ := Except.bind_eq_ok_iff.mp h
        have hleft := (before_append tail left).skipBlanks hend flags
        obtain ⟨rest', hread, hrest⟩ := ih.repetition hend hleft h
        refine ⟨rest', ?_, hrest⟩
        show Except.bind (readCount flags (r ++ tail)) _ = _
        rw [readCount_append hend hcount]
        exact hread
      · obtain ⟨⟨atom, left⟩, hescape, h⟩ := Except.bind_eq_ok_iff.mp h
        obtain ⟨rest', hread, hrest⟩ := ih (before_append tail left) h
        refine ⟨rest', ?_, hrest⟩
        show Except.bind (readEscape flags (r ++ tail)) _ = _
        rw [readEscape_append hend hescape]
        exact hread
      · obtain ⟨s, hdot, h⟩ := Except.bind_eq_ok_iff.mp h
        obtain ⟨rest', hread, hrest⟩ := ih (before_append tail r) h
        refine ⟨rest', ?_, hrest⟩
        show Except.bind flags.dot _ = _
        rw [hdot]
        exact hread
      · exact ih (before_append tail r) h
      · exact ih (before_append tail r) h

end Regex
end Signpost
