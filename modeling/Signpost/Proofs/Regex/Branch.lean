/-
# What phrases mean

A phrase without a bar adds expressions to the branch that it stands in,
whatever stands there already (`Phrase.Means`); a phrase with one is a choice
when it is the body of a group (`Phrase.Body`). What a phrase means is told from
what its parts mean. The groups that are in the expressions are those of the
phrase, with consecutive numbers.

Key definitions: `numbered`, `Expr.branch`, `Phrase.Means`, `Phrase.Body`.
Key theorems: `Expr.groups_branch`, `Phrase.Means.beside`, `Phrase.Means.body`,
`Phrase.Body.group`.
-/
import Signpost.Proofs.Regex.Phrase

namespace Signpost
namespace Regex

/-- Groups that are numbered consecutively, after `count` others. -/
def numbered : Nat → List (Option (List Char)) → List (Nat × Option String)
  | _, [] => []
  | count, name :: names => (count + 1, name.map String.ofList) :: numbered (count + 1) names

theorem numbered_append : ∀ (count : Nat) (names names' : List (Option (List Char))),
    numbered count (names ++ names') =
      numbered count names ++ numbered (count + names.length) names'
  | _, [], _ => rfl
  | count, name :: names, names' => by
    rw [List.cons_append, numbered, numbered, numbered_append (count + 1) names names',
      List.length_cons, Nat.add_right_comm, Nat.add_assoc, List.cons_append]

namespace Expr

/-- One branch of the given expressions. -/
def branch : List Expr → Expr
  | [] => empty
  | [e] => e
  | es => sequence es

theorem branch_of_two_le : ∀ {es : List Expr}, 2 ≤ es.length → branch es = sequence es
  | _ :: _ :: _, _ => rfl

theorem groups_parts : ∀ e : Expr, e.parts.flatMap groups = e.groups
  | empty => rfl
  | seq a b => by rw [parts, List.flatMap_append, groups_parts a, groups_parts b, groups]
  | set _ _ => rfl
  | assertion _ => rfl
  | alt _ _ => List.flatMap_singleton _ _
  | rep _ _ _ _ => List.flatMap_singleton _ _
  | group _ _ _ => List.flatMap_singleton _ _

theorem groups_ofParts : ∀ es : List Expr, (ofParts es).groups = es.flatMap groups
  | [] => rfl
  | [e] => (List.flatMap_singleton _ e).symm
  | e :: f :: es => by
    rw [List.flatMap_cons, ← groups_ofParts (f :: es)]
    rfl

/-- The groups of a sequence are those of its expressions, in their order. -/
theorem groups_sequence (es : List Expr) : (sequence es).groups = es.flatMap groups := by
  rw [sequence, groups_ofParts, List.flatMap_assoc]
  exact congrArg (fun f => es.flatMap f) (funext groups_parts)

theorem groups_branch : ∀ es : List Expr, (branch es).groups = es.flatMap groups
  | [] => rfl
  | [e] => (List.flatMap_singleton _ e).symm
  | e :: f :: es => groups_sequence (e :: f :: es)

end Expr

theorem foldl_max_numbered : ∀ (count : Nat) (names : List (Option (List Char))),
    ((numbered count names).map (·.1)).foldl max count = count + names.length
  | _, [] => rfl
  | count, name :: names => by
    rw [numbered, List.map_cons, List.foldl_cons, Nat.max_eq_right (Nat.le_succ count),
      foldl_max_numbered (count + 1) names, List.length_cons]
    omega

theorem lookup_numbered : ∀ (count : Nat) (names : List (Option (List Char))) (i : Nat),
    (numbered count names).lookup (count + i + 1) = names[i]?.map (·.map String.ofList)
  | _, [], _ => rfl
  | count, name :: names, 0 => by
    rw [numbered, List.lookup_cons_self]
    rfl
  | count, name :: names, i + 1 => by
    have hne : (count + (i + 1) + 1 == count + 1) = false := by
      rw [beq_eq_false_iff_ne]
      omega
    rw [numbered, List.lookup_cons, hne, show count + (i + 1) + 1 = count + 1 + i + 1 by omega]
    exact lookup_numbered (count + 1) names i

/-- The names of groups with consecutive numbers, in their order. -/
theorem Expr.groupNames_of_numbered {e : Expr} {names : List (Option (List Char))}
    (h : e.groups = numbered 0 names) : e.groupNames = names.map (·.map String.ofList) := by
  unfold Expr.groupNames
  rw [h]
  show (List.range (((numbered 0 names).map (·.1)).foldl max 0)).map _ = _
  rw [foldl_max_numbered, Nat.zero_add]
  refine List.ext_getElem? fun i => ?_
  have hlookup := lookup_numbered 0 names i
  rw [Nat.zero_add] at hlookup
  rw [List.getElem?_map, List.getElem?_map]
  by_cases hi : i < names.length
  · rw [List.getElem?_range hi]
    simp [hlookup, hi]
  · rw [List.getElem?_eq_none (by simpa using hi), List.getElem?_eq_none (by simpa using hi)]
    rfl

theorem Item.expr_ofBranch : ∀ items : List Item,
    (Item.ofBranch items).expr = Expr.branch (items.reverse.map (·.expr))
  | [] => rfl
  | [_] => rfl
  | a :: b :: items => (Expr.branch_of_two_le (by simp)).symm

theorem Item.depth_ofBranch_le {bound : Nat} : ∀ {items : List Item},
    (∀ item ∈ items, item.depth ≤ bound) → (Item.ofBranch items).depth ≤ bound + 1
  | [], _ => Nat.zero_le _
  | [item], h => Nat.le_succ_of_le (h item List.mem_cons_self)
  | a :: b :: items, h => by
    refine Nat.succ_le_succ (List.foldl_max_le ?_ (Nat.zero_le _))
    intro n hn
    obtain ⟨item, hitem, rfl⟩ := List.mem_map.mp hn
    exact h item hitem

namespace Phrase

/-- The phrase adds the items to the branch it stands in, if `count` groups were
opened before it. -/
def Adds (p : Phrase) (count : Nat) (items : List Item) : Prop :=
  ∀ d, p.draft count d = ⟨d.done, items ++ d.items⟩

/-- The phrase adds the expressions to the branch it stands in. They nest no deeper
than `depth`, and their groups are those of the phrase. -/
def Means (p : Phrase) (count : Nat) (es : List Expr) (depth : Nat) : Prop :=
  (∃ items, p.Adds count items ∧ items.reverse.map (·.expr) = es ∧
    ∀ item ∈ items, item.depth ≤ depth) ∧
  es.flatMap Expr.groups = numbered count p.groups

/-- The phrase means the expression where it is all that is in a group. -/
def Body (p : Phrase) (count : Nat) (e : Expr) (depth : Nat) : Prop :=
  (p.draft count {}).item.expr = e ∧ (p.draft count {}).item.depth ≤ depth ∧
    e.groups = numbered count p.groups

variable {p q : Phrase} {count depth depth' : Nat} {e : Expr} {es es' : List Expr}

theorem means_nothing : nothing.Means count [] depth :=
  ⟨⟨[], fun _ => rfl, rfl, fun _ h => absurd h List.not_mem_nil⟩, rfl⟩

theorem Means.mono (h : p.Means count es depth) (hle : depth ≤ depth') :
    p.Means count es depth' := by
  obtain ⟨⟨items, hadds, hexprs, hdepth⟩, hgroups⟩ := h
  exact ⟨⟨items, hadds, hexprs, fun item hitem => Nat.le_trans (hdepth item hitem) hle⟩, hgroups⟩

/-- A phrase that pushes one item. -/
theorem means_push (item : Item) (hdraft : ∀ d, p.draft count d = d.push item)
    (hdepth : item.depth ≤ depth) (hgroups : item.expr.groups = numbered count p.groups) :
    p.Means count [item.expr] depth := by
  refine ⟨⟨[item], hdraft, rfl, fun it hit => ?_⟩, ?_⟩
  · rwa [List.mem_singleton.mp hit]
  · rwa [List.flatMap_singleton]

theorem literal_eq_char (c : Char) : ({} : Flags).literal c = .char c := by
  show Expr.ofSet .unicode (CharSet.single c) = .set .unicode (CharSet.single c)
  unfold Expr.ofSet
  split <;> rfl

theorem means_literal (c : Char) : (literal c).Means count [.char c] 0 := by
  rw [← literal_eq_char]
  exact means_push { expr := ({} : Flags).literal c } (fun _ => rfl) (Nat.le_refl _)
    (by rw [literal_eq_char]; rfl)

theorem means_ofClass (text : List Char) (s : CharSet) :
    (ofClass text s depth).Means count [.set .unicode s] depth :=
  means_push { expr := .set .unicode s, depth := depth } (fun _ => rfl) (Nat.le_refl _) rfl

/-- Phrases side by side mean the one after the other. -/
theorem Means.beside (h : p.Means count es depth)
    (h' : q.Means (count + p.groups.length) es' depth') :
    (beside p q).Means count (es ++ es') (max depth depth') := by
  obtain ⟨⟨items, hadds, rfl, hdepth⟩, hgroups⟩ := h
  obtain ⟨⟨items', hadds', rfl, hdepth'⟩, hgroups'⟩ := h'
  refine ⟨⟨items' ++ items, fun d => ?_, ?_, fun item hitem => ?_⟩, ?_⟩
  · show q.draft (count + p.groups.length) (p.draft count d) = _
    rw [hadds', hadds, List.append_assoc]
  · rw [List.reverse_append, List.map_append]
  · rcases List.mem_append.mp hitem with hitem | hitem
    · exact Nat.le_trans (hdepth' item hitem) (Nat.le_max_right _ _)
    · exact Nat.le_trans (hdepth item hitem) (Nat.le_max_left _ _)
  · rw [List.flatMap_append, hgroups, hgroups', groups, numbered_append]

/-- Characters that stand for themselves. -/
theorem means_literals : ∀ (cs : List Char) (count : Nat),
    (row (cs.map literal)).Means count (cs.map .char) 0
  | [], _ => means_nothing
  | [c], _ => means_literal c
  | c :: d :: cs, count => (means_literal c).beside (means_literals (d :: cs) count)

/-- An expression that is repeated is a repetition, unless it matches the empty text
only or the only count is at most one. -/
theorem Means.repeated {mark : List Char} {least : Nat} {most : Option Nat}
    (h : p.Means count [e] depth) (hne : e.onlyEmpty = false)
    (hcounts : most ≠ some least ∨ 1 < least) :
    (repeated p mark least most).Means count [.rep e least most true] (depth + 1) := by
  obtain ⟨⟨items, hadds, hexprs, hdepth⟩, hgroups⟩ := h
  obtain ⟨item, rfl⟩ : ∃ item, items = [item] := by
    rw [← List.length_eq_one_iff, ← List.length_reverse, ← List.length_map (·.expr), hexprs]
    rfl
  obtain rfl : item.expr = e := by simpa using hexprs
  have hexpr : (item.repeated least most).expr = .rep item.expr least most true := by
    show Expr.repetition _ _ _ _ = _
    unfold Expr.repetition
    simp only [hne, Bool.false_eq_true, if_false]
    rw [if_neg, if_neg]
    · rintro ⟨rfl, rfl⟩
      simp at hcounts
    · rintro ⟨rfl, rfl⟩
      simp at hcounts
  rw [← hexpr]
  refine means_push _ (fun d => ?_) (Nat.succ_le_succ (hdepth item List.mem_cons_self)) ?_
  · show (p.draft count d).repeatLatest least most = _
    rw [hadds]
    rfl
  · rw [hexpr]
    show item.expr.groups = numbered count p.groups
    rwa [List.flatMap_singleton] at hgroups

theorem Means.perhaps (h : p.Means count [e] depth) (hne : e.onlyEmpty = false) :
    (perhaps p).Means count [.rep e 0 (some 1) true] (depth + 1) :=
  h.repeated hne (by decide)

theorem Means.several (h : p.Means count [e] depth) (hne : e.onlyEmpty = false) :
    (several p).Means count [.rep e 1 none true] (depth + 1) :=
  h.repeated hne (by decide)

theorem Means.times {least most : Nat} (h : p.Means count [e] depth) (counts : List Char)
    (hne : e.onlyEmpty = false) (hcounts : least ≠ most ∨ 1 < least) :
    (times p counts least most).Means count [.rep e least (some most) true] (depth + 1) :=
  h.repeated hne (hcounts.imp_left fun hlt heq => hlt (Option.some.inj heq).symm)

/-- Where a phrase is all that is in a group it is one branch. -/
theorem Means.body (h : p.Means count es depth) : p.Body count (.branch es) (depth + 1) := by
  obtain ⟨⟨items, hadds, rfl, hdepth⟩, hgroups⟩ := h
  have hitem : (p.draft count {}).item = Item.ofBranch items := by
    rw [hadds, List.append_nil]
    rfl
  refine ⟨?_, ?_, ?_⟩
  · rw [hitem, Item.expr_ofBranch]
  · rw [hitem]
    exact Item.depth_ofBranch_le hdepth
  · rw [Expr.groups_branch, hgroups]

theorem Body.plain (h : p.Body count e depth) : (plain p).Means count [e] (depth + 1) := by
  obtain ⟨rfl, hdepth, hgroups⟩ := h
  let item := (p.draft count {}).item
  exact means_push { expr := item.expr, depth := item.depth + 1 } (fun _ => rfl)
    (Nat.succ_le_succ hdepth) hgroups

theorem Body.group {name : Option (List Char)} (h : p.Body (count + 1) e depth) :
    (group name p).Means count [.group (count + 1) (name.map String.ofList) e] (depth + 1) := by
  obtain ⟨rfl, hdepth, hgroups⟩ := h
  let item := (p.draft (count + 1) {}).item
  let expr : Expr := .group (count + 1) (name.map String.ofList) item.expr
  exact means_push { expr := expr, depth := item.depth + 1 } (fun _ => rfl)
    (Nat.succ_le_succ hdepth) (congrArg (_ :: ·) hgroups)

/-! ### Between the anchors -/

/-- The phrase as a group without a number between the two anchors. -/
def anchored (p : Phrase) : Phrase :=
  row [.atom ['^'] { expr := .assertion .textStart }, .plain p,
    .atom ['$'] { expr := .assertion .textEnd }]

theorem text_anchored (p : Phrase) :
    p.anchored.text = "^(?:".toList ++ p.text ++ ")$".toList := by
  show '^' :: '(' :: '?' :: ':' :: (p.text ++ [')'] ++ ['$']) = _
  simp

theorem legible_anchored (h : p.Legible) : p.anchored.Legible :=
  ⟨⟨rfl, fun _ => readsItem_caret⟩, ⟨h, ⟨rfl, fun _ => readsItem_dollar⟩, by decide⟩,
    show some '(' ≠ some '?' by decide⟩

theorem names_anchored (p : Phrase) : p.anchored.names = p.names := by
  show (p.groups ++ []).filterMap id = _
  rw [List.append_nil]
  rfl

/-- **Between the anchors.** A phrase that can be read, and does not nest too deeply,
is read as what it means. -/
theorem read_anchored (hlegible : p.Legible) (hnames : Admits [] p.names)
    (hbody : p.Body 0 e depth) (hdepth : depth + 2 ≤ depthLimit) :
    read p.anchored.text = .ok (.sequence [.assertion .textStart, e, .assertion .textEnd]) := by
  rw [read_text (legible_anchored hlegible) (by rwa [names_anchored])]
  obtain ⟨rfl, hle, -⟩ := hbody
  have hitem : (p.anchored.draft 0 {}).item.depth ≤ depthLimit := by
    show max (max (max 0 0) ((p.draft 0 {}).item.depth + 1)) 0 + 1 ≤ depthLimit
    omega
  rw [if_neg (Nat.not_lt.mpr hitem)]
  rfl

/-- A phrase with a name that may not be given is not read there. -/
theorem exists_read_anchored_error (hlegible : p.Legible) (hnames : ¬ Admits [] p.names) :
    ∃ fault, read p.anchored.text = .error fault :=
  exists_read_error (legible_anchored hlegible) (by rwa [names_anchored])

end Phrase
end Regex
end Signpost
