/-
# What a walk records

The groups of all matchers that accept a segment are recorded one after the
other, as if they were the groups of one match (`Node.descend_eq_recordAll`).
So what is captured in the end has a closed form. A key gathers the texts of the
groups that it names (`Walk.values_uncounted`), unless it is the number of a group
that took part: the text of that group is put in place of what is there by then
(`Walk.values_counted`). A visit that was led by the key of its node adds no group
(`Node.acceptance_of_step`).

Key definitions: `Walk.recordAll`, `Walk.values`, `Walk.textsNamed`,
`Acceptance`, `Visit.acceptance?`.
Key theorems: `Walk.values_recordGroup`, `Walk.values_uncounted`,
`Walk.values_counted`, `Node.acceptance_of_step`, `Node.descend_eq_recordAll`.
-/
import Signpost.Proofs.Regex.Groups
import Signpost.Proofs.Trie.Trail

namespace Signpost

theorem Captures.positionalKey_inj {i j : Nat} (h : positionalKey i = positionalKey j) : i = j := by
  have hrepr : Nat.repr i = Nat.repr j := (String.append_right_inj "_").mp h
  have hdigits : Nat.toDigits 10 i = Nat.toDigits 10 j := by
    rw [Nat.repr_eq_ofList_toDigits, Nat.repr_eq_ofList_toDigits] at hrepr
    exact String.ofList_injective hrepr
  calc i = Nat.ofDigitChars 10 (Nat.toDigits 10 i) 0 := Nat.ofDigitChars_ten_toDigits.symm
    _ = Nat.ofDigitChars 10 (Nat.toDigits 10 j) 0 := by rw [hdigits]
    _ = j := Nat.ofDigitChars_ten_toDigits

/-- A name that begins otherwise is no number. -/
theorem Captures.ne_positionalKey {name : String} (h : name.toList.head? ≠ some '_') (K : Nat) :
    name ≠ positionalKey K := by
  rintro rfl
  simp [positionalKey] at h

namespace Walk

/-- Records some groups, each with its name and its text, in order. -/
def recordAll (w : Walk) (groups : List (Option String × Option String)) : Walk :=
  groups.foldl (fun w g => w.recordGroup g.1 g.2) w

/-- The texts captured under a key. -/
def values (w : Walk) (key : String) : List String :=
  match w.captures with
  | some v => v.getAll key
  | none => []

/-- The texts of the groups with the given name, in order. -/
def textsNamed (name : String) (groups : List (Option String × Option String)) : List String :=
  groups.flatMap fun g => if g.1 = some name then g.2.toList else []

theorem textsNamed_eq_nil {name : String} {groups : List (Option String × Option String)}
    (h : ∀ g ∈ groups, g.1 ≠ some name) : textsNamed name groups = [] :=
  List.flatMap_eq_nil_iff.mpr fun g hg => if_neg (h g hg)

@[simp] theorem recordAll_nil (w : Walk) : w.recordAll [] = w := rfl

@[simp] theorem recordAll_cons (w : Walk) (g : Option String × Option String)
    (gs : List (Option String × Option String)) :
    w.recordAll (g :: gs) = (w.recordGroup g.1 g.2).recordAll gs := rfl

theorem recordAll_append (w : Walk) (gs gs' : List (Option String × Option String)) :
    w.recordAll (gs ++ gs') = (w.recordAll gs).recordAll gs' :=
  List.foldl_append

theorem record_eq (w : Walk) (names texts : List (Option String)) :
    w.record names texts = w.recordAll (names.zip texts) := rfl

theorem groups_recordGroup (w : Walk) (name text : Option String) :
    (w.recordGroup name text).groups = w.groups + 1 := by
  unfold recordGroup
  split <;> rfl

theorem isSome_captures_recordAll (w : Walk) (gs : List (Option String × Option String)) :
    (w.recordAll gs).captures.isSome = w.captures.isSome := by
  induction gs generalizing w with
  | nil => rfl
  | cons g gs ih => rw [recordAll_cons, ih, isSome_captures_recordGroup]

/-- What is under a key once a group was recorded: a text of the group stands
alone under its number, and comes last under its name. -/
theorem values_recordGroup {w : Walk} (hw : w.captures.isSome = true) (name text : Option String)
    (key : String) :
    (w.recordGroup name text).values key =
      (if key = Captures.positionalKey (w.groups + 1) then text.elim (w.values key) ([·])
        else w.values key) ++ (if name = some key then text.toList else []) := by
  obtain ⟨v, hv⟩ := Option.isSome_iff_exists.mp hw
  cases text with
  | none => simp [values, recordGroup_none]
  | some t =>
    have hset : (v.set (Captures.positionalKey (w.groups + 1)) t).getAll key =
        if key = Captures.positionalKey (w.groups + 1) then [t] else v.getAll key := by
      by_cases hk : key = Captures.positionalKey (w.groups + 1)
      · rw [if_pos hk, hk, Captures.getAll_set_self]
      · rw [if_neg hk, Captures.getAll_set_ne v hk]
    rw [values, recordGroup_some hv, values, hv]
    cases name with
    | none => simpa using hset
    | some n =>
      by_cases hn : n = key
      · subst hn
        simp [Captures.getAll_add_self, hset]
      · simp [Captures.getAll_add_ne _ (Ne.symm hn), hset, hn]

theorem mem_textsNamed {name text : String} {groups : List (Option String × Option String)}
    (h : (some name, some text) ∈ groups) : text ∈ textsNamed name groups :=
  List.mem_flatMap.mpr ⟨_, h, by simp⟩

/-- **Under a key that counts none of some groups.** Once they were recorded, the
texts of those that the key names stand behind what it had. -/
theorem values_uncounted {key : String} :
    ∀ (gs : List (Option String × Option String)) {w : Walk}, w.captures.isSome = true →
      (∀ i name text, gs[i]? = some (name, some text) →
        key ≠ Captures.positionalKey (w.groups + (i + 1))) →
      (w.recordAll gs).values key = w.values key ++ textsNamed key gs
  | [], w, _, _ => by simp [textsNamed]
  | (name, text) :: gs, w, hw, hfree => by
    have hfirst : (w.recordGroup name text).values key =
        w.values key ++ (if name = some key then text.toList else []) := by
      rw [values_recordGroup hw]
      cases text with
      | none => simp
      | some t => rw [if_neg (hfree 0 name t rfl)]
    have hfree' : ∀ i name' text', gs[i]? = some (name', some text') →
        key ≠ Captures.positionalKey ((w.recordGroup name text).groups + (i + 1)) := by
      intro i name' text' hi
      rw [groups_recordGroup, Nat.add_assoc, Nat.add_comm 1]
      exact hfree (i + 1) name' text' hi
    calc (w.recordAll ((name, text) :: gs)).values key
        = (w.recordGroup name text).values key ++ textsNamed key gs :=
          values_uncounted gs (isSome_recordGroup w name text hw) hfree'
      _ = w.values key ++ (if name = some key then text.toList else []) ++ textsNamed key gs := by
          rw [hfirst]
      _ = w.values key ++ textsNamed key ((name, text) :: gs) := by
          simp [textsNamed]

theorem values_name {key : String} (hkey : ∀ K, key ≠ Captures.positionalKey K)
    (gs : List (Option String × Option String)) {w : Walk} (hw : w.captures.isSome = true) :
    (w.recordAll gs).values key = w.values key ++ textsNamed key gs :=
  values_uncounted gs hw fun _ _ _ _ => hkey _

/-- **Under a number.** After some groups were recorded, a number that counts one
that took part has the text of that group, and behind it the texts of the groups
that it names, from that group on. What was there before is gone. -/
theorem values_counted : ∀ {gs : List (Option String × Option String)} {w : Walk},
    w.captures.isSome = true → ∀ {i : Nat} {name : Option String} {text : String},
    gs[i]? = some (name, some text) → ∀ {key : String},
    key = Captures.positionalKey (w.groups + (i + 1)) →
      (w.recordAll gs).values key = text :: textsNamed key (gs.drop i)
  | [], _, _, _, _, _, hget, _, _ => by cases hget
  | g :: gs, w, hw, 0, name, text, hget, key, hkey => by
    cases hget
    -- no group behind this one is counted under its number
    have hfree : ∀ i name' text', gs[i]? = some (name', some text') →
        key ≠ Captures.positionalKey ((w.recordGroup name (some text)).groups + (i + 1)) := by
      rintro i - - - heq
      rw [groups_recordGroup] at heq
      have := Captures.positionalKey_inj (hkey.symm.trans heq)
      omega
    calc (w.recordAll ((name, some text) :: gs)).values key
        = (w.recordGroup name (some text)).values key ++ textsNamed key gs :=
          values_uncounted gs (isSome_recordGroup w name (some text) hw) hfree
      _ = [text] ++ (if name = some key then [text] else []) ++ textsNamed key gs := by
          rw [values_recordGroup hw, if_pos hkey]
          rfl
      _ = text :: textsNamed key ((name, some text) :: gs) := by
          simp [textsNamed]
  | g :: gs, w, hw, i + 1, name, text, hget, key, hkey => by
    have hnumber : w.groups + (i + 1 + 1) = (w.recordGroup g.1 g.2).groups + (i + 1) := by
      rw [groups_recordGroup]
      omega
    have hget' : gs[i]? = some (name, some text) := hget
    exact values_counted (isSome_recordGroup w g.1 g.2 hw) hget' (hnumber ▸ hkey)

end Walk

/-! ### The matches on a trail -/

/-- A match on the way of a walk: the matcher that accepted a segment, and what
it found. -/
structure Acceptance where
  matcher : Matcher
  found : Regex.Match

namespace Acceptance

/-- The groups of the match, each with its name and its text. -/
def groups (a : Acceptance) : List (Option String × Option String) :=
  a.matcher.regex.groupNames.zip a.found.groups

/-- The number of groups, whether they took part or not. -/
def groupCount (a : Acceptance) : Nat := a.matcher.regex.groupNames.length

end Acceptance

/-- The match that a visit is due to, if it is due to one. -/
def Visit.acceptance? {H : Type} (visit : Visit H) : Option Acceptance :=
  if (visit.node.accept visit.segment visit.before).isSome then
    visit.node.matcher.bind fun m => (m.regex.captures? visit.segment).map fun found => ⟨m, found⟩
  else none

namespace Node

variable {H : Type} {s : MatcherStore}

/-- **One step, with captures wanted.** It is due to a match, and the groups of
the match are recorded; or it is due to none, and nothing is. -/
theorem acceptance_of_step {n child : Node H} (hwell : n.WellFormed s) {segment : String}
    {w w' : Walk} (hw : w.captures.isSome = true) (h : n.step segment w = some (child, w')) :
    (∃ a, Visit.acceptance? ⟨segment, child, w, w'⟩ = some a ∧
        child.matcher = some a.matcher ∧ a.matcher.regex.captures? segment = some a.found ∧
        w' = w.recordAll a.groups) ∨
      (Visit.acceptance? ⟨segment, child, w, w'⟩ = none ∧ w' = w) := by
  obtain ⟨hmem, hcase⟩ := step_cases hwell.root_coherent h
  have hkeyed := (hwell.child hmem).1.keyed
  unfold Visit.acceptance?
  rcases hcase with ⟨hp, haccept⟩ | ⟨-, rfl, hnone⟩
  · obtain ⟨v, hv⟩ := Option.isSome_iff_exists.mp hw
    obtain ⟨m, hm⟩ := Option.isSome_iff_exists.mp (hkeyed.isSome_eq.trans hp)
    have hfound := haccept
    rw [accept_of_matcher hm] at hfound
    split at hfound
    · cases hfound
    · simp only [hv] at hfound
      obtain ⟨found, hsearch, rfl⟩ := Option.map_eq_some_iff.mp hfound
      refine Or.inl ⟨⟨m, found⟩, ?_, hm, hsearch, Walk.record_eq w _ _⟩
      simp [haccept, hm, hsearch]
  · have hreject : child.accept segment w' = none := by
      cases hp : Template.isPattern child.key with
      | true => exact hnone child hmem hp
      | false =>
        have hm : child.matcher = none := by simpa [hp] using hkeyed.isSome_eq
        simp [accept, hm]
    refine Or.inr ⟨?_, rfl⟩
    simp [hreject]

/-- **All steps, with captures wanted.** The groups of the matches on the way are
recorded in their order, and nothing else is. -/
theorem descend_eq_recordAll : ∀ (segments : List String) (position : Nat) {n : Node H} {w : Walk},
    n.WellFormed s → w.captures.isSome = true →
    (n.descend segments position w).2 =
      w.recordAll (((n.trail segments w).filterMap Visit.acceptance?).flatMap Acceptance.groups)
  | [], _, _, _, _, _ => rfl
  | segment :: rest, position, n, w, hwell, hw => by
    cases hs : n.step segment w with
    | none =>
      rw [descend, trail, hs]
      rfl
    | some reached =>
      obtain ⟨child, w₁⟩ := reached
      have hchild := (hwell.child (step_cases hwell.root_coherent hs).1).2
      have hw₁ : w₁.captures.isSome = true := step_keeps Walk.isSome_recordGroup hs hw
      have ih := descend_eq_recordAll rest (position + 1) hchild hw₁
      rw [descend_cons hs, trail_cons hs, ih]
      rcases acceptance_of_step hwell hw hs with ⟨a, ha, -, -, hrecord⟩ | ⟨hnone, hrecord⟩
      · rw [List.filterMap_cons_some ha, List.flatMap_cons, Walk.recordAll_append, ← hrecord]
      · rw [List.filterMap_cons_none hnone, hrecord]

theorem captures?_of_acceptance {visit : Visit H} {a : Acceptance}
    (h : visit.acceptance? = some a) :
    visit.node.matcher = some a.matcher ∧
      a.matcher.regex.captures? visit.segment = some a.found := by
  unfold Visit.acceptance? at h
  split at h
  · obtain ⟨m, hm, hfound⟩ := Option.bind_eq_some_iff.mp h
    obtain ⟨found, hsearch, rfl⟩ := Option.map_eq_some_iff.mp hfound
    exact ⟨hm, hsearch⟩
  · cases h

end Node
end Signpost
