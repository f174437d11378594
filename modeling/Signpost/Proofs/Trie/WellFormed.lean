/-
# Well-formed tries

A node keeps four things about its children: the children themselves, their
positions by key, the positions of the patterns, and, in each child, its
matcher. They have to agree (`Coherent`), the children have to fit their
parent and the store of matchers (`Fits`), and no branch may be dead: below
every child, or at it, there is a handler. A trie is well formed if this holds
at every node of it (`WellFormed`).

`mem_children_updateChild`, `keys_updateChild` and `Coherent.updateChild` say
all there is to say about a change of one child; a route is inserted by a
chain of such changes, so an insertion keeps a trie well formed
(`WellFormed.insert`).

Key definitions: `Node.keys`, `Node.Coherent`, `Node.Within`, `Node.Leads`,
`Node.Fits`, `Node.WellFormed`.
Key theorems: `Node.child?_eq_some_iff`, `Node.mem_children_updateChild`,
`Node.keys_updateChild`, `Node.WellFormed.insert`.
-/
import Mathlib.Data.List.Nodup
import Signpost.Proofs.Matcher.Store
import Signpost.Trie.Node

namespace Signpost
namespace Node

variable {H : Type}

/-- The keys of the children, in their order. -/
def keys (n : Node H) : List String := n.children.map (·.key)

/-- The children of a node, the index of their keys and the list of the
patterns among them agree: no two children have the same key, the index tells
the position of each key and of no other, and the patterns are listed by their
positions, in order. -/
structure Coherent (n : Node H) : Prop where
  nodup_keys : n.keys.Nodup
  get?_index : ∀ key position, n.index.get? key = some position ↔ n.keys[position]? = some key
  pairwise_patterns : n.patterns.Pairwise (· < ·)
  mem_patterns : ∀ position, position ∈ n.patterns ↔
    ∃ key, n.keys[position]? = some key ∧ Template.isPattern key = true

/-- A node is within another if it is that node or lies below it. -/
inductive Within : Node H → Node H → Prop
  | refl (n : Node H) : Within n n
  | under {d child n : Node H} : child ∈ n.children → Within d child → Within d n

/-- A route ends at the node or below it. -/
def Leads (n : Node H) : Prop := ∃ d, Within d n ∧ d.handler.isSome = true

/-- A child is one level below its parent, has the matcher of its key, and is
on the way to some route. -/
structure Fits (s : MatcherStore) (n child : Node H) : Prop where
  depth_eq : child.depth = n.depth + 1
  keyed : s.Keyed child.key child.matcher
  leads : child.Leads

/-- At every node of a trie the children agree with what the node keeps about
them, and each of them fits. -/
structure WellFormed (s : MatcherStore) (n : Node H) : Prop where
  coherent : ∀ d, Within d n → d.Coherent
  fits : ∀ d, Within d n → ∀ child ∈ d.children, Fits s d child

/-! ### Children by their keys -/

theorem mem_keys {n : Node H} {key : String} :
    key ∈ n.keys ↔ ∃ child ∈ n.children, child.key = key := by
  simp [keys]

/-- The child under a key is the one child that has it. -/
theorem child?_eq_some_iff {n : Node H} (h : n.Coherent) {key : String} {child : Node H} :
    n.child? key = some child ↔ child ∈ n.children ∧ child.key = key := by
  unfold child?
  constructor
  · intro hc
    obtain ⟨position, hp, hget⟩ := Option.bind_eq_some_iff.mp hc
    have hkey := (h.get?_index key position).mp hp
    rw [keys, List.getElem?_map, hget] at hkey
    exact ⟨List.mem_of_getElem? hget, Option.some.inj hkey⟩
  · rintro ⟨hmem, hkey⟩
    obtain ⟨position, hget⟩ := List.mem_iff_getElem?.mp hmem
    have hp : n.index.get? key = some position := by
      rw [h.get?_index, keys, List.getElem?_map, hget, ← hkey]
      rfl
    rw [hp]
    exact hget

theorem child?_eq_none_iff {n : Node H} (h : n.Coherent) {key : String} :
    n.child? key = none ↔ key ∉ n.keys := by
  constructor
  · intro hnone hmem
    obtain ⟨child, hc, hkey⟩ := mem_keys.mp hmem
    rw [(child?_eq_some_iff h).mpr ⟨hc, hkey⟩] at hnone
    cases hnone
  · intro hnot
    cases hc : n.child? key with
    | none => rfl
    | some child =>
      obtain ⟨hmem, hkey⟩ := (child?_eq_some_iff h).mp hc
      exact absurd (mem_keys.mpr ⟨child, hmem, hkey⟩) hnot

/-- A key that the index does not have is the key of no child. -/
theorem get?_index_eq_none_iff {n : Node H} (h : n.Coherent) {key : String} :
    n.index.get? key = none ↔ key ∉ n.keys := by
  constructor
  · intro hnone hmem
    obtain ⟨position, hp⟩ := List.mem_iff_getElem?.mp hmem
    rw [(h.get?_index key position).mpr hp] at hnone
    cases hnone
  · intro hnot
    cases hp : n.index.get? key with
    | none => rfl
    | some position => exact absurd (List.mem_of_getElem? ((h.get?_index key position).mp hp)) hnot

/-- Coherence looks only at the keys of the children. -/
theorem Coherent.congr {n n' : Node H} (h : n.Coherent) (hkeys : n'.keys = n.keys)
    (hindex : n'.index = n.index) (hpatterns : n'.patterns = n.patterns) : n'.Coherent := by
  refine ⟨?_, ?_, ?_, ?_⟩
  · rw [hkeys]; exact h.nodup_keys
  · rw [hkeys, hindex]; exact h.get?_index
  · rw [hpatterns]; exact h.pairwise_patterns
  · rw [hkeys, hpatterns]; exact h.mem_patterns

theorem coherent_leaf (key : String) (matcher : Option Matcher) (depth : Nat) :
    (leaf key matcher depth : Node H).Coherent := by
  refine ⟨List.nodup_nil, fun key position => ?_, List.Pairwise.nil, fun position => ?_⟩
  · simp [leaf, keys, Table.get?, Table.find]
  · simp [leaf, keys]

/-! ### One child is changed -/

section UpdateChild

variable {n : Node H} {key : String} {matcher : Option Matcher} {change : Node H → Node H}

@[simp] theorem key_updateChild : (n.updateChild key matcher change).key = n.key := by
  unfold updateChild; split <;> rfl

@[simp] theorem matcher_updateChild : (n.updateChild key matcher change).matcher = n.matcher := by
  unfold updateChild; split <;> rfl

@[simp] theorem handler_updateChild : (n.updateChild key matcher change).handler = n.handler := by
  unfold updateChild; split <;> rfl

@[simp] theorem depth_updateChild : (n.updateChild key matcher change).depth = n.depth := by
  unfold updateChild; split <;> rfl

theorem updateChild_of_some {position : Nat} (h : n.index.get? key = some position) :
    n.updateChild key matcher change =
      { n with children := n.children.modify position change } := by
  simp only [updateChild, h]

theorem updateChild_of_none (h : n.index.get? key = none) :
    n.updateChild key matcher change =
      { n with
        children := n.children ++ [change (leaf key matcher (n.depth + 1))]
        index := n.index.insert key n.children.length
        patterns := if matcher.isSome then n.patterns ++ [n.children.length] else n.patterns } := by
  simp only [updateChild, h]

/-- The child that is changed: the one under the key, or a new leaf. -/
def changed (n : Node H) (key : String) (matcher : Option Matcher) : Node H :=
  (n.child? key).getD (leaf key matcher (n.depth + 1))

theorem key_changed (h : n.Coherent) : (n.changed key matcher).key = key := by
  unfold changed
  cases hc : n.child? key with
  | none => rfl
  | some child => exact ((child?_eq_some_iff h).mp hc).2

theorem keys_updateChild (h : n.Coherent) (hchange : ∀ c, (change c).key = c.key) :
    (n.updateChild key matcher change).keys = if key ∈ n.keys then n.keys else n.keys ++ [key] := by
  cases hp : n.index.get? key with
  | none =>
    rw [updateChild_of_none hp, if_neg ((get?_index_eq_none_iff h).mp hp)]
    simp [keys, hchange, leaf]
  | some position =>
    rw [updateChild_of_some hp, if_pos (List.mem_of_getElem? ((h.get?_index key position).mp hp))]
    apply List.ext_getElem?
    intro i
    simp only [keys, List.getElem?_map, List.getElem?_modify]
    by_cases hi : position = i
    · cases n.children[i]? <;> simp [hi, hchange]
    · simp [hi]

/-- The children after a change are those under other keys, and the changed
one. -/
theorem mem_children_updateChild (h : n.Coherent) (c : Node H) :
    c ∈ (n.updateChild key matcher change).children ↔
      (c ∈ n.children ∧ c.key ≠ key) ∨ c = change (n.changed key matcher) := by
  cases hp : n.index.get? key with
  | none =>
    have hnot := (get?_index_eq_none_iff h).mp hp
    have hne : ∀ c ∈ n.children, c.key ≠ key := fun c hc he => hnot (mem_keys.mpr ⟨c, hc, he⟩)
    have hch : n.changed key matcher = leaf key matcher (n.depth + 1) := by
      rw [changed, (child?_eq_none_iff h).mpr hnot]; rfl
    rw [updateChild_of_none hp, hch]
    simp only [List.mem_append, List.mem_singleton]
    exact or_congr_left ⟨fun hc => ⟨hc, hne c hc⟩, And.left⟩
  | some position =>
    have hkey := (h.get?_index key position).mp hp
    rw [keys, List.getElem?_map] at hkey
    obtain ⟨child, hget, hck⟩ := Option.map_eq_some_iff.mp hkey
    have hch : n.changed key matcher = child := by
      rw [changed, (child?_eq_some_iff h).mpr ⟨List.mem_of_getElem? hget, hck⟩]; rfl
    rw [updateChild_of_some hp, hch]
    have hsame : (n.children.modify position change)[position]? = some (change child) := by
      rw [List.getElem?_modify_eq, hget]; rfl
    have hother : ∀ i, position ≠ i → (n.children.modify position change)[i]? = n.children[i]? :=
      fun i hi => List.getElem?_modify_ne change n.children hi
    simp only [List.mem_iff_getElem?]
    constructor
    · rintro ⟨i, hi⟩
      by_cases hpi : position = i
      · subst hpi
        rw [hsame] at hi
        exact Or.inr (Option.some.inj hi).symm
      · rw [hother i hpi] at hi
        refine Or.inl ⟨⟨i, hi⟩, fun he => hpi ?_⟩
        have hget' : n.keys[i]? = some key := by rw [keys, List.getElem?_map, hi, ← he]; rfl
        have hi' := (h.get?_index key i).mpr hget'
        rw [hp] at hi'
        exact Option.some.inj hi'
    · rintro (⟨⟨i, hi⟩, hne⟩ | rfl)
      · refine ⟨i, ?_⟩
        have hpi : position ≠ i := by
          rintro rfl
          rw [hget] at hi
          cases hi
          exact hne hck
        rw [hother i hpi, hi]
      · exact ⟨position, hsame⟩

theorem get?_insert_iff (h : n.Coherent) (hnot : key ∉ n.keys) (other : String) (position : Nat) :
    (n.index.insert key n.keys.length).get? other = some position ↔
      (n.keys ++ [key])[position]? = some other := by
  by_cases hk : other = key
  · subst hk
    rw [Table.get?_insert_self, Option.some.injEq]
    constructor
    · rintro rfl
      simp
    · intro hget
      rcases Nat.lt_trichotomy position n.keys.length with hl | hl | hl
      · rw [List.getElem?_append_left hl] at hget
        exact absurd (List.mem_of_getElem? hget) hnot
      · exact hl.symm
      · have hlen := (List.getElem?_eq_some_iff.mp hget).1
        simp at hlen
        omega
  · rw [Table.get?_insert_ne _ hk, h.get?_index]
    constructor
    · intro hget
      rw [List.getElem?_append_left (List.getElem?_eq_some_iff.mp hget).1, hget]
    · intro hget
      by_cases hl : position < n.keys.length
      · rwa [List.getElem?_append_left hl] at hget
      · rw [List.getElem?_append_right (Nat.le_of_not_lt hl)] at hget
        exact absurd (List.mem_singleton.mp (List.mem_of_getElem? hget)) hk

/-- Changing a child keeps the children and what the node keeps about them in
agreement, if the key of a new child is a pattern just when it has a matcher. -/
theorem Coherent.updateChild (h : n.Coherent) (hchange : ∀ c, (change c).key = c.key)
    (hm : matcher.isSome = Template.isPattern key) :
    (n.updateChild key matcher change).Coherent := by
  have hkeys : (n.updateChild key matcher change).keys = _ := keys_updateChild h hchange
  cases hp : n.index.get? key with
  | some position =>
    have hmem := List.mem_of_getElem? ((h.get?_index key position).mp hp)
    rw [if_pos hmem] at hkeys
    exact h.congr hkeys (by rw [updateChild_of_some hp]) (by rw [updateChild_of_some hp])
  | none =>
    have hnot := (get?_index_eq_none_iff h).mp hp
    have hlen : n.children.length = n.keys.length := by rw [keys, List.length_map]
    rw [if_neg hnot] at hkeys
    have hlt : ∀ position ∈ n.patterns, position < n.keys.length := by
      intro position hpos
      obtain ⟨k, hk, -⟩ := (h.mem_patterns position).mp hpos
      exact (List.getElem?_eq_some_iff.mp hk).1
    refine ⟨?_, fun other position => ?_, ?_, fun position => ?_⟩
    · rw [hkeys, List.nodup_append]
      exact ⟨h.nodup_keys, List.nodup_singleton key, fun a ha b hb hab =>
        hnot (List.mem_singleton.mp hb ▸ hab ▸ ha)⟩
    · rw [hkeys, updateChild_of_none hp, hlen]
      exact get?_insert_iff h hnot other position
    · rw [updateChild_of_none hp, hlen]
      split
      · rw [List.pairwise_append]
        exact ⟨h.pairwise_patterns, List.pairwise_singleton _ _, fun a ha b hb =>
          List.mem_singleton.mp hb ▸ hlt a ha⟩
      · exact h.pairwise_patterns
    · rw [hkeys, updateChild_of_none hp, hlen, hm]
      have hold : position < n.keys.length → (n.keys ++ [key])[position]? = n.keys[position]? :=
        fun hl => List.getElem?_append_left hl
      rcases Nat.lt_trichotomy position n.keys.length with hl | rfl | hl
      · rw [hold hl, ← h.mem_patterns position]
        split <;> simp [Nat.ne_of_lt hl]
      · have hout : n.keys.length ∉ n.patterns := fun hmem => Nat.lt_irrefl _ (hlt _ hmem)
        by_cases hpat : Template.isPattern key = true <;> simp [hpat, hout]
      · have hout : position ∉ n.patterns := fun hmem => Nat.lt_asymm hl (hlt _ hmem)
        have hnone : (n.keys ++ [key])[position]? = none := by
          rw [List.getElem?_eq_none_iff, List.length_append]
          exact hl
        rw [hnone]
        split <;> simp [hout, Nat.ne_of_gt hl]

end UpdateChild

/-! ### A route is inserted -/

@[simp] theorem key_insert (handler : H) (keys : List (String × Option Matcher)) (n : Node H) :
    (n.insert handler keys).key = n.key := by
  cases keys <;> simp [insert]

@[simp] theorem matcher_insert (handler : H) (keys : List (String × Option Matcher)) (n : Node H) :
    (n.insert handler keys).matcher = n.matcher := by
  cases keys <;> simp [insert]

@[simp] theorem depth_insert (handler : H) (keys : List (String × Option Matcher)) (n : Node H) :
    (n.insert handler keys).depth = n.depth := by
  cases keys <;> simp [insert]

theorem Leads.of_child {n child : Node H} (hmem : child ∈ n.children) (h : child.Leads) : n.Leads := by
  obtain ⟨d, hd, hh⟩ := h
  exact ⟨d, Within.under hmem hd, hh⟩

/-- A trie is well formed if it is so at its root and each subtrie is. -/
theorem WellFormed.of_children {s : MatcherStore} {n : Node H} (h : n.Coherent)
    (hfits : ∀ child ∈ n.children, Fits s n child)
    (hwell : ∀ child ∈ n.children, child.WellFormed s) : n.WellFormed s := by
  constructor
  · intro d hd
    cases hd with
    | refl => exact h
    | under hmem hd => exact (hwell _ hmem).coherent d hd
  · intro d hd
    cases hd with
    | refl => exact hfits
    | under hmem hd => exact (hwell _ hmem).fits d hd

theorem WellFormed.root_coherent {s : MatcherStore} {n : Node H} (h : n.WellFormed s) : n.Coherent :=
  h.coherent n (Within.refl n)

theorem WellFormed.child {s : MatcherStore} {n child : Node H} (h : n.WellFormed s)
    (hmem : child ∈ n.children) : Fits s n child ∧ child.WellFormed s :=
  ⟨h.fits n (Within.refl n) child hmem,
    ⟨fun d hd => h.coherent d (Within.under hmem hd), fun d hd => h.fits d (Within.under hmem hd)⟩⟩

theorem WellFormed.mono {s t : MatcherStore} (hext : t.Extends s) {n : Node H}
    (h : n.WellFormed s) : n.WellFormed t :=
  ⟨h.coherent, fun d hd child hmem =>
    have hf := h.fits d hd child hmem
    ⟨hf.depth_eq, hf.keyed.mono hext, hf.leads⟩⟩

theorem wellFormed_leaf (s : MatcherStore) (key : String) (matcher : Option Matcher) (depth : Nat) :
    (leaf key matcher depth : Node H).WellFormed s :=
  WellFormed.of_children (coherent_leaf key matcher depth)
    (fun _ hmem => nomatch hmem) (fun _ hmem => nomatch hmem)

/-- The child that an insertion changes is well formed, and it has the depth
and the matcher of a child under its key. -/
theorem WellFormed.changed {s : MatcherStore} {n : Node H} (h : n.WellFormed s) {key : String}
    {matcher : Option Matcher} (hkeyed : s.Keyed key matcher) :
    (n.changed key matcher).WellFormed s ∧ (n.changed key matcher).depth = n.depth + 1 ∧
      s.Keyed key (n.changed key matcher).matcher := by
  unfold Node.changed
  cases hc : n.child? key with
  | none => exact ⟨wellFormed_leaf s key matcher _, rfl, hkeyed⟩
  | some child =>
    obtain ⟨hmem, rfl⟩ := (child?_eq_some_iff h.root_coherent).mp hc
    obtain ⟨hfits, hwell⟩ := h.child hmem
    exact ⟨hwell, hfits.depth_eq, hfits.keyed⟩

/-- An insertion keeps a trie well formed, and then a route ends below the
node into which it was inserted. -/
theorem WellFormed.insert {s : MatcherStore} (handler : H) :
    ∀ (keys : List (String × Option Matcher)) {n : Node H}, n.WellFormed s →
      (∀ key ∈ keys, s.Keyed key.1 key.2) →
      (n.insert handler keys).WellFormed s ∧ (n.insert handler keys).Leads
  | [], n, h, _ => by
    refine ⟨WellFormed.of_children (h.root_coherent.congr rfl rfl rfl) (fun child hmem => ?_)
      fun child hmem => (h.child hmem).2, ⟨_, Within.refl _, rfl⟩⟩
    have hf := (h.child hmem).1
    exact ⟨hf.depth_eq, hf.keyed, hf.leads⟩
  | (key, matcher) :: rest, n, h, hkeys => by
    have hkeyed : s.Keyed key matcher := hkeys _ List.mem_cons_self
    have hrest : ∀ k ∈ rest, s.Keyed k.1 k.2 := fun k hk => hkeys k (List.mem_cons_of_mem _ hk)
    have hcoh := h.root_coherent
    obtain ⟨hwell, hdepth, hmatcher⟩ := h.changed hkeyed
    obtain ⟨hwell', hleads⟩ := WellFormed.insert handler rest hwell hrest
    have hchange : ∀ c : Node H, (Node.insert handler rest c).key = c.key := key_insert handler rest
    -- every child of the new node is an old one or the one that was changed
    have hchild : ∀ c ∈ (n.updateChild key matcher (Node.insert handler rest)).children,
        Fits s (n.updateChild key matcher (Node.insert handler rest)) c ∧ c.WellFormed s := by
      intro c hc
      rcases (mem_children_updateChild hcoh c).mp hc with ⟨hmem, -⟩ | rfl
      · obtain ⟨hf, hw⟩ := h.child hmem
        exact ⟨⟨by rw [depth_updateChild]; exact hf.depth_eq, hf.keyed, hf.leads⟩, hw⟩
      · refine ⟨⟨?_, ?_, hleads⟩, hwell'⟩
        · rw [depth_insert, depth_updateChild, hdepth]
        · rw [key_insert, matcher_insert, key_changed hcoh]
          exact hmatcher
    have hnew : Node.insert handler rest (n.changed key matcher) ∈
        (n.updateChild key matcher (Node.insert handler rest)).children :=
      (mem_children_updateChild hcoh _).mpr (Or.inr rfl)
    exact ⟨WellFormed.of_children (hcoh.updateChild hchange hkeyed.isSome_eq)
      (fun c hc => (hchild c hc).1) fun c hc => (hchild c hc).2, hleads.of_child hnew⟩

end Node
end Signpost
