/-
# A trie is what its entries make of it

The entries of a trie, inserted in their order into a node that has nothing
below it, give the trie back (`Node.plant_entries`): the children come in the
order in which they were, for every child has an entry below it and all of them
stand before those of the next. The entries below one child make one change of
that child (`plant_under`); the first of them adds it (`updateChild_assemble`).

The index of a node is a table, which remembers in what order its keys came in.
They come in with the children (`Node.Indexed`), so a node is known by its
children and its own fields (`eq_assemble`).

Key definitions: `Node.plant`, `Node.Indexed`, `Node.assemble`.
Key theorems: `Node.updateChild_updateChild`, `Node.plant_under`,
`Node.updateChild_assemble`, `Node.Indexed.insert`, `Node.plant_entries`.
-/
import Signpost.Proofs.Trie.Descent
import Signpost.Proofs.Trie.Entries

namespace Signpost

-- what a segment is, is never looked into here; unfolding it is slow
attribute [local irreducible] Template.isPattern

variable {H : Type}

namespace Node

/-! ### Insertions below one child -/

/-- Inserts some entries, one after the other. -/
def plant : List (Entry H) → Node H → Node H
  | [], n => n
  | e :: es, n => plant es (n.insert e.handler e.keys)

theorem plant_append : ∀ (es es' : List (Entry H)) (n : Node H),
    plant (es ++ es') n = plant es' (plant es n)
  | [], _, _ => rfl
  | _ :: es, es', _ => plant_append es es' _

@[simp] theorem key_plant : ∀ (es : List (Entry H)) (n : Node H), (plant es n).key = n.key
  | [], _ => rfl
  | e :: es, n => by rw [plant, key_plant es, key_insert]

/-- Two changes of one child are one change. -/
theorem updateChild_updateChild (n : Node H) (key : String) (matcher matcher' : Option Matcher)
    (change change' : Node H → Node H) :
    (n.updateChild key matcher change).updateChild key matcher' change' =
      n.updateChild key matcher (change' ∘ change) := by
  cases hp : n.index.get? key with
  | some position =>
    have hp' : (n.updateChild key matcher change).index.get? key = some position := by
      rw [updateChild_of_some hp, hp]
    rw [updateChild_of_some hp', updateChild_of_some hp, updateChild_of_some hp,
      List.modify_modify_eq]
  | none =>
    have hp' : (n.updateChild key matcher change).index.get? key = some n.children.length := by
      rw [updateChild_of_none hp, Table.get?_insert_self]
    -- the child that was added stands last
    have hlast : (n.children ++ [change (leaf key matcher (n.depth + 1))]).modify
        n.children.length change' = n.children ++ [change' (change (leaf key matcher (n.depth + 1)))] :=
      List.modifyTailIdx_add _ 0 n.children _
    rw [updateChild_of_some hp', updateChild_of_none hp, updateChild_of_none hp, hlast]
    rfl

/-- The entries below one child make one change of it. -/
theorem plant_under (key : String) (matcher : Option Matcher) : ∀ {es : List (Entry H)}, es ≠ [] →
    ∀ n : Node H, plant (es.map (·.under (key, matcher))) n = n.updateChild key matcher (plant es)
  | [e], _, _ => rfl
  | e :: e' :: es, _, n => by
    have ih := plant_under key matcher (List.cons_ne_nil e' es)
      (n.updateChild key matcher (Node.insert e.handler e.keys))
    rw [updateChild_updateChild] at ih
    exact ih

/-! ### Nodes by their children -/

/-- The node with the given fields and children, and what it keeps about
these. -/
def assemble (key : String) (matcher : Option Matcher) (handler : Option H) (depth : Nat)
    (children : List (Node H)) : Node H where
  key := key
  matcher := matcher
  handler := handler
  depth := depth
  children := children
  index := ⟨(children.map (·.key)).zipIdx⟩
  patterns := children.findIdxs fun child => Template.isPattern child.key

/-- At every node of the trie the keys came into the index with the children. -/
def Indexed (n : Node H) : Prop := ∀ d, Within d n → d.index.entries = d.keys.zipIdx

theorem Indexed.of_children {n : Node H} (hindex : n.index.entries = n.keys.zipIdx)
    (hchildren : ∀ child ∈ n.children, child.Indexed) : n.Indexed := by
  intro d hd
  cases hd with
  | refl => exact hindex
  | under hmem hd => exact hchildren _ hmem d hd

theorem Indexed.child {n child : Node H} (h : n.Indexed) (hmem : child ∈ n.children) :
    child.Indexed := fun d hd => h d (Within.under hmem hd)

theorem indexed_leaf (key : String) (matcher : Option Matcher) (depth : Nat) :
    (leaf key matcher depth : Node H).Indexed :=
  Indexed.of_children rfl fun _ hmem => nomatch hmem

theorem entries_index_updateChild {n : Node H} (h : n.Coherent)
    (hindex : n.index.entries = n.keys.zipIdx) {key : String} {matcher : Option Matcher}
    {change : Node H → Node H} (hchange : ∀ c, (change c).key = c.key) :
    (n.updateChild key matcher change).index.entries =
      (n.updateChild key matcher change).keys.zipIdx := by
  have hkeys : (n.updateChild key matcher change).keys = _ := keys_updateChild h hchange
  cases hp : n.index.get? key with
  | some position =>
    rw [if_pos (List.mem_of_getElem? ((h.get?_index key position).mp hp))] at hkeys
    rw [hkeys, updateChild_of_some hp, hindex]
  | none =>
    rw [if_neg ((get?_index_eq_none_iff h).mp hp)] at hkeys
    have hlen : n.children.length = n.keys.length := by rw [keys, List.length_map]
    rw [hkeys, updateChild_of_none hp, List.zipIdx_append, ← hindex, hlen]
    simpa [Table.insert] using Table.put_of_find_none n.keys.length hp

/-- An insertion keeps every index in the order of the children. -/
theorem Indexed.insert {s : MatcherStore} (handler : H) :
    ∀ (keys : List (String × Option Matcher)) {n : Node H}, n.WellFormed s →
      (∀ key ∈ keys, s.Keyed key.1 key.2) → n.Indexed → (n.insert handler keys).Indexed
  | [], n, _, _, hn => Indexed.of_children (hn n (Within.refl n)) fun _ hmem => hn.child hmem
  | (key, matcher) :: rest, n, h, hkeys, hn => by
    have hkeyed : s.Keyed key matcher := hkeys _ List.mem_cons_self
    have hrest : ∀ k ∈ rest, s.Keyed k.1 k.2 := fun k hk => hkeys k (List.mem_cons_of_mem _ hk)
    have hcoh := h.root_coherent
    have hchanged : (n.changed key matcher).Indexed := by
      unfold changed
      cases hc : n.child? key with
      | none => exact indexed_leaf key matcher _
      | some child => exact hn.child (mem_of_child? hc)
    refine Indexed.of_children (entries_index_updateChild hcoh (hn n (Within.refl n))
      (key_insert handler rest)) fun c hc => ?_
    rcases (mem_children_updateChild hcoh c).mp hc with ⟨hmem, -⟩ | rfl
    · exact hn.child hmem
    · exact Indexed.insert handler rest (h.changed hkeyed).1 hrest hchanged

theorem eq_assemble {n : Node H} (h : n.Coherent) (hindex : n.index.entries = n.keys.zipIdx) :
    n = assemble n.key n.matcher n.handler n.depth n.children := by
  have hpatterns := h.patterns_eq
  obtain ⟨key, matcher, handler, depth, children, ⟨entries⟩, patterns⟩ := n
  simp only at hindex hpatterns
  rw [hindex, hpatterns]
  rfl

/-! ### All entries -/

section Assemble

variable {key : String} {matcher : Option Matcher} {own : Option H} {depth : Nat}

/-- A change under a new key adds a child. -/
theorem updateChild_assemble {before : List (Node H)} {template : String}
    {compiled : Option Matcher} {change : Node H → Node H}
    (hnew : template ∉ before.map (·.key)) (hchange : ∀ c, (change c).key = c.key)
    (hcompiled : compiled.isSome = Template.isPattern template) :
    (assemble key matcher own depth before).updateChild template compiled change =
      assemble key matcher own depth (before ++ [change (leaf template compiled (depth + 1))]) := by
  have hnone : (assemble key matcher own depth before).index.get? template = none := by
    rw [← Option.not_isSome_iff_eq_none, Table.isSome_get?_iff]
    simpa [assemble, Table.keys, List.zipIdx_map_fst] using hnew
  have hindex : (⟨(before.map (·.key)).zipIdx⟩ : Table Nat).insert template before.length =
      ⟨(before.map (·.key)).zipIdx ++ [(template, before.length)]⟩ :=
    congrArg Table.mk (Table.put_of_find_none before.length hnone)
  have hkey : (change (leaf template compiled (depth + 1))).key = template := hchange _
  rw [updateChild_of_none hnone]
  simp only [assemble, hindex, hcompiled, List.map_append, List.map_cons, List.map_nil, hkey,
    List.zipIdx_append, List.length_map, List.findIdxs_append]
  cases hp : Template.isPattern template <;> simp [hkey, hp]

/-- The entries below some children, planted after those of the children before
them, add these children. -/
theorem plant_flatMap : ∀ (children before : List (Node H)),
    ((before ++ children).map (·.key)).Nodup →
    (∀ child ∈ children, child.depth = depth + 1 ∧
      child.matcher.isSome = Template.isPattern child.key ∧ child.entries ≠ [] ∧
      plant child.entries (leaf child.key child.matcher child.depth) = child) →
    plant (children.flatMap fun child => child.entries.map (·.under (child.key, child.matcher)))
        (assemble key matcher own depth before) =
      assemble key matcher own depth (before ++ children)
  | [], before, _, _ => by
    rw [List.append_nil]
    rfl
  | child :: rest, before, hkeys, hchildren => by
    obtain ⟨hdepth, hmatcher, hentries, hplant⟩ := hchildren child List.mem_cons_self
    have hnew : child.key ∉ before.map (·.key) := by
      rw [List.map_append, List.nodup_append] at hkeys
      exact fun hmem => hkeys.2.2 _ hmem _ List.mem_cons_self rfl
    rw [List.flatMap_cons, plant_append, plant_under child.key child.matcher hentries,
      updateChild_assemble hnew (key_plant _) hmatcher, ← hdepth, hplant, List.append_cons before child rest]
    rw [List.append_cons before child rest] at hkeys
    exact plant_flatMap rest (before ++ [child]) hkeys
      fun c hc => hchildren c (List.mem_cons_of_mem _ hc)

end Assemble

/-- **A trie is what its entries make of it.** Inserted in their order into a
node with nothing below it, they give the trie back. -/
theorem plant_entries {s : MatcherStore} (n : Node H) : n.WellFormed s → n.Indexed →
    plant n.entries (leaf n.key n.matcher n.depth) = n := by
  induction n using inductionOn with
  | node n ih =>
    intro h hindex
    have hown : plant (n.handler.toList.map (⟨[], ·⟩)) (leaf n.key n.matcher n.depth) =
        assemble n.key n.matcher n.handler n.depth [] := by
      cases n.handler <;> rfl
    have hchildren : ∀ child ∈ n.children, child.depth = n.depth + 1 ∧
        child.matcher.isSome = Template.isPattern child.key ∧ child.entries ≠ [] ∧
        plant child.entries (leaf child.key child.matcher child.depth) = child := by
      intro child hmem
      obtain ⟨hfits, hwell⟩ := h.child hmem
      exact ⟨hfits.depth_eq, hfits.keyed.isSome_eq, hfits.leads.entries_ne_nil,
        ih child hmem hwell (hindex.child hmem)⟩
    calc plant n.entries (leaf n.key n.matcher n.depth)
        = plant (n.children.flatMap fun child =>
            child.entries.map (·.under (child.key, child.matcher)))
            (assemble n.key n.matcher n.handler n.depth []) := by
          rw [entries_eq, plant_append, hown]
      _ = assemble n.key n.matcher n.handler n.depth n.children :=
          plant_flatMap n.children [] h.root_coherent.nodup_keys hchildren
      _ = n := (eq_assemble h.root_coherent (hindex n (Within.refl n))).symm

end Node
end Signpost
