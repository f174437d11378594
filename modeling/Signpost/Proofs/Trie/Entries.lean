/-
# The entries of a trie

A trie binds handlers to lists of keys. `Node.handlerAt` reads what is bound to
a list; after an insertion it reads the new handler at the keys of the route
and elsewhere what it read before (`handlerAt_insert`). `Node.entries` lists
all that is bound, depth first, each handler with the keys that lead to it and
their matchers. In a well-formed trie the entries are what can be read
(`handlerAt_eq_some_iff`), no two of them have the same segments
(`nodup_segments_entries`), every node is on the way to one of them
(`exists_mem_entries_of_within`), and the listing of the routes is the list of
the entries, each in one line (`listing_eq`).

Key definitions: `Node.handlerAt`, `Entry`, `Node.entries`.
Key theorems: `Node.handlerAt_insert`, `Node.handlerAt_eq_some_iff`,
`Node.nodup_segments_entries`, `Node.exists_mem_entries_of_within`,
`Node.listing_eq`.
-/
import Signpost.Proofs.Trie.WellFormed
import Signpost.Trie.Listing

namespace Signpost

-- what a segment is, is never looked into here; unfolding it is slow
attribute [local irreducible] Template.isPattern

variable {H : Type}

namespace Node

/-- What holds of a node if it holds of its children holds of all nodes. -/
@[elab_as_elim]
theorem inductionOn {motive : Node H → Prop} (n : Node H)
    (node : ∀ n : Node H, (∀ child ∈ n.children, motive child) → motive n) : motive n :=
  node n fun child _hmem => inductionOn child node
termination_by sizeOf n
decreasing_by
  have hlt := List.sizeOf_lt_of_mem _hmem
  cases n
  simp only [mk.sizeOf_spec] at hlt ⊢
  omega

/-! ### Reading after an insertion -/

/-- The handler of the node that the keys lead to. -/
def handlerAt (n : Node H) (keys : List String) : Option H := (n.at? keys).bind (·.handler)

@[simp] theorem handlerAt_nil (n : Node H) : n.handlerAt [] = n.handler := rfl

theorem handlerAt_cons (n : Node H) (key : String) (rest : List String) :
    n.handlerAt (key :: rest) = (n.child? key).bind (·.handlerAt rest) := by
  rw [handlerAt, at?, Option.bind_assoc]
  rfl

theorem handlerAt_leaf (key : String) (matcher : Option Matcher) (depth : Nat) :
    ∀ keys : List String, (leaf key matcher depth : Node H).handlerAt keys = none
  | [] => rfl
  | _ :: _ => rfl

/-- What an insertion changes is read as it was, if it was there. -/
theorem handlerAt_changed (n : Node H) (key : String) (matcher : Option Matcher)
    (rest : List String) :
    (n.changed key matcher).handlerAt rest = (n.child? key).bind (·.handlerAt rest) := by
  unfold changed
  cases n.child? key with
  | none => exact handlerAt_leaf ..
  | some child => rfl

theorem child?_updateChild {n : Node H} {key : String} {matcher : Option Matcher}
    {change : Node H → Node H} (h : n.Coherent) (hchange : ∀ c, (change c).key = c.key)
    (hm : matcher.isSome = Template.isPattern key) (other : String) :
    (n.updateChild key matcher change).child? other =
      if other = key then some (change (n.changed key matcher)) else n.child? other := by
  have h' : (n.updateChild key matcher change).Coherent := h.updateChild hchange hm
  have hkey : (change (n.changed key matcher)).key = key := by rw [hchange, key_changed h]
  apply Option.ext
  intro c
  rw [child?_eq_some_iff h', mem_children_updateChild h]
  split
  case isTrue heq =>
    subst heq
    rw [Option.some.injEq]
    constructor
    · rintro ⟨⟨-, hne⟩ | hc, hk⟩
      · exact absurd hk hne
      · exact hc.symm
    · rintro rfl
      exact ⟨Or.inr rfl, hkey⟩
  case isFalse hne =>
    rw [child?_eq_some_iff h]
    constructor
    · rintro ⟨⟨hmem, -⟩ | rfl, hk⟩
      · exact ⟨hmem, hk⟩
      · exact absurd (hk.symm.trans hkey) hne
    · rintro ⟨hmem, hk⟩
      exact ⟨Or.inl ⟨hmem, fun he => hne (hk.symm.trans he)⟩, hk⟩

/-- **Reading after an insertion.** At the keys of the route the new handler is
read, at all others what was read before. -/
theorem handlerAt_insert {s : MatcherStore} (handler : H) :
    ∀ (keys : List (String × Option Matcher)) {n : Node H}, n.WellFormed s →
      (∀ key ∈ keys, s.Keyed key.1 key.2) → ∀ segments : List String,
      (n.insert handler keys).handlerAt segments =
        if segments = keys.map (·.1) then some handler else n.handlerAt segments
  | [], _, _, _, [] => rfl
  | [], _, _, _, _ :: _ => rfl
  | (_, _) :: rest, n, _, _, [] => by
    rw [insert, handlerAt_nil, handler_updateChild]
    rfl
  | (key, matcher) :: rest, n, h, hkeys, segment :: segments => by
    have hkeyed : s.Keyed key matcher := hkeys _ List.mem_cons_self
    have hrest : ∀ k ∈ rest, s.Keyed k.1 k.2 := fun k hk => hkeys k (List.mem_cons_of_mem _ hk)
    rw [insert, handlerAt_cons, child?_updateChild h.root_coherent (key_insert handler rest)
      hkeyed.isSome_eq, List.map_cons]
    by_cases heq : segment = key
    · subst heq
      rw [if_pos rfl, Option.bind_some, handlerAt_insert handler rest (h.changed hkeyed).1 hrest,
        handlerAt_changed, handlerAt_cons]
      simp only [List.cons.injEq, true_and]
    · rw [if_neg heq, handlerAt_cons, if_neg fun h => heq (List.cons.inj h).1]

end Node

/-! ### Entries -/

/-- A handler with the keys that lead to it. -/
structure Entry (H : Type) where
  keys : List (String × Option Matcher)
  handler : H

namespace Entry

/-- The segments of the route. -/
def segments (e : Entry H) : List String := e.keys.map (·.1)

/-- The entry as it is found one level above. -/
def under (key : String × Option Matcher) (e : Entry H) : Entry H := ⟨key :: e.keys, e.handler⟩

@[simp] theorem segments_under (key : String × Option Matcher) (e : Entry H) :
    (e.under key).segments = key.1 :: e.segments := rfl

end Entry

namespace Node

mutual

/-- What is bound at a node and below it, depth first. -/
def entries : Node H → List (Entry H)
  | .mk _ _ handler _ children _ _ => handler.toList.map (⟨[], ·⟩) ++ entriesAll children
termination_by structural n => n

/-- What is bound at some nodes and below them, as it is found at their
parent. -/
def entriesAll : List (Node H) → List (Entry H)
  | [] => []
  | child :: rest => child.entries.map (·.under (child.key, child.matcher)) ++ entriesAll rest
termination_by structural nodes => nodes

end

theorem entriesAll_eq : ∀ nodes : List (Node H), entriesAll nodes =
    nodes.flatMap fun child => child.entries.map (·.under (child.key, child.matcher))
  | [] => rfl
  | child :: rest => by rw [entriesAll, entriesAll_eq rest, List.flatMap_cons]

theorem entries_eq (n : Node H) : n.entries = n.handler.toList.map (⟨[], ·⟩) ++
    n.children.flatMap fun child => child.entries.map (·.under (child.key, child.matcher)) := by
  cases n
  rw [entries, entriesAll_eq]

/-- An entry is that of the node itself or comes from a child. -/
theorem mem_entries {n : Node H} {e : Entry H} : e ∈ n.entries ↔
    (∃ handler, n.handler = some handler ∧ e = ⟨[], handler⟩) ∨
      ∃ child ∈ n.children, ∃ e' ∈ child.entries, e = e'.under (child.key, child.matcher) := by
  rw [entries_eq]
  simp only [List.mem_append, List.mem_map, Option.mem_toList, List.mem_flatMap, eq_comm (a := e)]

/-- **The entries of a trie are what can be read.** -/
theorem handlerAt_eq_some_iff {s : MatcherStore} {handler : H} :
    ∀ {segments : List String} {n : Node H}, n.WellFormed s →
      (n.handlerAt segments = some handler ↔
        ∃ e ∈ n.entries, e.segments = segments ∧ e.handler = handler)
  | [], n, h => by
    rw [handlerAt_nil]
    constructor
    · intro hn
      exact ⟨⟨[], handler⟩, mem_entries.mpr (Or.inl ⟨handler, hn, rfl⟩), rfl, rfl⟩
    · rintro ⟨e, he, hsegments, rfl⟩
      rcases mem_entries.mp he with ⟨handler, hn, rfl⟩ | ⟨child, -, e', -, rfl⟩
      · exact hn
      · cases hsegments
  | key :: rest, n, h => by
    rw [handlerAt_cons, Option.bind_eq_some_iff]
    constructor
    · rintro ⟨child, hchild, hread⟩
      obtain ⟨hmem, rfl⟩ := (child?_eq_some_iff h.root_coherent).mp hchild
      obtain ⟨e, he, rfl, rfl⟩ := (handlerAt_eq_some_iff (h.child hmem).2).mp hread
      exact ⟨_, mem_entries.mpr (Or.inr ⟨child, hmem, e, he, rfl⟩), rfl, rfl⟩
    · rintro ⟨e, he, hsegments, rfl⟩
      rcases mem_entries.mp he with ⟨handler, -, rfl⟩ | ⟨child, hmem, e', he', rfl⟩
      · cases hsegments
      · obtain ⟨rfl, rfl⟩ := List.cons.inj hsegments
        exact ⟨child, (child?_eq_some_iff h.root_coherent).mpr ⟨hmem, rfl⟩,
          (handlerAt_eq_some_iff (h.child hmem).2).mpr ⟨e', he', rfl, rfl⟩⟩

theorem keyed_of_mem_entries {s : MatcherStore} (n : Node H) : n.WellFormed s →
    ∀ e ∈ n.entries, ∀ key ∈ e.keys, s.Keyed key.1 key.2 := by
  induction n using inductionOn with
  | node n ih =>
    intro h e he key hkey
    rcases mem_entries.mp he with ⟨handler, -, rfl⟩ | ⟨child, hmem, e', he', rfl⟩
    · cases hkey
    · obtain ⟨hfits, hwell⟩ := h.child hmem
      rcases List.mem_cons.mp hkey with rfl | hkey
      · exact hfits.keyed
      · exact ih child hmem hwell e' he' key hkey

theorem nodup_segments_entries {s : MatcherStore} (n : Node H) :
    n.WellFormed s → (n.entries.map Entry.segments).Nodup := by
  induction n using inductionOn with
  | node n ih =>
    intro h
    have hkeys : n.children.Pairwise fun a b => a.key ≠ b.key :=
      List.pairwise_map.mp h.root_coherent.nodup_keys
    rw [entries_eq, List.map_append, List.nodup_append, List.map_flatMap]
    refine ⟨?_, ?_, ?_⟩
    · cases n.handler <;> simp
    · rw [List.nodup_flatMap]
      constructor
      · -- below one child the segments differ behind its key
        intro child hmem
        have hchild := (ih child hmem (h.child hmem).2).map (List.cons_injective (a := child.key))
        rwa [List.map_map] at hchild ⊢
      · refine hkeys.imp fun {a b} hne => List.disjoint_left.mpr fun segments ha hb => hne ?_
        simp only [List.map_map, List.mem_map, Function.comp_apply, Entry.segments_under] at ha hb
        obtain ⟨e, -, rfl⟩ := ha
        obtain ⟨e', -, heq⟩ := hb
        exact (List.cons.inj heq).1.symm
    · -- the node's own entry has no segments
      intro segments hown other hbelow heq
      subst heq
      simp only [List.map_map, List.mem_map, Function.comp_apply, Entry.segments,
        List.mem_flatMap] at hown hbelow
      obtain ⟨-, -, rfl⟩ := hown
      obtain ⟨child, -, e, -, hnil⟩ := hbelow
      cases hnil

theorem mem_entries_of_within {d n : Node H} (hd : Within d n) {e : Entry H} (he : e ∈ d.entries) :
    ∃ e' ∈ n.entries, ∃ keys, e'.keys = keys ++ e.keys := by
  induction hd with
  | refl => exact ⟨e, he, [], rfl⟩
  | @under child n hmem _ ih =>
    obtain ⟨e', he', keys, hkeys⟩ := ih
    refine ⟨_, mem_entries.mpr (Or.inr ⟨child, hmem, e', he', rfl⟩),
      (child.key, child.matcher) :: keys, ?_⟩
    rw [Entry.under, hkeys]
    rfl

theorem Leads.entries_ne_nil {n : Node H} (h : n.Leads) : n.entries ≠ [] := by
  obtain ⟨d, hd, hhandler⟩ := h
  obtain ⟨handler, hhandler⟩ := Option.isSome_iff_exists.mp hhandler
  obtain ⟨e, he, -⟩ := mem_entries_of_within hd (mem_entries.mpr (Or.inl ⟨handler, hhandler, rfl⟩))
  exact List.ne_nil_of_mem he

theorem exists_mem_entries_of_within {s : MatcherStore} {n d child : Node H} (h : n.WellFormed s)
    (hd : Within d n) (hmem : child ∈ d.children) : ∃ e ∈ n.entries, child.key ∈ e.segments := by
  obtain ⟨e, he⟩ := List.exists_mem_of_ne_nil _ (h.fits d hd child hmem).leads.entries_ne_nil
  obtain ⟨e', he', keys, hkeys⟩ :=
    mem_entries_of_within hd (mem_entries.mpr (Or.inr ⟨child, hmem, e, he, rfl⟩))
  refine ⟨e', he', ?_⟩
  rw [Entry.segments, hkeys]
  simp [Entry.under]

/-! ### Listing -/

theorem listingAll_eq (lead : String) : ∀ nodes : List (Node H), listingAll lead nodes =
    nodes.flatMap fun child =>
      (if child.handler.isSome then [display (extend lead child.key)] else []) ++
        child.listing (extend lead child.key)
  | [] => rfl
  | child :: rest => by rw [listingAll, listingAll_eq lead rest, List.flatMap_cons]

theorem listing_eq_listingAll (lead : String) (n : Node H) :
    n.listing lead = listingAll lead n.children := by
  cases n
  rfl

/-- The line of a node, if it has a handler, and the lines below it are those of
its entries. -/
theorem lines_eq (n : Node H) : ∀ lead : String,
    (if n.handler.isSome then [display lead] else []) ++ n.listing lead =
      n.entries.map fun e => display (e.segments.foldl extend lead) := by
  induction n using inductionOn with
  | node n ih =>
    intro lead
    rw [listing_eq_listingAll, listingAll_eq, entries_eq, List.map_append, List.map_flatMap]
    congr 1
    · cases n.handler <;> rfl
    · refine List.flatMap_congr fun child hmem => ?_
      rw [ih child hmem, List.map_map]
      rfl

/-- **The listing of the routes.** It is the list of the entries, if no handler is
bound to the node itself. -/
theorem listing_eq {n : Node H} (hn : n.handler = none) (lead : String) :
    n.listing lead = n.entries.map fun e => display (e.segments.foldl extend lead) := by
  have hlines := n.lines_eq lead
  rw [hn] at hlines
  exact hlines

end Node
end Signpost
