/-
# Tries without the numbers of their matchers

The serial number of a matcher tells how many templates its store knew before
it, and nothing that a trie is asked for depends on it. So the numbers can be
left out of a trie (`Node.unnumbered`) before a route is inserted or after it
(`unnumbered_insert`), and a trie without them has the same nodes under the same
keys (`at?_unnumbered`), is walked in the same way (`descend_unnumbered`) and
lists the same routes (`listing_unnumbered`).

Key definitions: `Node.unnumbered`, `Node.Destination.unnumbered`.
Key theorems: `Node.unnumbered_insert`, `Node.at?_unnumbered`,
`Node.descend_unnumbered`, `Node.listing_unnumbered`.
-/
import Signpost.Proofs.Extra
import Signpost.Proofs.Matcher.Outcome
import Signpost.Proofs.Trie.Descent
import Signpost.Trie.Listing

namespace Signpost

namespace Node

variable {H : Type}

mutual

/-- The trie without the numbers of its matchers. -/
def unnumbered : Node H → Node H
  | .mk key matcher handler depth children index patterns =>
    .mk key (matcher.map Matcher.unnumbered) handler depth (unnumberedAll children) index patterns
termination_by structural n => n

/-- The tries at some nodes, without the numbers of their matchers. -/
def unnumberedAll : List (Node H) → List (Node H)
  | [] => []
  | child :: rest => child.unnumbered :: unnumberedAll rest
termination_by structural nodes => nodes

end

theorem unnumberedAll_eq : ∀ nodes : List (Node H), unnumberedAll nodes = nodes.map unnumbered
  | [] => rfl
  | child :: rest => by rw [unnumberedAll, unnumberedAll_eq rest, List.map_cons]

section Fields

variable (n : Node H)

@[simp] theorem key_unnumbered : n.unnumbered.key = n.key := by cases n; rfl

@[simp] theorem matcher_unnumbered :
    n.unnumbered.matcher = n.matcher.map Matcher.unnumbered := by cases n; rfl

@[simp] theorem handler_unnumbered : n.unnumbered.handler = n.handler := by cases n; rfl

@[simp] theorem depth_unnumbered : n.unnumbered.depth = n.depth := by cases n; rfl

@[simp] theorem index_unnumbered : n.unnumbered.index = n.index := by cases n; rfl

@[simp] theorem patterns_unnumbered : n.unnumbered.patterns = n.patterns := by cases n; rfl

@[simp] theorem children_unnumbered : n.unnumbered.children = n.children.map unnumbered := by
  cases n with
  | mk _ _ _ _ children => exact unnumberedAll_eq children

end Fields

theorem unnumbered_mk (key : String) (matcher : Option Matcher) (handler : Option H) (depth : Nat)
    (children : List (Node H)) (index : Table Nat) (patterns : List Nat) :
    (mk key matcher handler depth children index patterns).unnumbered =
      mk key (matcher.map Matcher.unnumbered) handler depth (children.map unnumbered) index
        patterns := by
  rw [unnumbered, unnumberedAll_eq]

/-! ### Children, insertion, and nodes under keys -/

theorem child?_unnumbered (n : Node H) (key : String) :
    n.unnumbered.child? key = (n.child? key).map unnumbered := by
  simp only [child?, index_unnumbered, children_unnumbered, List.getElem?_map, Option.map_bind,
    Function.comp_def]

theorem at?_unnumbered : ∀ (keys : List String) (n : Node H),
    n.unnumbered.at? keys = (n.at? keys).map unnumbered
  | [], _ => rfl
  | key :: rest, n => by
    rw [at?, at?, child?_unnumbered]
    cases n.child? key with
    | none => rfl
    | some child => exact at?_unnumbered rest child

theorem unnumbered_updateChild {change change' : Node H → Node H}
    (h : ∀ c, (change c).unnumbered = change' c.unnumbered) (n : Node H) (key : String)
    (matcher : Option Matcher) :
    (n.updateChild key matcher change).unnumbered =
      n.unnumbered.updateChild key (matcher.map Matcher.unnumbered) change' := by
  have hleaf : (leaf key matcher (n.depth + 1) : Node H).unnumbered =
      leaf key (matcher.map Matcher.unnumbered) (n.unnumbered.depth + 1) := by
    rw [depth_unnumbered]
    rfl
  cases hp : n.index.get? key with
  | some position =>
    have hp' : n.unnumbered.index.get? key = some position := by rw [index_unnumbered, hp]
    rw [updateChild_of_some hp, updateChild_of_some hp', unnumbered_mk, List.map_modify h]
    simp only [key_unnumbered, matcher_unnumbered, handler_unnumbered, depth_unnumbered,
      index_unnumbered, patterns_unnumbered, children_unnumbered]
  | none =>
    have hp' : n.unnumbered.index.get? key = none := by rw [index_unnumbered, hp]
    rw [updateChild_of_none hp, updateChild_of_none hp', unnumbered_mk, ← hleaf, ← h]
    simp only [key_unnumbered, matcher_unnumbered, handler_unnumbered, depth_unnumbered,
      index_unnumbered, patterns_unnumbered, children_unnumbered, List.map_append, List.map_cons,
      List.map_nil, List.length_map, Option.isSome_map]

/-- The numbers can be left out before a route is inserted or after it. -/
theorem unnumbered_insert (handler : H) : ∀ (keys : List (String × Option Matcher)) (n : Node H),
    (n.insert handler keys).unnumbered = n.unnumbered.insert handler (keys.map unnumberedKey)
  | [], n => by
    cases n
    rfl
  | (key, matcher) :: rest, n => by
    rw [insert, unnumbered_updateChild (unnumbered_insert handler rest)]
    rfl

/-! ### Walks -/

theorem accept_unnumbered (child : Node H) (segment : String) (w : Walk) :
    child.unnumbered.accept segment w = child.accept segment w := by
  have hempty : child.unnumbered.children.isEmpty = child.children.isEmpty := by
    rw [children_unnumbered, List.isEmpty_map]
  unfold accept
  rw [depth_unnumbered, hempty, matcher_unnumbered]
  cases child.matcher <;> rfl

theorem step_unnumbered (n : Node H) (segment : String) (w : Walk) :
    n.unnumbered.step segment w =
      (n.step segment w).map fun reached => (reached.1.unnumbered, reached.2) := by
  unfold step
  rw [child?_unnumbered, patterns_unnumbered, children_unnumbered]
  simp only [Option.map_or, Option.map_map, List.map_findSome?, Function.comp_def, Option.map_bind,
    List.getElem?_map, Option.bind_map, accept_unnumbered]

/-- Where a walk ends in the trie without numbers. -/
def Destination.unnumbered : Destination H → Destination H
  | .reached n => .reached n.unnumbered
  | .stopped position => .stopped position

/-- A trie without numbers is walked like the trie with them. -/
theorem descend_unnumbered : ∀ (segments : List String) (position : Nat) (n : Node H) (w : Walk),
    n.unnumbered.descend segments position w =
      ((n.descend segments position w).1.unnumbered, (n.descend segments position w).2)
  | [], _, _, _ => rfl
  | segment :: rest, position, n, w => by
    rw [descend, descend, step_unnumbered]
    cases n.step segment w with
    | none => rfl
    | some reached => exact descend_unnumbered rest (position + 1) reached.1 reached.2

/-! ### Listing -/

mutual

theorem listing_unnumbered (lead : String) : ∀ n : Node H, n.unnumbered.listing lead = n.listing lead
  | .mk _ _ _ _ children _ _ => by
    rw [unnumbered_mk, listing, listing]
    exact listingAll_unnumbered lead children

theorem listingAll_unnumbered (lead : String) : ∀ nodes : List (Node H),
    listingAll lead (nodes.map unnumbered) = listingAll lead nodes
  | [] => rfl
  | child :: rest => by
    rw [List.map_cons, listingAll, listingAll, key_unnumbered, handler_unnumbered,
      listing_unnumbered _ child, listingAll_unnumbered lead rest]

end

end Node
end Signpost
