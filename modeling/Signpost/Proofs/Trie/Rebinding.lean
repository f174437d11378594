/-
# A handler is replaced

A route that is inserted again finds all its nodes: only the handler at its end
is another one, and the former leaves no trace (`Node.insert_insert`). What is
inserted elsewhere does not meet it, so it does not matter which of the two comes
first (`Node.insert_comm`). And no entry comes or goes
(`Node.segments_entries_insert`).

Key theorems: `Node.updateChild_comm`, `Node.insert_insert`, `Node.insert_comm`,
`Node.segments_entries_insert`.
-/
import Signpost.Proofs.Extra
import Signpost.Proofs.Trie.Planting

namespace Signpost

variable {H : Type}

namespace Node

/-! ### Changes of children that are there -/

section UpdateChild

variable {n child : Node H} {key : String} {matcher : Option Matcher} {change : Node H → Node H}

theorem position_of_child? (h : n.child? key = some child) :
    ∃ position, n.index.get? key = some position ∧ n.children[position]? = some child :=
  Option.bind_eq_some_iff.mp h

theorem updateChild_congr (h : n.child? key = some child) {matcher' : Option Matcher}
    {change' : Node H → Node H} (hsame : change child = change' child) :
    n.updateChild key matcher change = n.updateChild key matcher' change' := by
  obtain ⟨position, hp, hget⟩ := position_of_child? h
  rw [updateChild_of_some hp, updateChild_of_some hp, List.modify_eq_set_of_getElem? change hget,
    List.modify_eq_set_of_getElem? change' hget, hsame]

theorem updateChild_comm (h : n.child? key = some child) (hcoh : n.Coherent) {key' : String}
    (hne : key ≠ key') (matcher' : Option Matcher) (change' : Node H → Node H) :
    (n.updateChild key matcher change).updateChild key' matcher' change' =
      (n.updateChild key' matcher' change').updateChild key matcher change := by
  obtain ⟨position, hp, hget⟩ := position_of_child? h
  have hlt : position < n.children.length := (List.getElem?_eq_some_iff.mp hget).1
  have hfirst : (n.updateChild key matcher change).index = n.index := by rw [updateChild_of_some hp]
  cases hp' : n.index.get? key' with
  | some position' =>
    have hpositions : position ≠ position' := by
      rintro rfl
      have hkey := (hcoh.get?_index key position).mp hp
      exact hne (Option.some.inj (hkey.symm.trans ((hcoh.get?_index key' position).mp hp')))
    have hlater : (n.updateChild key' matcher' change').index.get? key = some position := by
      rw [updateChild_of_some hp', hp]
    rw [updateChild_of_some (hfirst ▸ hp'), updateChild_of_some hlater, updateChild_of_some hp,
      updateChild_of_some hp', List.modify_modify_ne _ _ _ hpositions]
  | none =>
    have hlater : (n.updateChild key' matcher' change').index.get? key = some position := by
      rw [updateChild_of_none hp', Table.get?_insert_ne _ hne, hp]
    -- the new child stands behind all that were there
    have hmodify : ∀ c : Node H, (n.children ++ [c]).modify position change =
        n.children.modify position change ++ [c] := by
      intro c
      rw [List.modify_eq_set_of_getElem? change hget,
        List.modify_eq_set_of_getElem? change (List.getElem?_append_left hlt ▸ hget),
        List.set_append_left position _ hlt]
    rw [updateChild_of_none (hfirst ▸ hp'), updateChild_of_some hlater, updateChild_of_some hp,
      updateChild_of_none hp', hmodify, List.length_modify]

theorem updateChild_withHandler (n : Node H) (handler : Option H) (key : String)
    (matcher : Option Matcher) (change : Node H → Node H) :
    { n with handler := handler }.updateChild key matcher change =
      { n.updateChild key matcher change with handler := handler } := by
  unfold updateChild
  cases n.index.get? key <;> rfl

end UpdateChild

/-! ### Insertions -/

theorem child_of_bound {n : Node H} {key : String} {rest : List String}
    (h : (n.handlerAt (key :: rest)).isSome = true) :
    ∃ child, n.child? key = some child ∧ (child.handlerAt rest).isSome = true := by
  rw [handlerAt_cons, Option.isSome_bind, Option.any_eq_true] at h
  exact h

/-- **A route is inserted twice.** The first time leaves no trace. -/
theorem insert_insert (handler handler' : H) : ∀ (keys : List (String × Option Matcher))
    (n : Node H), (n.insert handler keys).insert handler' keys = n.insert handler' keys
  | [], _ => rfl
  | (key, matcher) :: rest, n => by
    have hrest : Node.insert handler' rest ∘ Node.insert handler rest = Node.insert handler' rest :=
      funext fun c => insert_insert handler handler' rest c
    rw [insert, insert, insert, updateChild_updateChild, hrest]

/-- **Two routes are inserted.** If the nodes of the one are there, it does not
matter which comes first. -/
theorem insert_comm {s : MatcherStore} (handler handler' : H) :
    ∀ (keys keys' : List (String × Option Matcher)) {n : Node H}, n.WellFormed s →
      (n.handlerAt (keys.map (·.1))).isSome = true → keys.map (·.1) ≠ keys'.map (·.1) →
      (n.insert handler keys).insert handler' keys' = (n.insert handler' keys').insert handler keys
  | [], [], _, _, _, hne => absurd rfl hne
  | [], (key', matcher') :: rest', n, _, _, _ => updateChild_withHandler n _ key' matcher' _
  | (key, matcher) :: rest, [], n, _, _, _ => (updateChild_withHandler n _ key matcher _).symm
  | (key, matcher) :: rest, (key', matcher') :: rest', n, hwell, hbound, hne => by
    have hcoh := hwell.root_coherent
    obtain ⟨child, hchild, hrest⟩ := child_of_bound hbound
    rw [insert, insert, insert, insert]
    by_cases heq : key = key'
    · -- both go on below the same child
      subst heq
      have hmem : child ∈ n.children := mem_of_child? hchild
      have ih := insert_comm handler handler' rest rest' (hwell.child hmem).2 hrest
        fun h => hne (congrArg (key :: ·) h)
      rw [updateChild_updateChild, updateChild_updateChild]
      exact updateChild_congr hchild ih
    · exact updateChild_comm hchild hcoh heq matcher' _

theorem segments_entries (n : Node H) : n.entries.map Entry.segments =
    n.handler.toList.map (fun _ => []) ++
      n.children.flatMap fun child => (child.entries.map Entry.segments).map (child.key :: ·) := by
  rw [entries_eq, List.map_append, List.map_flatMap, List.map_map]
  simp only [List.map_map]
  rfl

/-- **A route is inserted again.** Under the same segments as before something is
bound, in the same order. -/
theorem segments_entries_insert (handler : H) : ∀ (keys : List (String × Option Matcher))
    {n : Node H}, (n.handlerAt (keys.map (·.1))).isSome = true →
    (n.insert handler keys).entries.map Entry.segments = n.entries.map Entry.segments
  | [], n, hbound => by
    obtain ⟨former, hformer⟩ := Option.isSome_iff_exists.mp hbound
    rw [segments_entries, segments_entries n, show n.handler = some former from hformer]
    rfl
  | (key, matcher) :: rest, n, hbound => by
    obtain ⟨child, hchild, hrest⟩ := child_of_bound hbound
    obtain ⟨position, hp, hget⟩ := position_of_child? hchild
    have hchanged : ((child.insert handler rest).entries.map Entry.segments).map
        ((child.insert handler rest).key :: ·) =
        (child.entries.map Entry.segments).map (child.key :: ·) := by
      rw [segments_entries_insert handler rest hrest, key_insert]
    rw [segments_entries, segments_entries n, insert, updateChild_of_some hp,
      List.modify_eq_set_of_getElem? _ hget, List.flatMap_set_of_eq hget hchanged]

end Node
end Signpost
