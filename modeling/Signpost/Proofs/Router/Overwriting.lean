/-
# Names that are numbers

A group that takes part in a match is kept under its name and under its number,
and both are keys of one table. The author of a route may choose a name that is
the number of a group of the request, such as `_2`. Texts are added behind those
of an equal name, but a number is written over what is there. So the text of a
named group is found under its name afterwards, unless a later group is counted
under this name: `Router.kept_unless_counted` says this, and what is found under
every key whatever the names are. Of the route `/{_2}/{b}` the first text of a
request is lost.

Key definitions: `Acceptance.Names`.
Key theorems: `Acceptance.names_iff`, `Acceptance.mem_values_of_names`,
`Router.kept_unless_counted`.
-/
import Signpost.Proofs.Router.Numbering

namespace Signpost

variable {H : Type}

namespace Acceptance

/-- The group with the given number has the name, took part in its match and has
the text. -/
def Names (accepted : List Acceptance) (number : Nat) (name text : String) : Prop :=
  ∃ position place a, accepted[position]? = some a ∧
    a.groups[place]? = some (some name, some text) ∧
    number = groupsBefore accepted position + (place + 1)

theorem names_iff {accepted : List Acceptance} (h : ∀ a ∈ accepted, a.Complete) (i : Nat)
    (name text : String) :
    Names accepted (i + 1) name text ↔
      (accepted.flatMap groups)[i]? = some (some name, some text) :=
  (getElem?_flatMap_groups_iff h i _).symm

theorem not_names_zero (accepted : List Acceptance) (name text : String) :
    ¬ Names accepted 0 name text := by
  rintro ⟨position, place, a, -, -, hnumber⟩
  omega

theorem mem_values_of_names {accepted : List Acceptance} {w : Walk} (hstart : w.groups = 0)
    (hw : w.captures.isSome = true) (hcomplete : ∀ a ∈ accepted, a.Complete) {number : Nat}
    {name text : String} (hname : Names accepted number name text)
    (hlater : ∀ K later, Participates accepted K later → number < K →
      name ≠ Captures.positionalKey K) :
    text ∈ (w.recordAll (accepted.flatMap groups)).values name := by
  obtain ⟨i, rfl⟩ : ∃ i, number = i + 1 :=
    Nat.exists_eq_succ_of_ne_zero fun h => not_names_zero accepted name text (h ▸ hname)
  have hget := (names_iff hcomplete i name text).mp hname
  by_cases hcounted : ∃ K first, Participates accepted K first ∧ name = Captures.positionalKey K
  · -- the group that is counted under the name is this one or an earlier one
    obtain ⟨K, first, hK, rfl⟩ := hcounted
    have hle : K ≤ i + 1 := Nat.not_lt.mp fun hlt => hlater K first hK hlt rfl
    have hmem : (some (Captures.positionalKey K), some text) ∈
        (accepted.flatMap groups).drop (K - 1) := by
      refine List.mem_of_getElem? (i := i - (K - 1)) ?_
      rw [List.getElem?_drop, Nat.add_sub_cancel' (by omega), hget]
    rw [values_of_participates hstart hw hcomplete hK]
    exact List.mem_cons_of_mem _ (Walk.mem_textsNamed hmem)
  · have hfree : ∀ K first, Participates accepted K first → name ≠ Captures.positionalKey K :=
      fun K first hK heq => hcounted ⟨K, first, hK, heq⟩
    rw [values_of_not_participates hstart hw hcomplete hfree, ← textsNamed_flatMap]
    exact List.mem_append_right _ (Walk.mem_textsNamed (List.mem_of_getElem? hget))

end Acceptance

namespace Router

/-- **What a request keeps, whatever the names are.** After a request, whatever its
answer and whatever was captured before it: the text of each named group that took
part is found under its name, unless a later group that took part is counted under
this name. Under the number of a group that took part stands its text, and behind
it the texts of the groups of that name from this one on, and nothing that was
there before. Every other key has the texts of the groups of that name, in order,
behind those it had. -/
theorem kept_unless_counted (ds : List (RouteDefinition H)) (method path : String) (v₀ : Captures) :
    ∃ v, ((after ds Router.empty).lookup method path (some v₀)).captures = some v ∧
      let accepted := (after ds Router.empty).acceptances (answering method) path (some v₀)
      (∀ number name text, Acceptance.Names accepted number name text →
        (∀ K later, Acceptance.Participates accepted K later → number < K →
          name ≠ Captures.positionalKey K) →
        text ∈ v.getAll name) ∧
      (∀ K text, Acceptance.Participates accepted K text →
        v.getAll (Captures.positionalKey K) =
          text :: Walk.textsNamed (Captures.positionalKey K)
            ((accepted.flatMap Acceptance.groups).drop (K - 1))) ∧
      (∀ key, (∀ K text, Acceptance.Participates accepted K text →
          key ≠ Captures.positionalKey K) →
        v.getAll key = v₀.getAll key ++ accepted.flatMap (Acceptance.textsNamed key)) := by
  obtain ⟨v, hv, hvalues⟩ := values_of_lookup (sound_after (H := H) ds) method path v₀
  refine ⟨v, hv, ?_⟩
  intro accepted
  have hcomplete : ∀ a ∈ accepted, a.Complete := fun a ha => (acceptance_of_mem ha).1
  refine ⟨fun number name text hname hlater => ?_, fun K text hK => ?_, fun key hfree => ?_⟩
  · rw [hvalues]
    exact Acceptance.mem_values_of_names rfl rfl hcomplete hname hlater
  · rw [hvalues]
    exact Acceptance.values_of_participates rfl rfl hcomplete hK
  · rw [hvalues]
    exact Acceptance.values_of_not_participates rfl rfl hcomplete hfree

/-- The name of the first group is the number of the second. -/
def misnamed : Router Nat := after [⟨"GET", "/\x7b_2\x7d/\x7bb\x7d", 1⟩] Router.empty

/-- The request is answered, and the text of the first group, which is named `_2`, is
lost: under `_2` stands the text of the second group alone. The second one is found
under its name. -/
theorem kept_unless_counted_misnamed :
    (misnamed.lookup "GET" "/x/y" (some Captures.empty)).outcome = .ok 1 ∧
      ∃ v, (misnamed.lookup "GET" "/x/y" (some Captures.empty)).captures = some v ∧
        Acceptance.Names (misnamed.acceptances "GET" "/x/y" (some Captures.empty)) 1 "_2" "x" ∧
        v.getAll "_2" = ["y"] ∧
        Acceptance.Names (misnamed.acceptances "GET" "/x/y" (some Captures.empty)) 2 "b" "y" ∧
        "y" ∈ v.getAll "b" := by
  set accepted := misnamed.acceptances "GET" "/x/y" (some Captures.empty) with haccepted
  obtain ⟨v, hv, hnamed, hcounted, -⟩ := kept_unless_counted
    [⟨"GET", "/\x7b_2\x7d/\x7bb\x7d", 1⟩] "GET" "/x/y" Captures.empty
  have hfirst : (accepted[0]?).bind (·.groups[0]?) = some (some "_2", some "x") := by
    decide +kernel
  have hsecond : (accepted[1]?).bind (·.groups[0]?) = some (some "b", some "y") := by
    decide +kernel
  have hone : 1 = Acceptance.groupsBefore accepted 0 + (0 + 1) := rfl
  have htwo : 2 = Acceptance.groupsBefore accepted 1 + (0 + 1) := by decide +kernel
  obtain ⟨a, ha, hgroup⟩ := Option.bind_eq_some_iff.mp hfirst
  obtain ⟨a', ha', hgroup'⟩ := Option.bind_eq_some_iff.mp hsecond
  have hnames : Acceptance.Names accepted 2 "b" "y" := ⟨1, 0, a', ha', hgroup', htwo⟩
  have hcomplete : ∀ a ∈ accepted, a.Complete := fun a ha => (acceptance_of_mem ha).1
  have hpart : Acceptance.Participates accepted 2 "y" := by
    rw [Acceptance.participates_iff hcomplete, (Acceptance.names_iff hcomplete 1 _ _).mp hnames]
    rfl
  refine ⟨by decide +kernel, v, hv, ⟨0, 0, a, ha, hgroup, hone⟩, ?_, hnames,
    hnamed 2 "b" "y" hnames fun K _ _ _ => Captures.ne_positionalKey (by decide) K⟩
  exact (hcounted 2 "y" hpart).trans (by decide +kernel)

end Router
end Signpost
