/-
# How the groups of a request are counted

Of a request, the groups of all matchers that accept a segment are counted from
one on, in the order of the segments, whether they take part in the match or
not (`Acceptance.Participates`). A group that takes part is found under its
number, alone; and under its name, if it has one, behind the groups of the same
name before it. All other keys are as they were before the request
(`Router.getAll_of_lookup`). This is so for requests that are answered with a
handler, and also for those that are not: what was captured before the miss
stays. Only the names of groups are asked not to look like numbers.

Key definitions: `Acceptance.groupsBefore`, `Acceptance.Participates`,
`Router.acceptances`.
Key theorems: `Acceptance.participates_iff`,
`Acceptance.values_of_participates`, `Acceptance.values_of_not_participates`,
`Router.values_of_lookup`, `Router.getAll_of_lookup`.
-/
import Signpost.Proofs.Router.History
import Signpost.Proofs.Router.Walk
import Signpost.Proofs.Trie.Recording

namespace Signpost

variable {H : Type}

namespace Acceptance

/-- The number of groups of the matches before the one at a position. -/
def groupsBefore (accepted : List Acceptance) (position : Nat) : Nat :=
  ((accepted.take position).map groupCount).sum

/-- The group with the given number took part in its match and has the text. The
groups of each match are counted behind those of the matches before it; the
first group of a match stands at place zero of its list. -/
def Participates (accepted : List Acceptance) (number : Nat) (text : String) : Prop :=
  ∃ position place a, accepted[position]? = some a ∧
    a.found.groups[place]? = some (some text) ∧
    number = groupsBefore accepted position + (place + 1)

/-- The texts of the groups of a match that have the given name, in order. -/
def textsNamed (name : String) (a : Acceptance) : List String := Walk.textsNamed name a.groups

/-- A match has a text or none for every group of its matcher. -/
def Complete (a : Acceptance) : Prop := a.found.groups.length = a.groupCount

theorem Complete.length_groups {a : Acceptance} (h : a.Complete) :
    a.groups.length = a.groupCount := by
  rw [groups, List.length_zip, h]
  exact Nat.min_self _

theorem getElem?_groups {a : Acceptance} (h : a.Complete) {place : Nat} {text : Option String} :
    (∃ name, a.groups[place]? = some (name, text)) ↔ a.found.groups[place]? = some text := by
  unfold groups
  simp only [List.getElem?_zip_eq_some]
  constructor
  · rintro ⟨name, -, htext⟩
    exact htext
  · intro htext
    have hplace : place < a.matcher.regex.groupNames.length := by
      have hlt := (List.getElem?_eq_some_iff.mp htext).1
      rwa [show a.found.groups.length = a.matcher.regex.groupNames.length from h] at hlt
    exact ⟨_, List.getElem?_eq_getElem hplace, htext⟩

/-- The place of a group in the list of the groups of all matches is one less than
its number. -/
theorem getElem?_flatMap_groups_iff {accepted : List Acceptance} (h : ∀ a ∈ accepted, a.Complete)
    (i : Nat) (g : Option String × Option String) :
    (accepted.flatMap groups)[i]? = some g ↔ ∃ position place a, accepted[position]? = some a ∧
      a.groups[place]? = some g ∧ i + 1 = groupsBefore accepted position + (place + 1) := by
  have hbefore : ∀ position,
      ((accepted.take position).map fun a => a.groups.length).sum = groupsBefore accepted position := by
    intro position
    unfold groupsBefore
    congr 1
    exact List.map_congr_left fun a ha => (h a (List.mem_of_mem_take ha)).length_groups
  simp only [List.getElem?_flatMap_iff, hbefore, ← Nat.add_assoc, Nat.add_right_cancel_iff]

theorem participates_iff {accepted : List Acceptance} (h : ∀ a ∈ accepted, a.Complete)
    (i : Nat) (text : String) :
    Participates accepted (i + 1) text ↔
      ((accepted.flatMap groups)[i]?).bind (·.2) = some text := by
  constructor
  · rintro ⟨position, place, a, ha, htext, hnumber⟩
    obtain ⟨name, hplace⟩ := (getElem?_groups (h a (List.mem_of_getElem? ha))).mpr htext
    rw [(getElem?_flatMap_groups_iff h i _).mpr ⟨position, place, a, ha, hplace, hnumber⟩]
    rfl
  · intro hgroup
    obtain ⟨⟨name, _⟩, hget, rfl⟩ := Option.bind_eq_some_iff.mp hgroup
    obtain ⟨position, place, a, ha, hplace, hnumber⟩ := (getElem?_flatMap_groups_iff h i _).mp hget
    exact ⟨position, place, a, ha,
      (getElem?_groups (h a (List.mem_of_getElem? ha))).mp ⟨name, hplace⟩, hnumber⟩

theorem not_participates_zero (accepted : List Acceptance) (text : String) :
    ¬ Participates accepted 0 text := by
  rintro ⟨position, place, a, -, -, hnumber⟩
  omega

theorem textsNamed_flatMap (name : String) (accepted : List Acceptance) :
    Walk.textsNamed name (accepted.flatMap groups) = accepted.flatMap (textsNamed name) :=
  List.flatMap_assoc

theorem name_ne_of_mem {accepted : List Acceptance} {key : String}
    (h : ∀ a ∈ accepted, some key ∉ a.matcher.regex.groupNames) :
    ∀ g ∈ accepted.flatMap groups, g.1 ≠ some key := by
  intro g hg hkey
  obtain ⟨a, ha, hga⟩ := List.mem_flatMap.mp hg
  exact h a ha (hkey ▸ (List.of_mem_zip hga).1)

section Recorded

variable {accepted : List Acceptance} {w : Walk}

/-- A group that took part stands first under its number, and behind it the groups
of that name from it on. -/
theorem values_of_participates (hstart : w.groups = 0) (hw : w.captures.isSome = true)
    (hcomplete : ∀ a ∈ accepted, a.Complete) {K : Nat} {text : String}
    (hK : Participates accepted K text) :
    (w.recordAll (accepted.flatMap groups)).values (Captures.positionalKey K) =
      text :: Walk.textsNamed (Captures.positionalKey K) ((accepted.flatMap groups).drop (K - 1)) := by
  cases K with
  | zero => exact absurd hK (not_participates_zero accepted text)
  | succ i =>
    have hgroup := (participates_iff hcomplete i text).mp hK
    obtain ⟨⟨name, _⟩, hget, rfl⟩ := Option.bind_eq_some_iff.mp hgroup
    exact Walk.values_counted hw hget (by rw [hstart, Nat.zero_add])

theorem values_of_not_participates (hstart : w.groups = 0) (hw : w.captures.isSome = true)
    (hcomplete : ∀ a ∈ accepted, a.Complete) {key : String}
    (hfree : ∀ K text, Participates accepted K text → key ≠ Captures.positionalKey K) :
    (w.recordAll (accepted.flatMap groups)).values key =
      w.values key ++ accepted.flatMap (textsNamed key) := by
  rw [← textsNamed_flatMap]
  refine Walk.values_uncounted _ hw fun i name text hget => ?_
  rw [hstart, Nat.zero_add]
  exact hfree (i + 1) text ((participates_iff hcomplete i text).mpr (by rw [hget]; rfl))

/-- A group that took part stands alone under its number. -/
theorem values_participating (hstart : w.groups = 0) (hw : w.captures.isSome = true)
    (hcomplete : ∀ a ∈ accepted, a.Complete) {K : Nat} {text : String}
    (hclear : ∀ a ∈ accepted, some (Captures.positionalKey K) ∉ a.matcher.regex.groupNames)
    (hK : Participates accepted K text) :
    (w.recordAll (accepted.flatMap groups)).values (Captures.positionalKey K) = [text] := by
  have hnames := name_ne_of_mem hclear
  rw [values_of_participates hstart hw hcomplete hK,
    Walk.textsNamed_eq_nil fun g hg => hnames g (List.mem_of_mem_drop hg)]

/-- A key that is neither the name of a group nor the number of one that took
part is left alone. -/
theorem values_untouched (hstart : w.groups = 0) (hw : w.captures.isSome = true)
    (hcomplete : ∀ a ∈ accepted, a.Complete) {key : String}
    (hunnamed : ∀ a ∈ accepted, some key ∉ a.matcher.regex.groupNames)
    (hfree : ∀ K text, Participates accepted K text → key ≠ Captures.positionalKey K) :
    (w.recordAll (accepted.flatMap groups)).values key = w.values key := by
  rw [values_of_not_participates hstart hw hcomplete hfree, ← textsNamed_flatMap,
    Walk.textsNamed_eq_nil (name_ne_of_mem hunnamed), List.append_nil]

end Recorded

end Acceptance

theorem Node.within_of_mem_trail : ∀ (segments : List String) {n : Node H} {w : Walk},
    ∀ visit ∈ n.trail segments w, Node.Within visit.node n
  | [], _, _, _, hmem => by cases hmem
  | segment :: rest, n, w, visit, hmem => by
    cases hs : n.step segment w with
    | none =>
      rw [trail, hs] at hmem
      cases hmem
    | some reached =>
      obtain ⟨child, w₁⟩ := reached
      have hchild := (accept_of_step hs).1
      rw [trail_cons hs] at hmem
      rcases List.mem_cons.mp hmem with rfl | hmem
      · exact Within.under hchild (Within.refl child)
      · exact Within.under hchild (within_of_mem_trail rest visit hmem)

theorem Node.get?_of_within {s : MatcherStore} {d n : Node H} (hd : Within d n)
    (hwell : n.WellFormed s) (hn : ∀ m, n.matcher = some m → s.get? n.key = some m) :
    ∀ m, d.matcher = some m → s.get? d.key = some m := by
  induction hd with
  | refl => exact hn
  | under hmem _ ih =>
    obtain ⟨hfits, hchild⟩ := hwell.child hmem
    exact ih hchild hfits.keyed.get?_eq

namespace Router

/-- The matches on the walk that answers a request for a method, which is not
`HEAD`, and a path, in order. -/
def acceptances (r : Router H) (method path : String) (captures : Option Captures) :
    List Acceptance :=
  (r.visits method path captures).filterMap Visit.acceptance?

theorem acceptance_of_mem {r : Router H} {method path : String} {captures : Option Captures}
    {a : Acceptance} (ha : a ∈ r.acceptances method path captures) :
    a.Complete ∧ ∃ d, Node.Within d r.root ∧ d.matcher = some a.matcher := by
  obtain ⟨visit, hvisit, ha⟩ := List.mem_filterMap.mp ha
  obtain ⟨hm, hfound⟩ := Node.captures?_of_acceptance ha
  exact ⟨Regex.length_groups hfound, visit.node, Node.within_of_mem_trail _ visit hvisit, hm⟩

/-- The captures after a request are those of its matches, recorded in order. -/
theorem values_of_lookup {r : Router H} (h : r.Sound) (method path : String) (v₀ : Captures) :
    ∃ v, (r.lookup method path (some v₀)).captures = some v ∧ ∀ key, v.getAll key =
      ((initialWalk (answering method) path (some v₀)).recordAll
        ((r.acceptances (answering method) path (some v₀)).flatMap Acceptance.groups)).values key := by
  have hwanted : (initialWalk (answering method) path (some v₀)).captures.isSome = true := rfl
  have hwalk := Node.descend_eq_recordAll (RouteKey.ofRoute (answering method) path).segments 0
    h.wellFormed hwanted
  set last := (initialWalk (answering method) path (some v₀)).recordAll
    ((r.acceptances (answering method) path (some v₀)).flatMap Acceptance.groups) with hlast
  have hsome : last.captures.isSome = true := Walk.isSome_captures_recordAll _ _
  obtain ⟨v, hv⟩ := Option.isSome_iff_exists.mp hsome
  refine ⟨v, ?_, fun key => by rw [Walk.values, hv]⟩
  calc (r.lookup method path (some v₀)).captures
      = (r.walk (answering method) path (some v₀)).2.captures := by rw [lookup_eq]; rfl
    _ = last.captures := congrArg Walk.captures hwalk
    _ = some v := hv

/-- **How the groups of a request are counted.** Let no group of a matcher have
a name that looks like a number. Then after a request, whatever its answer and
whatever was captured before it: each group that took part has its text, alone,
under its number; each key that does not look like a number has the texts of the
groups of that name, in order, behind those it had; and all keys that are
neither are as they were. -/
theorem getAll_of_lookup (ds : List (RouteDefinition H)) (method path : String) (v₀ : Captures)
    (hnames : ∀ d, Node.Within d (after ds Router.empty).root → ∀ m, d.matcher = some m →
      ∀ name, some name ∈ m.regex.groupNames → ∀ K, name ≠ Captures.positionalKey K) :
    ∃ v, ((after ds Router.empty).lookup method path (some v₀)).captures = some v ∧
      let accepted := (after ds Router.empty).acceptances (answering method) path (some v₀)
      (∀ K text, Acceptance.Participates accepted K text →
        v.getAll (Captures.positionalKey K) = [text]) ∧
      (∀ name, (∀ K, name ≠ Captures.positionalKey K) →
        v.getAll name = v₀.getAll name ++ accepted.flatMap (Acceptance.textsNamed name)) ∧
      (∀ key, (∀ a ∈ accepted, some key ∉ a.matcher.regex.groupNames) →
        (∀ K text, Acceptance.Participates accepted K text → key ≠ Captures.positionalKey K) →
        v.getAll key = v₀.getAll key) := by
  obtain ⟨v, hv, hvalues⟩ := values_of_lookup (sound_after (H := H) ds) method path v₀
  refine ⟨v, hv, ?_⟩
  intro accepted
  have hmem : ∀ a ∈ accepted, _ := fun a ha => acceptance_of_mem ha
  have hcomplete : ∀ a ∈ accepted, a.Complete := fun a ha => (hmem a ha).1
  have hclear : ∀ K, ∀ a ∈ accepted,
      some (Captures.positionalKey K) ∉ a.matcher.regex.groupNames := by
    intro K a ha hname
    obtain ⟨d, hd, hm⟩ := (hmem a ha).2
    exact hnames d hd a.matcher hm _ hname K rfl
  refine ⟨fun K text hK => ?_, fun name hname => ?_, fun key hunnamed hfree => ?_⟩
  · rw [hvalues]
    exact Acceptance.values_participating rfl rfl hcomplete (hclear K) hK
  · rw [hvalues, Walk.values_name hname _ rfl, Acceptance.textsNamed_flatMap]
    rfl
  · rw [hvalues]
    exact Acceptance.values_untouched rfl rfl hcomplete hunnamed hfree

theorem mem_store_of_within {ds : List (RouteDefinition H)} {d : Node H} {m : Matcher}
    (hd : Node.Within d (after ds Router.empty).root) (hm : d.matcher = some m) :
    (d.key, m) ∈ (after ds Router.empty).store.table.entries := by
  have hroot : (after ds (Router.empty : Router H)).root.matcher = none :=
    matcher_root_after ds sound_empty rfl
  refine Table.mem_entries_of_get? (Node.get?_of_within hd (sound_after ds).wellFormed ?_ m hm)
  intro m' hm'
  rw [hroot] at hm'
  cases hm'

/-- The first segment has two groups of which one takes part, the second a named
group. -/
def tagged : Router Nat := after [⟨"GET", "/\x7bre:(a)|(b)\x7d/\x7bword:tag\x7d", 1⟩] Router.empty

/-- Something was captured before. -/
def earlier : Captures := (Captures.empty.set "_1" "kept").add "tag" "old"

theorem getAll_of_lookup_tagged :
    (∀ d, Node.Within d tagged.root → ∀ m, d.matcher = some m →
      ∀ name, some name ∈ m.regex.groupNames → ∀ K, name ≠ Captures.positionalKey K) ∧
    ∃ v, (tagged.lookup "GET" "/b/x" (some earlier)).captures = some v ∧
      v.getAll "_1" = ["kept"] ∧ v.getAll "_3" = ["x"] ∧ v.getAll "tag" = ["old", "x"] := by
  have hentries : ∀ e ∈ tagged.store.table.entries, ∀ name ∈ e.2.regex.groupNames,
      name = none ∨ name = some "tag" := by decide +kernel
  have htag : ∀ K, "tag" ≠ Captures.positionalKey K := Captures.ne_positionalKey (by decide)
  have hnames : ∀ d, Node.Within d tagged.root → ∀ m, d.matcher = some m →
      ∀ name, some name ∈ m.regex.groupNames → ∀ K, name ≠ Captures.positionalKey K := by
    intro d hd m hm name hname
    rcases hentries _ (mem_store_of_within hd hm) _ hname with h | h
    · cases h
    · cases h
      exact htag
  obtain ⟨v, hv, hnumber, hname, hother⟩ := getAll_of_lookup
    [⟨"GET", "/\x7bre:(a)|(b)\x7d/\x7bword:tag\x7d", 1⟩] "GET" "/b/x" earlier hnames
  refine ⟨hnames, v, hv, ?_, ?_, ?_⟩
  · -- the first group of the first segment takes no part
    have hfree : ∀ K text, Acceptance.Participates
        (tagged.acceptances "GET" "/b/x" (some earlier)) K text → "_1" ≠ Captures.positionalKey K := by
      intro K text hK he
      have hone : Captures.positionalKey 1 = Captures.positionalKey K := he
      cases Captures.positionalKey_inj hone
      have hgroup := (Acceptance.participates_iff (fun a ha => (acceptance_of_mem ha).1) 0 text).mp hK
      have hnone : (((tagged.acceptances "GET" "/b/x" (some earlier)).flatMap
          Acceptance.groups)[0]?).bind (·.2) = none := by decide +kernel
      rw [hnone] at hgroup
      cases hgroup
    have hunnamed : ∀ a ∈ tagged.acceptances "GET" "/b/x" (some earlier),
        some "_1" ∉ a.matcher.regex.groupNames := by decide +kernel
    exact (hother "_1" hunnamed hfree).trans (by decide +kernel)
  · have hmatch : ((tagged.acceptances "GET" "/b/x" (some earlier))[1]?).bind
        (fun a => a.found.groups[0]?) = some (some "x") := by decide +kernel
    have hcount : 3 = Acceptance.groupsBefore
        (tagged.acceptances "GET" "/b/x" (some earlier)) 1 + (0 + 1) := by decide +kernel
    obtain ⟨a, ha, htext⟩ := Option.bind_eq_some_iff.mp hmatch
    exact hnumber 3 "x" ⟨1, 0, a, ha, htext, hcount⟩
  · exact (hname "tag" htag).trans (by decide +kernel)

end Router
end Signpost
