/-
# What a store answers, whatever it holds

A faithful store answers what its templates compile to (`Template.compileAll`),
but for the serial numbers of the matchers, which tell what it was asked before
(`MatcherStore.outcome_obtainAll`). So two faithful stores refuse the same
segments with the same errors (`MatcherStore.obtainAll_error_of_error`). A
refusal is due to the first pattern that does not compile; the store keeps the
matchers of the patterns before it, and gains no other
(`MatcherStore.refused_obtainAll`).

Key definitions: `Matcher.unnumbered`, `Template.compileAll`.
Key theorems: `MatcherStore.outcome_obtainAll`,
`MatcherStore.obtainAll_error_of_error`, `MatcherStore.obtainAll_ok_of_ok`,
`MatcherStore.refused_obtainAll`.
-/
import Signpost.Proofs.Matcher.Store

namespace Signpost

-- what a segment is, is never looked into here; unfolding it is slow
attribute [local irreducible] Template.isPattern

/-- The matcher without the number that tells it from others of its store. -/
def Matcher.unnumbered (m : Matcher) : Matcher := { m with serial := 0 }

/-- A segment with its matcher, without the number of that. -/
def unnumberedKey (key : String × Option Matcher) : String × Option Matcher :=
  (key.1, key.2.map Matcher.unnumbered)

namespace Template

/-- The matcher of a segment, if the segment is a pattern, made without a
store. -/
def compileSegment (segment : String) : Except TemplateError (Option Matcher) :=
  if isPattern segment then (compile segment).map fun regex => some ⟨0, regex⟩ else .ok none

/-- Each segment with its matcher, if it is a pattern, made without a store. -/
def compileAll : List String → Except TemplateError (List (String × Option Matcher))
  | [] => .ok []
  | segment :: rest =>
    match compileSegment segment with
    | .error e => .error e
    | .ok m => (compileAll rest).map ((segment, m) :: ·)

end Template

namespace MatcherStore

theorem outcome_obtainFor {s : MatcherStore} (hs : s.Faithful) (segment : String) :
    (s.obtainFor segment).outcome.map (Option.map Matcher.unnumbered) =
      Template.compileSegment segment := by
  unfold Template.compileSegment
  cases hp : Template.isPattern segment with
  | false =>
    rw [s.obtainFor_literal hp]
    rfl
  | true =>
    obtain ⟨-, -, hout⟩ := obtain_spec hs segment
    rw [s.obtainFor_pattern hp, if_pos rfl]
    cases ho : (s.obtain segment).outcome with
    | error e =>
      rw [ho] at hout
      rw [hout.1]
      rfl
    | ok m =>
      rw [ho] at hout
      rw [hout.1]
      rfl

/-- **The answers of a store.** Whatever a faithful store holds, the segments get
the matchers that they compile to, or the error of compiling them. -/
theorem outcome_obtainAll : ∀ (segments : List String) {s : MatcherStore}, s.Faithful →
    (s.obtainAll segments).outcome.map (List.map unnumberedKey) = Template.compileAll segments
  | [], _, _ => rfl
  | segment :: rest, s, hs => by
    have hfirst := outcome_obtainFor hs segment
    have ih := outcome_obtainAll rest (obtainFor_spec hs segment).1
    unfold Template.compileAll
    rw [← hfirst, ← ih]
    cases ho : (s.obtainFor segment).outcome with
    | error e =>
      rw [obtainAll_cons_error ho]
      rfl
    | ok m =>
      rw [obtainAll_cons_ok ho]
      cases ((s.obtainFor segment).store.obtainAll rest).outcome <;> rfl

section TwoStores

variable {s s' : MatcherStore} {segments : List String}

theorem outcome_obtainAll_agree (hs : s.Faithful) (hs' : s'.Faithful) (segments : List String) :
    (s.obtainAll segments).outcome.map (List.map unnumberedKey) =
      (s'.obtainAll segments).outcome.map (List.map unnumberedKey) := by
  rw [outcome_obtainAll segments hs, outcome_obtainAll segments hs']

theorem obtainAll_error_of_error (hs : s.Faithful) (hs' : s'.Faithful) {e : TemplateError}
    (h : (s.obtainAll segments).outcome = .error e) :
    (s'.obtainAll segments).outcome = .error e := by
  have hagree := outcome_obtainAll_agree hs hs' segments
  rw [h] at hagree
  cases h' : (s'.obtainAll segments).outcome with
  | error e' =>
    rw [h'] at hagree
    cases hagree
    rfl
  | ok keys' =>
    rw [h'] at hagree
    cases hagree

theorem obtainAll_ok_of_ok (hs : s.Faithful) (hs' : s'.Faithful)
    {keys : List (String × Option Matcher)} (h : (s.obtainAll segments).outcome = .ok keys) :
    ∃ keys', (s'.obtainAll segments).outcome = .ok keys' ∧
      keys.map unnumberedKey = keys'.map unnumberedKey := by
  have hagree := outcome_obtainAll_agree hs hs' segments
  rw [h] at hagree
  cases h' : (s'.obtainAll segments).outcome with
  | error e' =>
    rw [h'] at hagree
    cases hagree
  | ok keys' =>
    rw [h'] at hagree
    exact ⟨keys', rfl, Except.ok.inj hagree⟩

end TwoStores

theorem isSome_get?_obtain {s : MatcherStore} {template : String} {m : Matcher}
    (h : (s.obtain template).outcome = .ok m) (other : String) :
    ((s.obtain template).store.get? other).isSome = true ↔
      (s.get? other).isSome = true ∨ other = template := by
  unfold obtain at h ⊢
  cases hget : s.get? template with
  | some m' =>
    have himp : other = template → (s.get? other).isSome = true := by
      rintro rfl
      rw [hget]
      rfl
    exact (or_iff_left_of_imp himp).symm
  | none =>
    cases hc : Template.compile template with
    | error e =>
      simp only [hget, hc] at h
      cases h
    | ok regex =>
      show ((s.table.insert template ⟨s.size, regex⟩).get? other).isSome = true ↔
        (s.table.get? other).isSome = true ∨ other = template
      by_cases heq : other = template
      · simp [heq]
      · simp [heq, Table.get?_insert_ne s.table heq]

/-- A segment that gets its matcher or needs none is in the store from then on,
if it is a pattern, and no other template is new there. -/
theorem isSome_get?_obtainFor {s : MatcherStore} {segment : String} {m : Option Matcher}
    (h : (s.obtainFor segment).outcome = .ok m) (template : String) :
    ((s.obtainFor segment).store.get? template).isSome = true ↔
      (s.get? template).isSome = true ∨
        (template = segment ∧ Template.isPattern template = true) := by
  cases hp : Template.isPattern segment with
  | false =>
    rw [s.obtainFor_literal hp]
    have hnot : ¬ (template = segment ∧ Template.isPattern template = true) := by
      rintro ⟨rfl, hp'⟩
      rw [hp] at hp'
      cases hp'
    exact (or_iff_left hnot).symm
  | true =>
    rw [s.obtainFor_pattern hp] at h ⊢
    cases ho : (s.obtain segment).outcome with
    | error e =>
      rw [ho] at h
      cases h
    | ok m' =>
      have himp : template = segment → Template.isPattern template = true := by
        rintro rfl
        exact hp
      rw [isSome_get?_obtain ho, and_iff_left_of_imp himp]

theorem store_obtainFor_of_error {s : MatcherStore} (hs : s.Faithful) {segment : String}
    {e : TemplateError} (h : (s.obtainFor segment).outcome = .error e) :
    (s.obtainFor segment).store = s := by
  obtain ⟨-, -, hout⟩ := obtainFor_spec hs segment
  rw [h] at hout
  rw [s.obtainFor_pattern hout.1] at h ⊢
  obtain ⟨-, -, hobtain⟩ := obtain_spec hs segment
  cases ho : (s.obtain segment).outcome with
  | error e' =>
    rw [ho] at hobtain
    exact hobtain.2
  | ok m =>
    rw [ho] at h
    cases h

/-- **Why segments are refused.** The error is that of the first pattern that
does not compile. The store keeps what it had and gains the templates of the
patterns before that one, and no other. -/
theorem refused_obtainAll : ∀ (segments : List String) {s : MatcherStore} {e : TemplateError},
    s.Faithful → (s.obtainAll segments).outcome = .error e →
    ∃ before segment rest, segments = before ++ segment :: rest ∧
      Template.isPattern segment = true ∧ Template.compile segment = .error e ∧
      (∀ other ∈ before, Template.isPattern other = true →
        ∃ regex, Template.compile other = .ok regex) ∧
      ∀ template, ((s.obtainAll segments).store.get? template).isSome = true ↔
        (s.get? template).isSome = true ∨
          (template ∈ before ∧ Template.isPattern template = true)
  | [], _, _, _, h => by cases h
  | segment :: rest, s, e, hs, h => by
    obtain ⟨hfaith, -, hout⟩ := obtainFor_spec hs segment
    cases ho : (s.obtainFor segment).outcome with
    | error e' =>
      rw [obtainAll_cons_error ho] at h ⊢
      cases h
      rw [ho] at hout
      obtain ⟨hp, hc⟩ := hout
      refine ⟨[], segment, rest, rfl, hp, hc, fun _ hmem _ => (nomatch hmem), fun template => ?_⟩
      simp [store_obtainFor_of_error hs ho]
    | ok m =>
      rw [ho] at hout
      rw [obtainAll_cons_ok ho] at h ⊢
      have hrest : ((s.obtainFor segment).store.obtainAll rest).outcome = .error e := by
        cases hr : ((s.obtainFor segment).store.obtainAll rest).outcome with
        | error e' =>
          rw [hr] at h
          exact h
        | ok keys =>
          rw [hr] at h
          cases h
      obtain ⟨before, bad, after, hsegments, hp, hc, hgood, hgain⟩ := refused_obtainAll rest hfaith hrest
      refine ⟨segment :: before, bad, after, by rw [hsegments]; rfl, hp, hc, ?_, fun template => ?_⟩
      · intro other hmem hother
        rcases List.mem_cons.mp hmem with rfl | hmem
        · obtain ⟨m', hm'⟩ := Option.isSome_iff_exists.mp (hout.isSome_eq.trans hother)
          exact ⟨m'.regex, hout.compile_eq m' hm'⟩
        · exact hgood other hmem hother
      · rw [hgain, isSome_get?_obtainFor ho, List.mem_cons, or_assoc, or_and_right]

end MatcherStore
end Signpost
