/-
# What a store holds

A store that starts empty holds, under each template, what the template
compiles to (`Faithful`). Asking it for a matcher may add one entry and
changes none that is there (`Extends`), and the answer does not depend on
what was asked before: it is the compiled template, or the error of compiling
it (`obtain_spec`). Where all segments of a list get their matchers, each gets
the right one (`obtainAll_ok`), and gets it again without a change of the store
(`obtainAll_of_keyed`).

Key definitions: `MatcherStore.Faithful`, `MatcherStore.Extends`,
`MatcherStore.Keyed`.
Key theorems: `MatcherStore.obtain_spec`, `MatcherStore.obtainAll_spec`,
`MatcherStore.obtainAll_ok`, `MatcherStore.obtainAll_of_keyed`.
-/
import Signpost.Matcher.Store

namespace Signpost
namespace MatcherStore

/-- Every matcher of the store is what its template compiles to. -/
def Faithful (s : MatcherStore) : Prop :=
  ∀ template m, s.get? template = some m → Template.compile template = .ok m.regex

/-- The store `t` has all entries of `s`. -/
def Extends (t s : MatcherStore) : Prop :=
  ∀ template m, s.get? template = some m → t.get? template = some m

/-- A segment has a matcher exactly if it is a pattern, and then the matcher
is the compiled segment and the store's entry for it. -/
structure Keyed (s : MatcherStore) (key : String) (matcher : Option Matcher) : Prop where
  isSome_eq : matcher.isSome = Template.isPattern key
  compile_eq : ∀ m, matcher = some m → Template.compile key = .ok m.regex
  get?_eq : ∀ m, matcher = some m → s.get? key = some m

theorem faithful_empty : empty.Faithful := by
  intro template m h
  simp [empty, get?, Table.get?, Table.find] at h

theorem extends_refl (s : MatcherStore) : s.Extends s := fun _ _ h => h

theorem Extends.trans {s t u : MatcherStore} (hu : u.Extends t) (ht : t.Extends s) : u.Extends s :=
  fun template m h => hu template m (ht template m h)

theorem keyed_none (s : MatcherStore) {key : String} (h : Template.isPattern key = false) :
    s.Keyed key none :=
  ⟨h.symm, fun _ hm => (nomatch hm), fun _ hm => (nomatch hm)⟩

theorem Keyed.mono {s t : MatcherStore} (hext : t.Extends s) {key : String}
    {matcher : Option Matcher} (h : s.Keyed key matcher) : t.Keyed key matcher :=
  ⟨h.isSome_eq, h.compile_eq, fun m hm => hext key m (h.get?_eq m hm)⟩

/-- A new entry under a template that has none leaves the others alone. -/
theorem extends_insert (s : MatcherStore) {template : String} (m : Matcher)
    (hnone : s.get? template = none) : (⟨s.table.insert template m⟩ : MatcherStore).Extends s := by
  intro other m' h
  have hne : other ≠ template := by
    rintro rfl
    rw [hnone] at h
    cases h
  exact (Table.get?_insert_ne s.table hne m).trans h

theorem faithful_insert {s : MatcherStore} (hs : s.Faithful) {template : String} {m : Matcher}
    (hm : Template.compile template = .ok m.regex) :
    (⟨s.table.insert template m⟩ : MatcherStore).Faithful := by
  intro other m' h
  by_cases heq : other = template
  · subst heq
    have hget : (s.table.insert other m).get? other = some m' := h
    rw [Table.get?_insert_self] at hget
    cases hget
    exact hm
  · exact hs other m' ((Table.get?_insert_ne s.table heq m).symm.trans h)

/-- Asking for a template: the store stays faithful and loses nothing; the
answer is the compiled template, which the store then has, or the error of
compiling it, and then the store is as it was. -/
theorem obtain_spec {s : MatcherStore} (hs : s.Faithful) (template : String) :
    (s.obtain template).store.Faithful ∧ (s.obtain template).store.Extends s ∧
      match (s.obtain template).outcome with
      | .ok m => Template.compile template = .ok m.regex ∧
          (s.obtain template).store.get? template = some m
      | .error e => Template.compile template = .error e ∧ (s.obtain template).store = s := by
  unfold obtain
  cases hget : s.get? template with
  | some m => exact ⟨hs, s.extends_refl, hs template m hget, hget⟩
  | none =>
    cases hc : Template.compile template with
    | error e => exact ⟨hs, s.extends_refl, rfl, rfl⟩
    | ok regex =>
      exact ⟨faithful_insert hs hc, s.extends_insert _ hget, rfl, Table.get?_insert_self ..⟩

theorem obtainFor_pattern (s : MatcherStore) {segment : String}
    (hp : Template.isPattern segment = true) :
    s.obtainFor segment = ⟨(s.obtain segment).store, (s.obtain segment).outcome.map some⟩ := by
  simp only [obtainFor, hp, if_true]

theorem obtainFor_literal (s : MatcherStore) {segment : String}
    (hp : Template.isPattern segment = false) : s.obtainFor segment = ⟨s, .ok none⟩ := by
  simp only [obtainFor, hp, Bool.false_eq_true, if_false]

/-- Asking for the matcher of a segment. -/
theorem obtainFor_spec {s : MatcherStore} (hs : s.Faithful) (segment : String) :
    (s.obtainFor segment).store.Faithful ∧ (s.obtainFor segment).store.Extends s ∧
      match (s.obtainFor segment).outcome with
      | .ok matcher => (s.obtainFor segment).store.Keyed segment matcher
      | .error e => Template.isPattern segment = true ∧ Template.compile segment = .error e := by
  cases hp : Template.isPattern segment with
  | false =>
    rw [s.obtainFor_literal hp]
    exact ⟨hs, s.extends_refl, s.keyed_none hp⟩
  | true =>
    rw [s.obtainFor_pattern hp]
    obtain ⟨hfaith, hext, hout⟩ := obtain_spec hs segment
    cases ho : (s.obtain segment).outcome with
    | error e =>
      rw [ho] at hout
      exact ⟨hfaith, hext, rfl, hout.1⟩
    | ok m =>
      rw [ho] at hout
      refine ⟨hfaith, hext, hp.symm, fun m' h => ?_, fun m' h => ?_⟩
      · cases h; exact hout.1
      · cases h; exact hout.2

theorem obtainAll_cons_error {s : MatcherStore} {segment : String} {e : TemplateError}
    (h : (s.obtainFor segment).outcome = .error e) (rest : List String) :
    s.obtainAll (segment :: rest) = ⟨(s.obtainFor segment).store, .error e⟩ := by
  simp only [obtainAll, h]

theorem obtainAll_cons_ok {s : MatcherStore} {segment : String} {m : Option Matcher}
    (h : (s.obtainFor segment).outcome = .ok m) (rest : List String) :
    s.obtainAll (segment :: rest) =
      ⟨((s.obtainFor segment).store.obtainAll rest).store,
        ((s.obtainFor segment).store.obtainAll rest).outcome.map ((segment, m) :: ·)⟩ := by
  simp only [obtainAll, h]

/-- Asking for the matchers of some segments keeps the store faithful and
loses nothing. -/
theorem obtainAll_spec : ∀ (segments : List String) {s : MatcherStore}, s.Faithful →
    (s.obtainAll segments).store.Faithful ∧ (s.obtainAll segments).store.Extends s
  | [], s, hs => ⟨hs, s.extends_refl⟩
  | segment :: rest, s, hs => by
    obtain ⟨hfaith, hext, -⟩ := obtainFor_spec hs segment
    cases ho : (s.obtainFor segment).outcome with
    | error e =>
      rw [obtainAll_cons_error ho]
      exact ⟨hfaith, hext⟩
    | ok m =>
      rw [obtainAll_cons_ok ho]
      obtain ⟨hfaith', hext'⟩ := obtainAll_spec rest hfaith
      exact ⟨hfaith', hext'.trans hext⟩

/-- If all segments have their matchers, these are the right ones, in the order
of the segments. -/
theorem obtainAll_ok : ∀ (segments : List String) {s : MatcherStore}, s.Faithful →
    ∀ {keys}, (s.obtainAll segments).outcome = .ok keys →
      keys.map (·.1) = segments ∧ ∀ key ∈ keys, (s.obtainAll segments).store.Keyed key.1 key.2
  | [], s, _, keys, h => by
    cases h
    exact ⟨rfl, fun key hk => by cases hk⟩
  | segment :: rest, s, hs, keys, h => by
    obtain ⟨hfaith, -, hout⟩ := obtainFor_spec hs segment
    cases ho : (s.obtainFor segment).outcome with
    | error e =>
      rw [obtainAll_cons_error ho] at h
      cases h
    | ok m =>
      rw [ho] at hout
      rw [obtainAll_cons_ok ho] at h ⊢
      cases hr : ((s.obtainFor segment).store.obtainAll rest).outcome with
      | error e => rw [hr] at h; cases h
      | ok keys' =>
        rw [hr] at h
        cases h
        obtain ⟨hmap, hkeyed⟩ := obtainAll_ok rest hfaith hr
        refine ⟨by rw [List.map_cons, hmap], fun key hk => ?_⟩
        rcases List.mem_cons.mp hk with rfl | hk
        · exact hout.mono (obtainAll_spec rest hfaith).2
        · exact hkeyed key hk

/-- A segment that has its matcher gets it without a change of the store. -/
theorem obtainFor_of_keyed {s : MatcherStore} {key : String} {matcher : Option Matcher}
    (h : s.Keyed key matcher) : s.obtainFor key = ⟨s, .ok matcher⟩ := by
  have hsome := h.isSome_eq
  cases matcher with
  | none => exact s.obtainFor_literal hsome.symm
  | some m =>
    rw [s.obtainFor_pattern hsome.symm, obtain, h.get?_eq m rfl]
    rfl

/-- Segments that have their matchers get them again. -/
theorem obtainAll_of_keyed {s : MatcherStore} : ∀ {keys : List (String × Option Matcher)},
    (∀ key ∈ keys, s.Keyed key.1 key.2) → s.obtainAll (keys.map (·.1)) = ⟨s, .ok keys⟩
  | [], _ => rfl
  | (key, matcher) :: rest, h => by
    have hkey := obtainFor_of_keyed (h _ List.mem_cons_self)
    have hrest := obtainAll_of_keyed fun k hk => h k (List.mem_cons_of_mem _ hk)
    rw [List.map_cons, obtainAll_cons_ok (congrArg Obtained.outcome hkey), hkey, hrest]
    rfl

end MatcherStore
end Signpost
