/-
# A store hands out one matcher for a template

A store that is asked for templates, one after the other, keeps the matchers of
those that compile, and no other (`get?_obtainEach`): what it has under a
template is what it answered when it was asked for it, each time. Nothing that it
has is changed or lost (`extends_obtainEach`), and a template that does not
compile leaves it as it was (`obtain_of_error`).

The serial number of a matcher is the number of entries that were there before
its own (`Numbered`), so the matchers of a store are told apart by their numbers
(`Numbered.template_eq`): two answers with one number are one matcher, and two
templates never share one.

Key definitions: `MatcherStore.Series`, `MatcherStore.obtainEach`,
`MatcherStore.Numbered`.
Key theorems: `MatcherStore.obtain_cases`, `MatcherStore.obtain_of_error`,
`MatcherStore.get?_obtain_eq_some_iff`, `MatcherStore.Numbered.obtain`,
`MatcherStore.Numbered.template_eq`, `MatcherStore.compile_of_answer`,
`MatcherStore.get?_obtainEach`, `MatcherStore.extends_obtainEach`.
-/
import Mathlib.Data.List.Nodup
import Signpost.Proofs.Matcher.Store

namespace Signpost
namespace MatcherStore

variable {s : MatcherStore}

/-! ### One template -/

/-- **What asking for a template can do.** The template has a matcher, which is the
answer; or it does not compile; or it gets a new matcher, which is numbered by the
size of the store. -/
theorem obtain_cases (s : MatcherStore) (template : String) :
    (∃ m, s.get? template = some m ∧ s.obtain template = ⟨s, .ok m⟩) ∨
    (∃ e, Template.compile template = .error e ∧ s.obtain template = ⟨s, .error e⟩) ∨
    (∃ regex, s.get? template = none ∧ Template.compile template = .ok regex ∧
      s.obtain template =
        ⟨⟨s.table.insert template ⟨s.size, regex⟩⟩, .ok ⟨s.size, regex⟩⟩) := by
  cases hget : s.get? template with
  | some m =>
    refine Or.inl ⟨m, rfl, ?_⟩
    simp only [MatcherStore.obtain, hget]
  | none =>
    cases hcompile : Template.compile template with
    | error e =>
      refine Or.inr (Or.inl ⟨e, rfl, ?_⟩)
      simp only [MatcherStore.obtain, hget, hcompile]
    | ok regex =>
      refine Or.inr (Or.inr ⟨regex, rfl, rfl, ?_⟩)
      simp only [MatcherStore.obtain, hget, hcompile]

theorem obtain_of_error (hs : s.Faithful) {template : String} {e : TemplateError}
    (h : Template.compile template = .error e) : s.obtain template = ⟨s, .error e⟩ := by
  rcases obtain_cases s template with ⟨m, hget, -⟩ | ⟨e', hcompile, hobtain⟩ | ⟨regex, -, hcompile, -⟩
  · rw [hs template m hget] at h
    cases h
  · rw [hcompile] at h
    cases h
    exact hobtain
  · rw [hcompile] at h
    cases h

/-- What a store has after it was asked for a template: what it had, and what it
answered. -/
theorem get?_obtain_eq_some_iff (s : MatcherStore) (template other : String) (m : Matcher) :
    (s.obtain template).store.get? other = some m ↔
      s.get? other = some m ∨ (other = template ∧ (s.obtain template).outcome = .ok m) := by
  rcases obtain_cases s template with
    ⟨m', hget, hobtain⟩ | ⟨e, -, hobtain⟩ | ⟨regex, hnone, -, hobtain⟩
  · rw [hobtain]
    have hsame : other = template ∧ Except.ok (ε := TemplateError) m' = .ok m →
        s.get? other = some m := by
      rintro ⟨rfl, hm⟩
      cases hm
      exact hget
    exact (or_iff_left_of_imp hsame).symm
  · rw [hobtain]
    simp
  · rw [hobtain]
    show (s.table.insert template _).get? other = some m ↔ s.table.get? other = some m ∨ _
    by_cases heq : other = template
    · subst heq
      have hnone' : s.table.get? other = none := hnone
      rw [Table.get?_insert_self, hnone']
      simp
    · rw [Table.get?_insert_ne s.table heq]
      simp [heq]

/-! ### Numbers -/

/-- Each template has one entry, and the number of a matcher is the number of the
entries before its own. -/
structure Numbered (s : MatcherStore) : Prop where
  nodup_keys : s.table.keys.Nodup
  serial_eq : ∀ (position : Nat) (template : String) (m : Matcher),
    s.table.entries[position]? = some (template, m) → m.serial = position

theorem numbered_empty : empty.Numbered := by
  refine ⟨List.nodup_nil, fun position template m h => ?_⟩
  simp [empty] at h

/-- A matcher belongs to one template. -/
theorem Numbered.template_eq (h : s.Numbered) {template template' : String} {m m' : Matcher}
    (hm : s.get? template = some m) (hm' : s.get? template' = some m')
    (hserial : m.serial = m'.serial) : template = template' := by
  obtain ⟨position, hposition⟩ := List.mem_iff_getElem?.mp (Table.mem_entries_of_get? hm)
  obtain ⟨position', hposition'⟩ := List.mem_iff_getElem?.mp (Table.mem_entries_of_get? hm')
  have hsame : position = position' := by
    rw [← h.serial_eq position template m hposition, hserial,
      h.serial_eq position' template' m' hposition']
  rw [hsame, hposition'] at hposition
  cases hposition
  rfl

/-- A new entry comes last, and its number tells how many there were. -/
theorem Numbered.insert (h : s.Numbered) {template : String} (hnone : s.get? template = none)
    (regex : Regex) :
    (⟨s.table.insert template ⟨s.size, regex⟩⟩ : MatcherStore).Numbered := by
  have hentries : (s.table.insert template ⟨s.size, regex⟩).entries =
      s.table.entries ++ [(template, ⟨s.size, regex⟩)] := Table.put_of_find_none _ hnone
  have hnot : template ∉ s.table.keys := by
    rw [← Table.isSome_get?_iff]
    show ¬ (s.get? template).isSome = true
    simp [hnone]
  refine ⟨?_, fun position other m hposition => ?_⟩
  · rw [Table.keys_insert, if_neg hnot, List.nodup_append]
    refine ⟨h.nodup_keys, List.nodup_singleton template, fun a ha b hb hab => hnot ?_⟩
    rw [← List.mem_singleton.mp hb, ← hab]
    exact ha
  · rw [hentries] at hposition
    rcases Nat.lt_or_ge position s.table.entries.length with hlt | hge
    · rw [List.getElem?_append_left hlt] at hposition
      exact h.serial_eq position other m hposition
    · rw [List.getElem?_append_right hge, List.getElem?_singleton] at hposition
      split at hposition
      · cases hposition
        show s.table.entries.length = position
        omega
      · cases hposition

theorem Numbered.obtain (h : s.Numbered) (template : String) :
    (s.obtain template).store.Numbered := by
  rcases obtain_cases s template with
    ⟨m, -, hobtain⟩ | ⟨e, -, hobtain⟩ | ⟨regex, hnone, -, hobtain⟩
  · rw [hobtain]
    exact h
  · rw [hobtain]
    exact h
  · rw [hobtain]
    exact h.insert hnone regex

theorem Numbered.obtainFor (h : s.Numbered) (segment : String) :
    (s.obtainFor segment).store.Numbered := by
  cases hp : Template.isPattern segment with
  | false =>
    rw [s.obtainFor_literal hp]
    exact h
  | true =>
    rw [s.obtainFor_pattern hp]
    exact h.obtain segment

theorem Numbered.obtainAll : ∀ (segments : List String) {s : MatcherStore}, s.Numbered →
    (s.obtainAll segments).store.Numbered
  | [], _, h => h
  | segment :: rest, s, h => by
    cases ho : (s.obtainFor segment).outcome with
    | error e =>
      rw [obtainAll_cons_error ho]
      exact h.obtainFor segment
    | ok m =>
      rw [obtainAll_cons_ok ho]
      exact Numbered.obtainAll rest (h.obtainFor segment)

/-! ### One template after the other -/

/-- What comes of asking a store for some templates, one after the other: the
store after it, and each template with its answer. -/
structure Series where
  store : MatcherStore
  answers : List (String × Except TemplateError Matcher)

/-- Asks a store for some templates, one after the other. -/
def obtainEach : List String → MatcherStore → Series
  | [], s => ⟨s, []⟩
  | template :: rest, s =>
    let asked := s.obtain template
    let later := obtainEach rest asked.store
    ⟨later.store, (template, asked.outcome) :: later.answers⟩

theorem store_obtainEach_append : ∀ (templates later : List String) (s : MatcherStore),
    (obtainEach (templates ++ later) s).store = (obtainEach later (obtainEach templates s).store).store
  | [], _, _ => rfl
  | _ :: templates, later, _ => store_obtainEach_append templates later _

theorem map_answers_obtainEach : ∀ (templates : List String) (s : MatcherStore),
    (obtainEach templates s).answers.map (·.1) = templates
  | [], _ => rfl
  | template :: rest, _ => congrArg (template :: ·) (map_answers_obtainEach rest _)

theorem faithful_obtainEach : ∀ (templates : List String) {s : MatcherStore}, s.Faithful →
    (obtainEach templates s).store.Faithful
  | [], _, hs => hs
  | template :: rest, _, hs => faithful_obtainEach rest (obtain_spec hs template).1

theorem numbered_obtainEach : ∀ (templates : List String) {s : MatcherStore}, s.Numbered →
    (obtainEach templates s).store.Numbered
  | [], _, h => h
  | template :: rest, _, h => numbered_obtainEach rest (h.obtain template)

/-- An answer is the compiled template or the error of compiling it. -/
theorem compile_of_answer : ∀ {templates : List String} {s : MatcherStore}, s.Faithful →
    ∀ {template : String} {outcome : Except TemplateError Matcher},
      (template, outcome) ∈ (obtainEach templates s).answers →
      Template.compile template = outcome.map Matcher.regex
  | [], _, _, _, _, h => by cases h
  | first :: rest, s, hs, template, outcome, h => by
    obtain ⟨hfaith, -, hout⟩ := obtain_spec hs first
    rcases List.mem_cons.mp h with heq | h
    · cases heq
      cases ho : (s.obtain first).outcome with
      | ok m =>
        rw [ho] at hout
        exact hout.1
      | error e =>
        rw [ho] at hout
        exact hout.1
    · exact compile_of_answer hfaith h

/-- **What a store has.** It has what it had, and what it answered. -/
theorem get?_obtainEach : ∀ (templates : List String) (s : MatcherStore) (template : String)
    (m : Matcher), (obtainEach templates s).store.get? template = some m ↔
      s.get? template = some m ∨ (template, .ok m) ∈ (obtainEach templates s).answers
  | [], _, template, m => by simp [obtainEach]
  | first :: rest, s, template, m => by
    have ih := get?_obtainEach rest (s.obtain first).store template m
    rw [get?_obtain_eq_some_iff] at ih
    show (obtainEach rest (s.obtain first).store).store.get? template = some m ↔ _ ∨
      (template, Except.ok m) ∈ (first, (s.obtain first).outcome) ::
        (obtainEach rest (s.obtain first).store).answers
    rw [ih, or_assoc, List.mem_cons, Prod.mk.injEq, eq_comm (a := Except.ok m)]

theorem extends_obtainEach (templates : List String) (s : MatcherStore) :
    (obtainEach templates s).store.Extends s := fun template m h =>
  (get?_obtainEach templates s template m).mpr (Or.inl h)

end MatcherStore
end Signpost
