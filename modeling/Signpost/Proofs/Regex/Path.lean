/-
# Paths through a program

A path is a sequence of steps of a program over a text. A search follows paths:
what it finds is the end of a path (`run_sound`), and if it finds nothing, no
path runs off the end of the program (`run_complete`). For the second it is
needed that the states that were entered are closed under steps, up to the
threads that wait (`Closed`), and that the steps of the search are enough: a
step enters a state that was not entered, or takes a thread away, so the fuel is
compared with `2 * (unentered …).card + waiting.length`.

Key definitions: `Program.Steps`, `Program.Path`, `Program.Closed`,
`Program.unentered`.
Key theorems: `Program.run_sound`, `Program.run_complete`,
`Program.isSome_run_iff`.
-/
import Mathlib.Data.Finset.Card
import Mathlib.Data.Finset.Prod
import Mathlib.Data.Finset.Range
import Signpost.Regex.Search

namespace Signpost
namespace Regex
namespace Program

variable {p : Program} {text : Array Char}

/-- One step of a program over a text. -/
def Steps (p : Program) (text : Array Char) (t t' : Thread) : Prop :=
  ∃ i, p[t.address]? = some i ∧ t' ∈ next text t i

/-- A path of a number of steps. -/
inductive Path (p : Program) (text : Array Char) : Nat → Thread → Thread → Prop
  | refl (t : Thread) : Path p text 0 t t
  | step {n : Nat} {t t' u : Thread} : Steps p text t t' → Path p text n t' u →
      Path p text (n + 1) t u

theorem Path.trans {m n : Nat} {t u v : Thread} (h : Path p text m t u) (h' : Path p text n u v) :
    Path p text (m + n) t v := by
  induction h with
  | refl t => rwa [Nat.zero_add]
  | step hs _ ih =>
    rw [Nat.add_right_comm]
    exact Path.step hs (ih h')

theorem Path.single {t t' : Thread} (h : Steps p text t t') : Path p text 1 t t' :=
  Path.step h (Path.refl t')

theorem position_next {t t' : Thread} {i : Instruction} (h : t' ∈ next text t i)
    (ht : t.position ≤ text.size) : t.position ≤ t'.position ∧ t'.position ≤ text.size := by
  cases i with
  | consume s =>
    simp only [next, Thread.after] at h
    cases hc : text[t.position]? with
    | none => simp [hc] at h
    | some c =>
      have hlt := (Array.getElem?_eq_some_iff.mp hc).1
      simp only [hc] at h
      split at h
      · rw [List.mem_singleton.mp h]
        exact ⟨Nat.le_succ _, hlt⟩
      · cases h
  | check a =>
    simp only [next] at h
    split at h
    · rw [List.mem_singleton.mp h]
      exact ⟨Nat.le_refl _, ht⟩
    · cases h
  | fork preferred fallback =>
    rcases List.mem_pair.mp h with rfl | rfl
    · exact ⟨Nat.le_refl _, ht⟩
    · exact ⟨Nat.le_refl _, ht⟩
  | jump target =>
    rw [List.mem_singleton.mp h]
    exact ⟨Nat.le_refl _, ht⟩
  | mark slot =>
    rw [List.mem_singleton.mp h]
    exact ⟨Nat.le_refl _, ht⟩

/-! ### What is found is the end of a path -/

theorem follow_sound : ∀ {fuel : Nat} {entered : BitGrid} {waiting : List Thread} {t : Thread}
    {entered' : BitGrid}, follow p text fuel entered waiting = (some t, entered') →
    p[t.address]? = none ∧ ∃ s ∈ waiting, ∃ n, Path p text n s t
  | 0, _, _, _, _, h => by cases h
  | _ + 1, _, [], _, _, h => by cases h
  | fuel + 1, entered, s :: waiting, t, entered', h => by
    unfold follow at h
    cases hi : p[s.address]? with
    | none =>
      rw [hi] at h
      cases h
      exact ⟨hi, s, List.mem_cons_self, 0, Path.refl s⟩
    | some i =>
      simp only [hi] at h
      split at h
      · obtain ⟨hend, s', hs', n, hpath⟩ := follow_sound h
        exact ⟨hend, s', List.mem_cons_of_mem _ hs', n, hpath⟩
      · obtain ⟨hend, s', hs', n, hpath⟩ := follow_sound h
        rcases List.mem_append.mp hs' with hnext | hwait
        · exact ⟨hend, s, List.mem_cons_self, n + 1, Path.step ⟨i, hi, hnext⟩ hpath⟩
        · exact ⟨hend, s', List.mem_cons_of_mem _ hwait, n, hpath⟩

theorem runFrom_sound : ∀ {starts : List Nat} {entered : BitGrid} {start : Nat} {t : Thread},
    runFrom p text starts entered = some (start, t) →
    start ∈ starts ∧ p[t.address]? = none ∧ ∃ n, Path p text n { address := 0, position := start } t
  | [], _, _, _, h => by cases h
  | s :: starts, entered, start, t, h => by
    unfold runFrom at h
    cases hf : follow p text (stepLimit p text) entered [{ address := 0, position := s }] with
    | mk found entered' =>
      rw [hf] at h
      cases found with
      | some t' =>
        cases h
        obtain ⟨hend, u, hu, hpath⟩ := follow_sound hf
        rw [List.mem_singleton.mp hu] at hpath
        exact ⟨List.mem_cons_self, hend, hpath⟩
      | none =>
        obtain ⟨hmem, hend, hpath⟩ := runFrom_sound h
        exact ⟨List.mem_cons_of_mem _ hmem, hend, hpath⟩

/-- **A match is a path.** The thread that is found has run off the end of the
program, on a path from the start of the match. -/
theorem run_sound {start : Nat} {t : Thread} (h : run p text = some (start, t)) :
    start ≤ text.size ∧ p[t.address]? = none ∧
      ∃ n, Path p text n { address := 0, position := start } t := by
  obtain ⟨hmem, hend, hpath⟩ := runFrom_sound h
  exact ⟨Nat.le_of_lt_succ (List.mem_range.mp hmem), hend, hpath⟩

/-! ### Where nothing is found there is no path -/

/-- A step does not look at the marks. -/
theorem next_of_same {t u t' : Thread} {i : Instruction} (hpos : u.position = t.position)
    (haddr : u.address = t.address) (h : t' ∈ next text t i) :
    ∃ u' ∈ next text u i, u'.position = t'.position ∧ u'.address = t'.address := by
  obtain ⟨a, pos, marks⟩ := t
  obtain ⟨a', pos', marks'⟩ := u
  cases hpos
  cases haddr
  cases i with
  | consume s =>
    simp only [next, Thread.after] at h ⊢
    cases hc : text[pos]? with
    | none => simp [hc] at h
    | some c =>
      simp only [hc] at h ⊢
      split at h
      case isTrue hs =>
        rw [if_pos hs, List.mem_singleton.mp h]
        exact ⟨_, List.mem_singleton_self _, rfl, rfl⟩
      case isFalse => cases h
  | check b =>
    by_cases hs : b.holds (Thread.before text ⟨a, pos, marks⟩)
        (Thread.after text ⟨a, pos, marks⟩) = true
    · have hs' : b.holds (Thread.before text ⟨a, pos, marks'⟩)
          (Thread.after text ⟨a, pos, marks'⟩) = true := hs
      rw [next, if_pos hs] at h
      rw [next, if_pos hs', List.mem_singleton.mp h]
      exact ⟨_, List.mem_singleton_self _, rfl, rfl⟩
    · rw [next, if_neg hs] at h
      cases h
  | fork preferred fallback =>
    rcases List.mem_pair.mp h with rfl | rfl
    · exact ⟨_, List.mem_cons_self, rfl, rfl⟩
    · exact ⟨_, List.mem_cons_of_mem _ (List.mem_singleton_self _), rfl, rfl⟩
  | jump target =>
    rw [List.mem_singleton.mp h]
    exact ⟨_, List.mem_singleton_self _, rfl, rfl⟩
  | mark slot =>
    rw [List.mem_singleton.mp h]
    exact ⟨_, List.mem_singleton_self _, rfl, rfl⟩

/-- The states that were entered are those of instructions, and a step from one
of them leads to another or to a thread that waits. -/
structure Closed (p : Program) (text : Array Char) (entered : BitGrid) (waiting : List Thread) :
    Prop where
  inside : ∀ t : Thread, entered.get t.position t.address = true → p[t.address]? ≠ none
  steps : ∀ t t' : Thread, entered.get t.position t.address = true → Steps p text t t' →
    entered.get t'.position t'.address = true ∨
      ∃ u ∈ waiting, u.position = t'.position ∧ u.address = t'.address

theorem closed_empty : Closed p text {} [] := by
  constructor
  · intro t h
    rw [BitGrid.get_clear] at h
    cases h
  · intro t t' h
    rw [BitGrid.get_clear] at h
    cases h

theorem Closed.skip {entered : BitGrid} {t : Thread} {waiting : List Thread}
    (h : Closed p text entered (t :: waiting)) (ht : entered.get t.position t.address = true) :
    Closed p text entered waiting := by
  refine ⟨h.inside, fun u u' hu hstep => ?_⟩
  rcases h.steps u u' hu hstep with hin | ⟨v, hv, hpos, haddr⟩
  · exact Or.inl hin
  · rcases List.mem_cons.mp hv with rfl | hv
    · rw [hpos, haddr] at ht
      exact Or.inl ht
    · exact Or.inr ⟨v, hv, hpos, haddr⟩

/-- A state is entered, and the threads that follow wait in place of its own. -/
theorem Closed.enter {entered : BitGrid} {t : Thread} {waiting : List Thread} {i : Instruction}
    (h : Closed p text entered (t :: waiting)) (hi : p[t.address]? = some i) :
    Closed p text (entered.set t.position t.address) (next text t i ++ waiting) := by
  have hset : ∀ u : Thread, (entered.set t.position t.address).get u.position u.address = true ↔
      entered.get u.position u.address = true ∨ (u.position = t.position ∧ u.address = t.address) := by
    intro u
    rw [BitGrid.get_set]
    simp
  refine ⟨fun u hu => ?_, fun u u' hu hstep => ?_⟩
  · rcases (hset u).mp hu with hu | ⟨-, haddr⟩
    · exact h.inside u hu
    · rw [haddr, hi]
      exact Option.some_ne_none i
  · rcases (hset u).mp hu with hu | ⟨hpos, haddr⟩
    · rcases h.steps u u' hu hstep with hin | ⟨v, hv, hpos, haddr⟩
      · exact Or.inl ((hset u').mpr (Or.inl hin))
      · rcases List.mem_cons.mp hv with rfl | hv
        · exact Or.inl ((hset u').mpr (Or.inr ⟨hpos.symm, haddr.symm⟩))
        · exact Or.inr ⟨v, List.mem_append_right _ hv, hpos, haddr⟩
    · obtain ⟨j, hj, hnext⟩ := hstep
      rw [haddr, hi] at hj
      cases hj
      obtain ⟨v, hv, hpos', haddr'⟩ := next_of_same hpos.symm haddr.symm hnext
      exact Or.inr ⟨v, List.mem_append_left _ hv, hpos', haddr'⟩

/-- From a state that was entered, nothing but such states is reached. -/
theorem Closed.path {entered : BitGrid} (h : Closed p text entered []) {n : Nat} {t u : Thread}
    (hpath : Path p text n t u) (ht : entered.get t.position t.address = true) :
    p[u.address]? ≠ none := by
  induction hpath with
  | refl t => exact h.inside t ht
  | step hs _ ih =>
    rcases h.steps _ _ ht hs with hin | ⟨v, hv, -⟩
    · exact ih hin
    · cases hv

/-- The states that were not entered yet. -/
def unentered (p : Program) (text : Array Char) (entered : BitGrid) : Finset (Nat × Nat) :=
  (Finset.range (text.size + 1) ×ˢ Finset.range p.size).filter fun s => entered.get s.1 s.2 = false

theorem card_unentered_le (p : Program) (text : Array Char) (entered : BitGrid) :
    (unentered p text entered).card ≤ stateCount p text := by
  have h := Finset.card_filter_le (Finset.range (text.size + 1) ×ˢ Finset.range p.size)
    fun s => entered.get s.1 s.2 = false
  rw [Finset.card_product, Finset.card_range, Finset.card_range, Nat.mul_comm] at h
  exact h

/-- Entering a state leaves one less to enter. -/
theorem card_unentered_set {entered : BitGrid} {row column : Nat} (hrow : row ≤ text.size)
    (hcolumn : column < p.size) (hnew : entered.get row column = false) :
    (unentered p text (entered.set row column)).card + 1 = (unentered p text entered).card := by
  have hmem : (row, column) ∈ unentered p text entered := by
    simp [unentered, Nat.lt_succ_of_le hrow, hcolumn, hnew]
  have herase : unentered p text (entered.set row column) =
      (unentered p text entered).erase (row, column) := by
    ext ⟨r, c⟩
    simp only [unentered, Finset.mem_filter, Finset.mem_erase, BitGrid.get_set, ne_eq,
      Prod.mk.injEq, Bool.or_eq_false_iff, Bool.and_eq_false_iff, decide_eq_false_iff_not]
    tauto
  rw [herase, Finset.card_erase_add_one hmem]

theorem length_next_le (text : Array Char) (t : Thread) (i : Instruction) : (next text t i).length ≤ 2 := by
  cases i with
  | consume s =>
    simp only [next]
    split
    · exact Nat.zero_le _
    · split <;> simp
  | check a =>
    simp only [next]
    split <;> simp
  | fork preferred fallback => exact Nat.le_refl _
  | jump target => exact Nat.le_succ _
  | mark slot => exact Nat.le_succ _

/-- A search that finds nothing ends with all that waited entered, and nothing
waiting. -/
theorem follow_complete : ∀ {fuel : Nat} {entered : BitGrid} {waiting : List Thread}
    {entered' : BitGrid}, follow p text fuel entered waiting = (none, entered') →
    2 * (unentered p text entered).card + waiting.length ≤ fuel →
    (∀ t ∈ waiting, t.position ≤ text.size) → Closed p text entered waiting →
    Closed p text entered' [] ∧
      (∀ row column, entered.get row column = true → entered'.get row column = true) ∧
      ∀ t ∈ waiting, entered'.get t.position t.address = true
  | 0, entered, waiting, entered', h, hfuel, _, hc => by
    cases h
    have hnil : waiting = [] := List.length_eq_zero_iff.mp (by omega)
    subst hnil
    exact ⟨hc, fun _ _ hin => hin, fun t ht => by cases ht⟩
  | _ + 1, entered, [], entered', h, _, _, hc => by
    cases h
    exact ⟨hc, fun _ _ hin => hin, fun t ht => by cases ht⟩
  | fuel + 1, entered, t :: waiting, entered', h, hfuel, hpos, hc => by
    unfold follow at h
    rw [List.length_cons] at hfuel
    have hpos' : ∀ u ∈ waiting, u.position ≤ text.size :=
      fun u hu => hpos u (List.mem_cons_of_mem _ hu)
    cases hi : p[t.address]? with
    | none =>
      rw [hi] at h
      cases h
    | some i =>
      simp only [hi] at h
      split at h
      case isTrue hin =>
        obtain ⟨hclosed, hmono, hall⟩ := follow_complete h (by omega) hpos' (hc.skip hin)
        refine ⟨hclosed, hmono, fun u hu => ?_⟩
        rcases List.mem_cons.mp hu with rfl | hu
        · exact hmono _ _ hin
        · exact hall u hu
      case isFalse hnot =>
        have ht := hpos t List.mem_cons_self
        have hlt : t.address < p.size := (Array.getElem?_eq_some_iff.mp hi).1
        have hcard := card_unentered_set (p := p) ht hlt (Bool.eq_false_iff.mpr hnot)
        have hlen := length_next_le text t i
        have hposn : ∀ u ∈ next text t i ++ waiting, u.position ≤ text.size := by
          intro u hu
          rcases List.mem_append.mp hu with hu | hu
          · exact (position_next hu ht).2
          · exact hpos' u hu
        have hfuel' : 2 * (unentered p text (entered.set t.position t.address)).card +
            (next text t i ++ waiting).length ≤ fuel := by
          rw [List.length_append]
          omega
        obtain ⟨hclosed, hmono, hall⟩ := follow_complete h hfuel' hposn (hc.enter hi)
        refine ⟨hclosed, fun row column hin => hmono row column ?_, fun u hu => ?_⟩
        · rw [BitGrid.get_set, hin, Bool.true_or]
        · rcases List.mem_cons.mp hu with rfl | hu
          · refine hmono _ _ ?_
            rw [BitGrid.get_set]
            simp
          · exact hall u (List.mem_append_right _ hu)

theorem runFrom_complete : ∀ {starts : List Nat} {entered : BitGrid},
    runFrom p text starts entered = none → (∀ start ∈ starts, start ≤ text.size) →
    Closed p text entered [] → ∀ start ∈ starts, ∀ (n : Nat) (t : Thread),
      Path p text n { address := 0, position := start } t → p[t.address]? ≠ none
  | [], _, _, _, _, start, hmem => by cases hmem
  | s :: starts, entered, h, hle, hc, start, hmem => by
    intro n t hpath
    unfold runFrom at h
    cases hf : follow p text (stepLimit p text) entered [{ address := 0, position := s }] with
    | mk found entered' =>
      rw [hf] at h
      cases found with
      | some t' => cases h
      | none =>
        have hcard := card_unentered_le p text entered
        have hfuel : 2 * (unentered p text entered).card + 1 ≤ stepLimit p text := by
          unfold stepLimit
          omega
        have hwait : Closed p text entered [{ address := 0, position := s }] := by
          refine ⟨hc.inside, fun u u' hu hstep => ?_⟩
          rcases hc.steps u u' hu hstep with hin | ⟨v, hv, -⟩
          · exact Or.inl hin
          · cases hv
        have hs : ∀ t ∈ [({ address := 0, position := s } : Thread)], t.position ≤ text.size := by
          intro t ht
          rw [List.mem_singleton.mp ht]
          exact hle s List.mem_cons_self
        obtain ⟨hclosed, -, hall⟩ := follow_complete hf hfuel hs hwait
        rcases List.mem_cons.mp hmem with rfl | hmem
        · exact hclosed.path hpath (hall _ (List.mem_singleton_self _))
        · exact runFrom_complete h (fun u hu => hle u (List.mem_cons_of_mem _ hu)) hclosed start hmem
            n t hpath

/-- **Nothing is missed.** If a search finds nothing, no path from the first
instruction runs off the end of the program, wherever it starts in the text. -/
theorem run_complete (h : run p text = none) {start : Nat} (hstart : start ≤ text.size) {n : Nat}
    {t : Thread} (hpath : Path p text n { address := 0, position := start } t) :
    p[t.address]? ≠ none :=
  runFrom_complete h (fun _ hs => Nat.le_of_lt_succ (List.mem_range.mp hs)) closed_empty start
    (List.mem_range.mpr (Nat.lt_succ_of_le hstart)) n t hpath

theorem isSome_run_iff : (run p text).isSome = true ↔
    ∃ start ≤ text.size, ∃ t n, Path p text n { address := 0, position := start } t ∧
      p[t.address]? = none := by
  constructor
  · intro h
    obtain ⟨⟨start, t⟩, hrun⟩ := Option.isSome_iff_exists.mp h
    obtain ⟨hle, hend, n, hpath⟩ := run_sound hrun
    exact ⟨start, hle, t, n, hpath, hend⟩
  · rintro ⟨start, hle, t, n, hpath, hend⟩
    cases hrun : run p text with
    | some found => rfl
    | none => exact absurd hend (run_complete hrun hle hpath)

end Program
end Regex
end Signpost
