/-
# The code of an expression

The code of an expression is a block of the program. A block stands for a
relation between spots (`Program.Block`): from its first address its end is
reached with just the spots that are related, and whatever is reached outside
of it is reached through its end. Blocks are put together as the code is, one
after the other, as branches, or as rounds of a loop; so the code of an
expression stands for what the expression means (`block_code`), and a search
finds just what the expression spans (`run_spans`, `isSome_run_program_iff`).

Where a block is left the path that is left is no longer than it was. Loops
need this: the induction is on the length of the path.

Key definitions: `Program.HasCode`, `Program.Block`.
Key theorems: `Program.Block.seq`, `Program.Block.alt`, `Program.Block.plus`,
`Program.Block.star`, `Expr.block_code`, `Expr.run_spans`,
`Expr.isSome_run_program_iff`.
-/
import Signpost.Proofs.Regex.Meaning
import Signpost.Proofs.Regex.Path

namespace Signpost
namespace Regex
namespace Program

variable {p : Program} {text : Array Char}

/-! ### Steps by their instructions -/

theorem steps_iff {i : Instruction} {a : Spot} {address : Nat} (hi : p[address]? = some i)
    {t : Thread} : Steps p text (a.thread address) t ↔ t ∈ next text (a.thread address) i := by
  constructor
  · rintro ⟨j, hj, h⟩
    rw [Spot.address_thread, hi] at hj
    cases hj
    exact h
  · intro h
    exact ⟨i, hi, h⟩

theorem steps_consume {s : CharSet} {a : Spot} {address : Nat}
    (hi : p[address]? = some (.consume s)) {t : Thread} :
    Steps p text (a.thread address) t ↔
      ∃ c, a.after text = some c ∧ s.contains c = true ∧ t = a.advance.thread (address + 1) := by
  rw [steps_iff hi]
  have hafter : Thread.after text (a.thread address) = a.after text := rfl
  simp only [next, hafter]
  cases hc : a.after text with
  | none => simp
  | some c =>
    by_cases hs : s.contains c = true
    · simp [hs, Spot.thread, Spot.advance]
    · simp [hs]

theorem steps_check {q : Assertion} {a : Spot} {address : Nat}
    (hi : p[address]? = some (.check q)) {t : Thread} :
    Steps p text (a.thread address) t ↔
      q.holds (a.before text) (a.after text) = true ∧ t = a.thread (address + 1) := by
  rw [steps_iff hi]
  have hafter : Thread.after text (a.thread address) = a.after text := rfl
  have hbefore : Thread.before text (a.thread address) = a.before text := rfl
  simp only [next, hafter, hbefore]
  by_cases hq : q.holds (a.before text) (a.after text) = true
  · simp [hq, Spot.thread, Thread.goTo]
  · simp [hq]

theorem steps_forkTo {greedy : Bool} {a : Spot} {address inside outside : Nat}
    (hi : p[address]? = some (Expr.forkTo greedy inside outside)) {t : Thread} :
    Steps p text (a.thread address) t ↔ t = a.thread inside ∨ t = a.thread outside := by
  rw [steps_iff hi]
  cases greedy with
  | true => exact List.mem_pair
  | false => exact List.mem_pair.trans or_comm

theorem steps_jump {a : Spot} {address target : Nat} (hi : p[address]? = some (.jump target))
    {t : Thread} : Steps p text (a.thread address) t ↔ t = a.thread target := by
  rw [steps_iff hi]
  exact List.mem_singleton

theorem steps_mark {a : Spot} {address slot : Nat} (hi : p[address]? = some (.mark slot))
    {t : Thread} : Steps p text (a.thread address) t ↔ t = (a.mark slot).thread (address + 1) := by
  rw [steps_iff hi]
  exact List.mem_singleton

/-- A path to another address begins with a step. -/
theorem Path.uncons {n : Nat} {a : Spot} {address : Nat} {t : Thread}
    (h : Path p text n (a.thread address) t) (hne : t.address ≠ address) :
    ∃ m s, n = m + 1 ∧ Steps p text (a.thread address) s ∧ Path p text m s t := by
  cases h with
  | refl => exact absurd rfl hne
  | step hs h => exact ⟨_, _, rfl, hs, h⟩

/-! ### Blocks -/

/-- The program has some instructions from an address on. -/
def HasCode (p : Program) (base : Nat) (code : List Instruction) : Prop :=
  ∀ i, i < code.length → p[base + i]? = code[i]?

theorem HasCode.head {base : Nat} {i : Instruction} {code : List Instruction}
    (h : HasCode p base (i :: code)) : p[base]? = some i :=
  h 0 (Nat.succ_pos _)

theorem HasCode.tail {base : Nat} {i : Instruction} {code : List Instruction}
    (h : HasCode p base (i :: code)) : HasCode p (base + 1) code := by
  intro j hj
  rw [Nat.add_assoc, Nat.add_comm 1 j]
  exact h (j + 1) (Nat.succ_lt_succ hj)

theorem HasCode.left {base : Nat} {c d : List Instruction} (h : HasCode p base (c ++ d)) :
    HasCode p base c := by
  intro i hi
  rw [h i (by rw [List.length_append]; omega), List.getElem?_append_left hi]

theorem HasCode.right {base : Nat} {c d : List Instruction} (h : HasCode p base (c ++ d))
    (next : Nat) (hnext : next = base + c.length) : HasCode p next d := by
  intro i hi
  rw [hnext, Nat.add_assoc, h (c.length + i) (by rw [List.length_append]; omega),
    List.getElem?_append_right (Nat.le_add_right _ _), Nat.add_sub_cancel_left]

/-- A block of the program, from its first address to the address after it,
that stands for a relation between spots. -/
structure Block (p : Program) (text : Array Char) (base stop : Nat) (R : Spot → Spot → Prop) :
    Prop where
  le : base ≤ stop
  path : ∀ {a b : Spot}, R a b → ∃ n, Path p text n (a.thread base) (b.thread stop)
  leave : ∀ {n : Nat} {a : Spot} {t : Thread}, Path p text n (a.thread base) t →
    (t.address < base ∨ stop ≤ t.address) →
    ∃ m ≤ n, ∃ b, R a b ∧ Path p text m (b.thread stop) t

namespace Block

variable {base mid stop : Nat} {R S : Spot → Spot → Prop}

theorem congr (h : Block p text base stop R) (hRS : ∀ a b, R a b ↔ S a b) :
    Block p text base stop S := by
  refine ⟨h.le, fun hs => h.path ((hRS _ _).mpr hs), fun hpath hout => ?_⟩
  obtain ⟨m, hm, b, hb, hrest⟩ := h.leave hpath hout
  exact ⟨m, hm, b, (hRS _ _).mp hb, hrest⟩

/-- The block without instructions. -/
theorem nil : Block p text base base fun a b => b = a := by
  refine ⟨Nat.le_refl _, fun h => ?_, fun {n a t} hpath _ => ?_⟩
  · subst h
    exact ⟨0, Path.refl _⟩
  · exact ⟨n, Nat.le_refl n, a, rfl, hpath⟩

theorem instruction (h : ∀ a t, Steps p text (a.thread base) t ↔ ∃ b, R a b ∧ t = b.thread (base + 1)) :
    Block p text base (base + 1) R := by
  refine ⟨Nat.le_succ _, fun {a b} hab => ⟨1, Path.single ((h a _).mpr ⟨b, hab, rfl⟩)⟩, ?_⟩
  intro n a t hpath hout
  obtain ⟨m, s, rfl, hs, hrest⟩ := hpath.uncons (by omega)
  obtain ⟨b, hab, rfl⟩ := (h a s).mp hs
  exact ⟨m, Nat.le_succ m, b, hab, hrest⟩

theorem seq (h : Block p text base mid R) (h' : Block p text mid stop S) :
    Block p text base stop fun a b => ∃ c, R a c ∧ S c b := by
  have hle := h.le
  have hle' := h'.le
  refine ⟨Nat.le_trans hle hle', ?_, fun hpath hout => ?_⟩
  · rintro a b ⟨c, hac, hcb⟩
    obtain ⟨m, hm⟩ := h.path hac
    obtain ⟨n, hn⟩ := h'.path hcb
    exact ⟨m + n, hm.trans hn⟩
  · obtain ⟨m, hm, c, hac, hrest⟩ := h.leave hpath (by omega)
    obtain ⟨k, hk, b, hcb, hrest⟩ := h'.leave hrest (by omega)
    exact ⟨k, Nat.le_trans hk hm, b, ⟨c, hac, hcb⟩, hrest⟩

/-- A choice: a fork to either of two blocks, the first of which ends with a
jump over the second. -/
theorem alt (hfork : p[base]? = some (.fork (base + 1) (mid + 1)))
    (h : Block p text (base + 1) mid R) (hjump : p[mid]? = some (.jump stop))
    (h' : Block p text (mid + 1) stop S) :
    Block p text base stop fun a b => R a b ∨ S a b := by
  have hle := h.le
  have hle' := h'.le
  have hfork' : p[base]? = some (Expr.forkTo true (base + 1) (mid + 1)) := hfork
  have hsteps : ∀ (a : Spot) t, Steps p text (a.thread base) t ↔
      t = a.thread (base + 1) ∨ t = a.thread (mid + 1) := fun _ _ => steps_forkTo hfork'
  refine ⟨by omega, ?_, ?_⟩
  · rintro a b (hab | hab)
    · obtain ⟨n, hn⟩ := h.path hab
      have hj : Steps p text (b.thread mid) (b.thread stop) := (steps_jump hjump).mpr rfl
      exact ⟨_, Path.step ((hsteps a _).mpr (Or.inl rfl)) (hn.trans (Path.single hj))⟩
    · obtain ⟨n, hn⟩ := h'.path hab
      exact ⟨_, Path.step ((hsteps a _).mpr (Or.inr rfl)) hn⟩
  · intro n a t hpath hout
    obtain ⟨m, s, rfl, hs, hrest⟩ := hpath.uncons (by omega)
    rcases (hsteps a s).mp hs with rfl | rfl
    · obtain ⟨k, hk, b, hab, hrest⟩ := h.leave hrest (by omega)
      obtain ⟨l, s, rfl, hs, hrest⟩ := hrest.uncons (by omega)
      rw [(steps_jump hjump).mp hs] at hrest
      exact ⟨l, by omega, b, Or.inl hab, hrest⟩
    · obtain ⟨k, hk, b, hab, hrest⟩ := h'.leave hrest (by omega)
      exact ⟨k, by omega, b, Or.inr hab, hrest⟩

/-- A block behind a fork that may leave for its end. -/
theorem optional {greedy : Bool} (hfork : p[base]? = some (Expr.forkTo greedy (base + 1) stop))
    (h : Block p text (base + 1) stop R) : Block p text base stop fun a b => b = a ∨ R a b := by
  have hle := h.le
  have hsteps : ∀ (a : Spot) t, Steps p text (a.thread base) t ↔
      t = a.thread (base + 1) ∨ t = a.thread stop := fun _ _ => steps_forkTo hfork
  refine ⟨by omega, ?_, ?_⟩
  · rintro a b (rfl | hab)
    · exact ⟨1, Path.single ((hsteps b _).mpr (Or.inr rfl))⟩
    · obtain ⟨n, hn⟩ := h.path hab
      exact ⟨_, Path.step ((hsteps a _).mpr (Or.inl rfl)) hn⟩
  · intro n a t hpath hout
    obtain ⟨m, s, rfl, hs, hrest⟩ := hpath.uncons (by omega)
    rcases (hsteps a s).mp hs with rfl | rfl
    · obtain ⟨k, hk, b, hab, hrest⟩ := h.leave hrest (by omega)
      exact ⟨k, by omega, b, Or.inr hab, hrest⟩
    · exact ⟨m, by omega, a, Or.inl rfl, hrest⟩

/-- A block with a fork after it that may go back to its beginning. -/
theorem plus {greedy : Bool} (h : Block p text base mid R)
    (hfork : p[mid]? = some (Expr.forkTo greedy base (mid + 1))) :
    Block p text base (mid + 1) fun a b => ∃ n, 1 ≤ n ∧ Rounds R n a b := by
  have hle := h.le
  have hsteps : ∀ (a : Spot) t, Steps p text (a.thread mid) t ↔
      t = a.thread base ∨ t = a.thread (mid + 1) := fun _ _ => steps_forkTo hfork
  refine ⟨by omega, ?_, ?_⟩
  · rintro a b ⟨n, hn, hrounds⟩
    obtain ⟨k, rfl⟩ := Nat.exists_eq_add_of_le' hn
    induction k generalizing a with
    | zero =>
      obtain ⟨m, hm⟩ := h.path (rounds_one.mp hrounds)
      exact ⟨_, hm.trans (Path.single ((hsteps b _).mpr (Or.inr rfl)))⟩
    | succ k ih =>
      obtain ⟨c, hac, hrounds⟩ := hrounds
      obtain ⟨m, hm⟩ := h.path hac
      obtain ⟨l, hl⟩ := ih (Nat.le_add_left 1 k) hrounds
      exact ⟨_, hm.trans (Path.step ((hsteps c _).mpr (Or.inl rfl)) hl)⟩
  · intro n
    -- each round leaves a shorter path
    induction n using Nat.strong_induction_on with
    | _ n ih =>
      intro a t hpath hout
      obtain ⟨m, hm, c, hac, hrest⟩ := h.leave hpath (by omega)
      obtain ⟨l, s, rfl, hs, hrest⟩ := hrest.uncons (by omega)
      rcases (hsteps c s).mp hs with rfl | rfl
      · obtain ⟨k, hk, b, ⟨j, hj, hrounds⟩, hrest⟩ := ih l (by omega) hrest hout
        exact ⟨k, by omega, b, ⟨j + 1, Nat.le_add_left 1 j, c, hac, hrounds⟩, hrest⟩
      · exact ⟨l, by omega, c, ⟨1, Nat.le_refl 1, rounds_one.mpr hac⟩, hrest⟩

/-- A block between a fork that may leave for the end and a jump back to this
fork. -/
theorem star {greedy : Bool} (hfork : p[base]? = some (Expr.forkTo greedy (base + 1) (mid + 1)))
    (h : Block p text (base + 1) mid R) (hjump : p[mid]? = some (.jump base)) :
    Block p text base (mid + 1) fun a b => ∃ n, Rounds R n a b := by
  have hle := h.le
  have hsteps : ∀ (a : Spot) t, Steps p text (a.thread base) t ↔
      t = a.thread (base + 1) ∨ t = a.thread (mid + 1) := fun _ _ => steps_forkTo hfork
  refine ⟨by omega, ?_, ?_⟩
  · rintro a b ⟨n, hrounds⟩
    induction n generalizing a with
    | zero =>
      cases hrounds
      exact ⟨1, Path.single ((hsteps b _).mpr (Or.inr rfl))⟩
    | succ n ih =>
      obtain ⟨c, hac, hrounds⟩ := hrounds
      obtain ⟨m, hm⟩ := h.path hac
      obtain ⟨l, hl⟩ := ih hrounds
      exact ⟨_, Path.step ((hsteps a _).mpr (Or.inl rfl))
        (hm.trans (Path.step ((steps_jump hjump).mpr rfl) hl))⟩
  · intro n
    -- each round leaves a shorter path
    induction n using Nat.strong_induction_on with
    | _ n ih =>
      intro a t hpath hout
      obtain ⟨m, s, rfl, hs, hrest⟩ := hpath.uncons (by omega)
      rcases (hsteps a s).mp hs with rfl | rfl
      · obtain ⟨k, hk, c, hac, hrest⟩ := h.leave hrest (by omega)
        obtain ⟨l, s, rfl, hs, hrest⟩ := hrest.uncons (by omega)
        rw [(steps_jump hjump).mp hs] at hrest
        obtain ⟨j, hj, b, ⟨i, hrounds⟩, hrest⟩ := ih l (by omega) hrest hout
        exact ⟨j, by omega, b, ⟨i + 1, c, hac, hrounds⟩, hrest⟩
      · exact ⟨m, by omega, a, ⟨0, rfl⟩, hrest⟩

end Block
end Program

/-! ### The code of an expression is a block -/

namespace Expr

open Program

variable {p : Program} {text : Array Char} {R : Spot → Spot → Prop}

theorem copies_succ (block : Nat → List Instruction) (n count base : Nat) :
    copies block n (count + 1) base = block base ++ copies block n count (base + n) := by
  unfold copies
  rw [List.range_succ_eq_map, List.flatMap_cons, List.flatMap_map, Nat.zero_mul, Nat.add_zero]
  congr 2
  funext i
  rw [Nat.succ_mul, Nat.add_assoc, Nat.add_comm n]

theorem optionals_succ (block : Nat → List Instruction) (n : Nat) (greedy : Bool)
    (stop count base : Nat) :
    optionals block n greedy stop (count + 1) base =
      forkTo greedy (base + 1) stop ::
        (block (base + 1) ++ optionals block n greedy stop count (base + n + 1)) := by
  unfold optionals
  rw [List.range_succ_eq_map, List.flatMap_cons, List.flatMap_map, Nat.zero_mul, Nat.add_zero,
    List.cons_append]
  congr 3
  funext i
  rw [Nat.succ_mul, Nat.add_assoc base n 1, Nat.add_assoc base (n + 1), Nat.add_comm (n + 1)]

theorem block_copies {block : Nat → List Instruction} {n : Nat}
    (hlen : ∀ base, (block base).length = n)
    (hblock : ∀ base, HasCode p base (block base) → Block p text base (base + n) R) :
    ∀ {count base stop : Nat}, HasCode p base (copies block n count base) →
      stop = base + count * n → Block p text base stop (Rounds R count)
  | 0, base, stop, _, hstop => by
    rw [hstop, Nat.zero_mul]
    exact Block.nil
  | count + 1, base, stop, h, hstop => by
    rw [copies_succ] at h
    rw [Nat.succ_mul] at hstop
    exact (hblock base h.left).seq
      (block_copies hlen hblock (h.right _ (by rw [hlen])) (by omega))

/-- Blocks of which each may be left out with all that follow stand for at most
as many rounds. -/
theorem block_optionals {block : Nat → List Instruction} {n : Nat} {greedy : Bool}
    (hlen : ∀ base, (block base).length = n)
    (hblock : ∀ base, HasCode p base (block base) → Block p text base (base + n) R) :
    ∀ {count base stop : Nat}, HasCode p base (optionals block n greedy stop count base) →
      stop = base + count * (n + 1) →
      Block p text base stop fun a b => ∃ k ≤ count, Rounds R k a b
  | 0, base, stop, _, hstop => by
    rw [hstop, Nat.zero_mul]
    refine Block.nil.congr fun a b => ⟨?_, ?_⟩
    · rintro rfl
      exact ⟨0, Nat.le_refl 0, rfl⟩
    · rintro ⟨k, hk, h⟩
      rw [Nat.le_zero.mp hk] at h
      exact h
  | count + 1, base, stop, h, hstop => by
    rw [optionals_succ] at h
    rw [Nat.succ_mul] at hstop
    have hcode := h.tail.right (base + n + 1) (by rw [hlen]; omega)
    have hend : stop = base + n + 1 + count * (n + 1) := by omega
    have hrest := block_optionals hlen hblock hcode hend
    have hbody := hblock (base + 1) h.tail.left
    rw [Nat.add_right_comm base 1 n] at hbody
    refine (Block.optional h.head (hbody.seq hrest)).congr fun a b => ⟨?_, ?_⟩
    · rintro (rfl | ⟨c, hac, k, hk, hcb⟩)
      · exact ⟨0, Nat.zero_le _, rfl⟩
      · exact ⟨k + 1, Nat.succ_le_succ hk, c, hac, hcb⟩
    · rintro ⟨k, hk, hab⟩
      cases k with
      | zero => exact Or.inl hab
      | succ k =>
        obtain ⟨c, hac, hcb⟩ := hab
        exact Or.inr ⟨c, hac, k, Nat.le_of_succ_le_succ hk, hcb⟩

/-- The code of a repetition without greatest count stands for at least as many
rounds as the least count. -/
theorem block_repetition_none {block : Nat → List Instruction} {n least : Nat}
    {nullable greedy : Bool} (hlen : ∀ base, (block base).length = n)
    (hblock : ∀ base, HasCode p base (block base) → Block p text base (base + n) R) {base : Nat}
    (h : HasCode p base (repetitionCode block nullable n least none greedy base)) :
    Block p text base (base + repetitionSize n least none) fun a b =>
      ∃ k, least ≤ k ∧ Rounds R k a b := by
  cases least with
  | zero =>
    have hstop : base + n + 2 = base + 1 + n + 1 := by omega
    have hsize : base + repetitionSize n 0 none = base + 1 + n + 1 := hstop
    rw [hsize]
    cases nullable with
    | true =>
      simp only [repetitionCode, if_true, hstop] at h
      have hplus := (hblock (base + 1) h.tail.left).plus (h.tail.right _ (by rw [hlen])).head
      refine (Block.optional h.head hplus).congr fun a b => ⟨?_, ?_⟩
      · rintro (rfl | ⟨k, -, hab⟩)
        · exact ⟨0, Nat.le_refl 0, rfl⟩
        · exact ⟨k, Nat.zero_le k, hab⟩
      · rintro ⟨k, -, hab⟩
        cases k with
        | zero => exact Or.inl hab
        | succ k => exact Or.inr ⟨k + 1, Nat.le_add_left 1 k, hab⟩
    | false =>
      simp only [repetitionCode, Bool.false_eq_true, if_false, hstop] at h
      have hjump := (h.tail.right (base + 1 + n) (by rw [hlen])).head
      refine (Block.star h.head (hblock (base + 1) h.tail.left) hjump).congr fun a b => ⟨?_, ?_⟩
      · rintro ⟨k, hab⟩
        exact ⟨k, Nat.zero_le k, hab⟩
      · rintro ⟨k, -, hab⟩
        exact ⟨k, hab⟩
  | succ least =>
    have hsize : base + repetitionSize n (least + 1) none = base + least * n + n + 1 := by
      simp only [repetitionSize]
      omega
    rw [hsize]
    have hcopies := block_copies hlen hblock h.left rfl
    have hrest := h.right (base + least * n) (by rw [length_copies block n hlen])
    have hplus := (hblock _ hrest.left).plus (hrest.right _ (by rw [hlen])).head
    refine (hcopies.seq hplus).congr fun a b => ⟨?_, ?_⟩
    · rintro ⟨c, hac, k, hk, hcb⟩
      exact ⟨least + k, by omega, rounds_add.mpr ⟨c, hac, hcb⟩⟩
    · rintro ⟨k, hk, hab⟩
      obtain ⟨j, rfl⟩ := Nat.exists_eq_add_of_le (show least ≤ k by omega)
      obtain ⟨c, hac, hcb⟩ := rounds_add.mp hab
      exact ⟨c, hac, j, by omega, hcb⟩

/-- The code of a repetition with a greatest count stands for a number of rounds
between the two. -/
theorem block_repetition_some {block : Nat → List Instruction} {n least most : Nat}
    {nullable greedy : Bool} (hlen : ∀ base, (block base).length = n)
    (hblock : ∀ base, HasCode p base (block base) → Block p text base (base + n) R) {base : Nat}
    (h : HasCode p base (repetitionCode block nullable n least (some most) greedy base)) :
    Block p text base (base + repetitionSize n least (some most)) fun a b =>
      ∃ k, least ≤ k ∧ k ≤ max least most ∧ Rounds R k a b := by
  have hsize : base + repetitionSize n least (some most) =
      base + least * n + (most - least) * (n + 1) := by
    simp only [repetitionSize]
    omega
  rw [hsize]
  have hcopies := block_copies hlen hblock h.left rfl
  have hrest := h.right (base + least * n) (by rw [length_copies block n hlen])
  have hoptionals := block_optionals hlen hblock hrest rfl
  refine (hcopies.seq hoptionals).congr fun a b => ⟨?_, ?_⟩
  · rintro ⟨c, hac, k, hk, hcb⟩
    exact ⟨least + k, by omega, by omega, rounds_add.mpr ⟨c, hac, hcb⟩⟩
  · rintro ⟨k, hk, hk', hab⟩
    obtain ⟨j, rfl⟩ := Nat.exists_eq_add_of_le hk
    obtain ⟨c, hac, hcb⟩ := rounds_add.mp hab
    exact ⟨c, hac, j, by omega, hcb⟩

/-- **The code means what the expression means.** Wherever it stands in a
program, the code of an expression is a block for what the expression spans. -/
theorem block_code : ∀ {e : Expr} {base : Nat}, HasCode p base (code e base) →
    Block p text base (base + codeSize e) (Spans text e)
  | empty, base, _ => Block.nil
  | set _ s, base, h => by
    refine Block.instruction fun a t => ?_
    rw [steps_consume h.head]
    constructor
    · rintro ⟨c, hc, hs, rfl⟩
      exact ⟨_, ⟨c, hc, hs, rfl⟩, rfl⟩
    · rintro ⟨b, ⟨c, hc, hs, rfl⟩, rfl⟩
      exact ⟨c, hc, hs, rfl⟩
  | assertion q, base, h => by
    refine Block.instruction fun a t => ?_
    rw [steps_check h.head]
    constructor
    · rintro ⟨hq, rfl⟩
      exact ⟨a, ⟨hq, rfl⟩, rfl⟩
    · rintro ⟨b, ⟨hq, rfl⟩, rfl⟩
      exact ⟨hq, rfl⟩
  | seq e f, base, h => by
    have he := block_code h.left
    have hf := block_code (h.right _ (by rw [length_code]))
    rw [codeSize, ← Nat.add_assoc]
    exact he.seq hf
  | alt e f, base, h => by
    have hstop : base + codeSize (alt e f) = base + codeSize e + codeSize f + 2 := by
      rw [codeSize]
      omega
    rw [hstop]
    have hmid : base + codeSize e + 2 = base + 1 + codeSize e + 1 := by omega
    simp only [code, hmid] at h
    have he := block_code h.tail.left
    have hrest := h.tail.right (base + 1 + codeSize e) (by rw [length_code])
    have hf := block_code hrest.tail
    have hend : base + 1 + codeSize e + 1 + codeSize f = base + codeSize e + codeSize f + 2 := by
      omega
    rw [hend] at hf
    exact Block.alt h.head he hrest.head hf
  | rep e least none greedy, base, h => by
    refine (block_repetition_none (length_code e) (fun _ hb => block_code hb) h).congr
      fun a b => ⟨?_, ?_⟩
    · rintro ⟨k, hk, hab⟩
      exact ⟨k, hk, fun m hm => absurd hm (Option.some_ne_none m).symm, hab⟩
    · rintro ⟨k, hk, -, hab⟩
      exact ⟨k, hk, hab⟩
  | rep e least (some most) greedy, base, h => by
    refine (block_repetition_some (length_code e) (fun _ hb => block_code hb) h).congr
      fun a b => ⟨?_, ?_⟩
    · rintro ⟨k, hk, hk', hab⟩
      exact ⟨k, hk, fun m hm => Option.some.inj hm ▸ hk', hab⟩
    · rintro ⟨k, hk, hk', hab⟩
      exact ⟨k, hk, hk' most rfl, hab⟩
  | group i name e, base, h => by
    have hstart : Block p text base (base + 1) fun a b => b = a.mark (2 * i) := by
      refine Block.instruction fun a t => ?_
      rw [steps_mark h.head]
      simp
    have he := block_code h.tail.left
    have hrest := h.tail.right (base + 1 + codeSize e) (by rw [length_code])
    have hstop : Block p text (base + 1 + codeSize e) (base + 1 + codeSize e + 1)
        fun a b => b = a.mark (2 * i + 1) := by
      refine Block.instruction fun a t => ?_
      rw [steps_mark hrest.head]
      simp
    have hsize : base + codeSize (group i name e) = base + 1 + codeSize e + 1 := by
      rw [codeSize]
      omega
    rw [hsize]
    refine (hstart.seq (he.seq hstop)).congr fun a b => ⟨?_, ?_⟩
    · rintro ⟨_, rfl, c, hc, rfl⟩
      exact ⟨c, hc, rfl⟩
    · rintro ⟨c, hc, rfl⟩
      exact ⟨_, rfl, c, hc, rfl⟩

theorem hasCode_program (e : Expr) : HasCode e.program 0 (code e 0) := by
  intro i hi
  rw [Nat.zero_add, program, List.getElem?_toArray]

theorem size_program (e : Expr) : e.program.size = codeSize e := by
  rw [program, List.size_toArray, length_code]

/-- **What a search finds is spanned.** A match of the program of an expression
is a way through the expression, from its start to the spot of the thread. -/
theorem run_spans {e : Expr} {start : Nat} {t : Thread}
    (h : e.program.run text = some (start, t)) :
    start ≤ text.size ∧ Spans text e ⟨start, []⟩ ⟨t.position, t.marks⟩ := by
  obtain ⟨hle, hend, n, hpath⟩ := run_sound h
  have hblock : Block e.program text 0 _ (Spans text e) := block_code (hasCode_program e)
  have hsize := size_program e
  rw [Array.getElem?_eq_none_iff] at hend
  obtain ⟨m, -, b, hb, hrest⟩ := hblock.leave (a := ⟨start, []⟩) hpath (Or.inr (by omega))
  -- the end of the block is the end of the program, where no step begins
  cases hrest with
  | refl => exact ⟨hle, hb⟩
  | step hs _ =>
    obtain ⟨i, hi, -⟩ := hs
    have hlt := (Array.getElem?_eq_some_iff.mp hi).1
    rw [Spot.address_thread] at hlt
    omega

/-- **What is spanned is found.** There is a match just if the expression leads
from some spot of the text anywhere. -/
theorem isSome_run_program_iff {e : Expr} : (e.program.run text).isSome = true ↔
    ∃ start ≤ text.size, ∃ b, Spans text e ⟨start, []⟩ b := by
  constructor
  · intro h
    obtain ⟨⟨start, t⟩, hrun⟩ := Option.isSome_iff_exists.mp h
    obtain ⟨hle, hspans⟩ := run_spans hrun
    exact ⟨start, hle, _, hspans⟩
  · rintro ⟨start, hle, b, hb⟩
    have hblock : Block e.program text 0 _ (Spans text e) := block_code (hasCode_program e)
    obtain ⟨n, hpath⟩ := hblock.path hb
    refine isSome_run_iff.mpr ⟨start, hle, _, n, hpath, ?_⟩
    rw [Spot.address_thread, Nat.zero_add, ← size_program]
    exact Array.getElem?_eq_none (Nat.le_refl _)

end Expr
end Regex
end Signpost
