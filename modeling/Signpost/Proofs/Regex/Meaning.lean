/-
# What an expression means

An expression leads from a spot of a text to the spots where it may end
(`Expr.Spans`). A spot is a position with the marks that were set on the way
there. There is no preference in this meaning: it says which matches there
are, not which one is found.

Key definitions: `Spot`, `Rounds`, `Expr.Spans`, `Expr.SpansAll`.
Key theorems: `rounds_add`, `Expr.spans_ofParts`, `Expr.spans_sequence`,
`Expr.Spans.position_le`.
-/
import Signpost.Regex.Search

namespace Signpost
namespace Regex

/-- A spot of a text: a position, and the marks that were set on the way to
it, the latest first. -/
structure Spot where
  position : Nat
  marks : List (Nat × Nat) := []

namespace Spot

/-- The spot after one character. -/
def advance (a : Spot) : Spot := { a with position := a.position + 1 }

/-- The spot with one more mark. -/
def mark (a : Spot) (slot : Nat) : Spot := { a with marks := (slot, a.position) :: a.marks }

/-- The thread that stands at a spot and an address. -/
def thread (a : Spot) (address : Nat) : Thread := ⟨address, a.position, a.marks⟩

/-- The character that follows a spot. -/
def after (text : Array Char) (a : Spot) : Option Char := text[a.position]?

/-- The character that precedes a spot. -/
def before (text : Array Char) (a : Spot) : Option Char :=
  if a.position = 0 then none else text[a.position - 1]?

@[simp] theorem position_mark (a : Spot) (slot : Nat) : (a.mark slot).position = a.position := rfl

@[simp] theorem address_thread (a : Spot) (address : Nat) : (a.thread address).address = address := rfl

@[simp] theorem position_thread (a : Spot) (address : Nat) :
    (a.thread address).position = a.position := rfl

end Spot

/-! ### Rounds of a relation between spots -/

variable {R : Spot → Spot → Prop}

/-- A number of rounds of a relation. -/
def Rounds (R : Spot → Spot → Prop) : Nat → Spot → Spot → Prop
  | 0, a, b => b = a
  | n + 1, a, b => ∃ c, R a c ∧ Rounds R n c b

theorem rounds_one {a b : Spot} : Rounds R 1 a b ↔ R a b := by
  constructor
  · rintro ⟨c, h, rfl⟩
    exact h
  · intro h
    exact ⟨b, h, rfl⟩

/-- Some rounds and then some more. -/
theorem rounds_add : ∀ {m n : Nat} {a b : Spot},
    Rounds R (m + n) a b ↔ ∃ c, Rounds R m a c ∧ Rounds R n c b
  | 0, n, a, b => by
    rw [Nat.zero_add]
    constructor
    · intro h
      exact ⟨a, rfl, h⟩
    · rintro ⟨c, rfl, h⟩
      exact h
  | m + 1, n, a, b => by
    rw [Nat.add_right_comm]
    constructor
    · rintro ⟨c, hc, h⟩
      obtain ⟨d, hd, h⟩ := rounds_add.mp h
      exact ⟨d, ⟨c, hc, hd⟩, h⟩
    · rintro ⟨d, ⟨c, hc, hd⟩, h⟩
      exact ⟨c, hc, rounds_add.mpr ⟨d, hd, h⟩⟩

/-- What each round keeps, all of them keep. -/
theorem Rounds.keep {P : Spot → Prop} (hR : ∀ {a b}, R a b → P a → P b) :
    ∀ {n : Nat} {a b : Spot}, Rounds R n a b → P a → P b
  | 0, _, _, h, ha => by
    cases h
    exact ha
  | _ + 1, _, _, ⟨_, hc, h⟩, ha => Rounds.keep hR h (hR hc ha)

/-! ### The meaning of an expression -/

namespace Expr

variable {text : Array Char}

/-- An expression leads from one spot to another: a set over one character, an
assertion nowhere if it holds, a sequence over its parts, a choice over one of
its branches, a repetition over an admitted number of rounds, and a group over
its body, with a mark before and after. -/
def Spans (text : Array Char) : Expr → Spot → Spot → Prop
  | empty, a, b => b = a
  | set _ s, a, b => ∃ c, a.after text = some c ∧ s.contains c = true ∧ b = a.advance
  | assertion p, a, b => p.holds (a.before text) (a.after text) = true ∧ b = a
  | seq e f, a, b => ∃ c, Spans text e a c ∧ Spans text f c b
  | alt e f, a, b => Spans text e a b ∨ Spans text f a b
  | rep e least most _, a, b =>
    ∃ n, least ≤ n ∧ (∀ m, most = some m → n ≤ max least m) ∧ Rounds (Spans text e) n a b
  | group i _ e, a, b => ∃ c, Spans text e (a.mark (2 * i)) c ∧ b = c.mark (2 * i + 1)

/-- Some expressions, one after the other. -/
def SpansAll (text : Array Char) : List Expr → Spot → Spot → Prop
  | [], a, b => b = a
  | e :: es, a, b => ∃ c, Spans text e a c ∧ SpansAll text es c b

theorem spansAll_append : ∀ {es fs : List Expr} {a b : Spot},
    SpansAll text (es ++ fs) a b ↔ ∃ c, SpansAll text es a c ∧ SpansAll text fs c b
  | [], fs, a, b => by
    constructor
    · intro h
      exact ⟨a, rfl, h⟩
    · rintro ⟨c, rfl, h⟩
      exact h
  | e :: es, fs, a, b => by
    constructor
    · rintro ⟨c, hc, h⟩
      obtain ⟨d, hd, h⟩ := spansAll_append.mp h
      exact ⟨d, ⟨c, hc, hd⟩, h⟩
    · rintro ⟨d, ⟨c, hc, hd⟩, h⟩
      exact ⟨c, hc, spansAll_append.mpr ⟨d, hd, h⟩⟩

theorem spansAll_singleton {e : Expr} {a b : Spot} :
    SpansAll text [e] a b ↔ Spans text e a b := by
  constructor
  · rintro ⟨c, h, rfl⟩
    exact h
  · intro h
    exact ⟨b, h, rfl⟩

/-- Parts that were put together mean what they mean one after the other. -/
theorem spans_ofParts : ∀ {es : List Expr} {a b : Spot},
    Spans text (ofParts es) a b ↔ SpansAll text es a b
  | [], _, _ => Iff.rfl
  | [_], _, _ => spansAll_singleton.symm
  | _ :: f :: es, _, _ => by
    have ih : ∀ a b, Spans text (ofParts (f :: es)) a b ↔ SpansAll text (f :: es) a b :=
      fun _ _ => spans_ofParts
    constructor
    · rintro ⟨c, hc, h⟩
      exact ⟨c, hc, (ih _ _).mp h⟩
    · rintro ⟨c, hc, h⟩
      exact ⟨c, hc, (ih _ _).mpr h⟩

/-- An expression means what its parts mean one after the other. -/
theorem spansAll_parts : ∀ {e : Expr} {a b : Spot},
    SpansAll text (parts e) a b ↔ Spans text e a b
  | empty, _, _ => Iff.rfl
  | seq e f, a, b => by
    rw [parts, spansAll_append]
    simp only [spansAll_parts]
    rfl
  | set _ _, _, _ => spansAll_singleton
  | assertion _, _, _ => spansAll_singleton
  | alt _ _, _, _ => spansAll_singleton
  | rep _ _ _ _, _, _ => spansAll_singleton
  | group _ _ _, _, _ => spansAll_singleton

theorem spansAll_flatMap_parts : ∀ {es : List Expr} {a b : Spot},
    SpansAll text (es.flatMap parts) a b ↔ SpansAll text es a b
  | [], _, _ => Iff.rfl
  | e :: es, a, b => by
    rw [List.flatMap_cons, spansAll_append]
    simp only [spansAll_parts, spansAll_flatMap_parts]
    rfl

/-- A sequence means what its expressions mean one after the other. -/
theorem spans_sequence {es : List Expr} {a b : Spot} :
    Spans text (sequence es) a b ↔ SpansAll text es a b := by
  rw [sequence, spans_ofParts, spansAll_flatMap_parts]

/-- No expression leads back, or out of the text. -/
theorem Spans.position_le : ∀ {e : Expr} {a b : Spot}, Spans text e a b →
    a.position ≤ text.size → a.position ≤ b.position ∧ b.position ≤ text.size
  | empty, a, b, h, ha => by
    rw [show b = a from h]
    exact ⟨Nat.le_refl _, ha⟩
  | set _ s, a, b, ⟨c, hc, _, hb⟩, _ => by
    rw [hb]
    exact ⟨Nat.le_succ _, (Array.getElem?_eq_some_iff.mp hc).1⟩
  | assertion p, a, b, ⟨_, hb⟩, ha => by
    rw [hb]
    exact ⟨Nat.le_refl _, ha⟩
  | seq e f, a, b, ⟨c, he, hf⟩, ha => by
    obtain ⟨hac, hc⟩ := he.position_le ha
    obtain ⟨hcb, hb⟩ := hf.position_le hc
    exact ⟨Nat.le_trans hac hcb, hb⟩
  | alt e f, a, b, h, ha => by
    rcases h with h | h
    · exact h.position_le ha
    · exact h.position_le ha
  | rep e least most _, a, b, ⟨n, _, _, h⟩, ha =>
    h.keep (P := fun c => a.position ≤ c.position ∧ c.position ≤ text.size)
      (fun h hc => ⟨Nat.le_trans hc.1 (Spans.position_le h hc.2).1, (Spans.position_le h hc.2).2⟩)
      ⟨Nat.le_refl _, ha⟩
  | group i _ e, a, b, ⟨c, h, hb⟩, ha => by
    subst hb
    show a.position ≤ c.position ∧ c.position ≤ text.size
    exact h.position_le ha

end Expr
end Regex
end Signpost
