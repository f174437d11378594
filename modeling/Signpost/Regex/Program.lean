/-
# Programs

An expression becomes a list of instructions. The code of an expression is a
block that is entered at its first instruction and left by running off its
end, so blocks are put together by placing them one after the other; a jump
names the address it goes to. A run that leaves the whole program has matched.

Where a repetition can match nothing, one more round is offered only after a
round is done (`x*` is `(x+)?`), which fixes what its groups hold.

Key definitions: `Regex.Instruction`, `Regex.Expr.codeSize`, `Regex.Expr.code`,
`Regex.Expr.program`.
Key theorems: `Regex.Expr.length_code`.
-/
import Signpost.Regex.Expr

namespace Signpost
namespace Regex

/-- One instruction. `fork` tries its first address before its second; `mark`
notes the place under a number. -/
inductive Instruction where
  | consume (members : CharSet)
  | check (a : Assertion)
  | fork (preferred fallback : Nat)
  | jump (target : Nat)
  | mark (slot : Nat)
deriving Repr, DecidableEq, Inhabited

/-- A program, as its instructions. -/
abbrev Program := Array Instruction

namespace Expr

/-- The fork between the code at `inside` and the address `outside`. -/
def forkTo (greedy : Bool) (inside outside : Nat) : Instruction :=
  if greedy then .fork inside outside else .fork outside inside

/-- The number of instructions of the code of a repetition of a block of `n`
instructions. -/
def repetitionSize (n least : Nat) (most : Option Nat) : Nat :=
  match most, least with
  | none, 0 => n + 2
  | none, k + 1 => k * n + (n + 1)
  | some m, k => k * n + (m - k) * (n + 1)

/-- The number of instructions of the code of an expression. -/
def codeSize : Expr → Nat
  | empty => 0
  | set _ _ => 1
  | assertion _ => 1
  | seq a b => codeSize a + codeSize b
  | alt a b => codeSize a + codeSize b + 2
  | rep e least most _ => repetitionSize (codeSize e) least most
  | group _ _ e => codeSize e + 2

/-- `count` copies of a block of size `n`, one after the other. -/
def copies (block : Nat → List Instruction) (n count base : Nat) : List Instruction :=
  (List.range count).flatMap fun i => block (base + i * n)

/-- `count` copies of a block of size `n`, each behind a fork that may leave
for the common end. -/
def optionals (block : Nat → List Instruction) (n : Nat) (greedy : Bool) (stop count base : Nat) :
    List Instruction :=
  (List.range count).flatMap fun i =>
    forkTo greedy (base + i * (n + 1) + 1) stop :: block (base + i * (n + 1) + 1)

/-- The code of a repetition, at the address `base`. -/
def repetitionCode (block : Nat → List Instruction) (bodyNullable : Bool) (n least : Nat)
    (most : Option Nat) (greedy : Bool) (base : Nat) : List Instruction :=
  match most, least with
  | none, 0 =>
    if bodyNullable then
      forkTo greedy (base + 1) (base + n + 2) ::
        (block (base + 1) ++ [forkTo greedy (base + 1) (base + n + 2)])
    else
      forkTo greedy (base + 1) (base + n + 2) :: (block (base + 1) ++ [.jump base])
  | none, k + 1 =>
    copies block n k base ++
      (block (base + k * n) ++ [forkTo greedy (base + k * n) (base + k * n + n + 1)])
  | some m, k =>
    copies block n k base ++
      optionals block n greedy (base + k * n + (m - k) * (n + 1)) (m - k) (base + k * n)

/-- The code of an expression, at the address `base`. The places where group
`i` starts and ends are marked `2 * i` and `2 * i + 1`. -/
def code : Expr → Nat → List Instruction
  | empty, _ => []
  | set _ s, _ => [.consume s]
  | assertion a, _ => [.check a]
  | seq a b, base => code a base ++ code b (base + codeSize a)
  | alt a b, base =>
    .fork (base + 1) (base + codeSize a + 2) ::
      (code a (base + 1) ++
        .jump (base + codeSize a + codeSize b + 2) :: code b (base + codeSize a + 2))
  | rep e least most greedy, base =>
    repetitionCode (code e) (nullable e) (codeSize e) least most greedy base
  | group i _ e, base =>
    .mark (2 * i) :: (code e (base + 1) ++ [.mark (2 * i + 1)])

/-- The program of an expression. -/
def program (e : Expr) : Program := (code e 0).toArray

theorem length_flatMap_range (f : Nat → List Instruction) (n : Nat) (h : ∀ i, (f i).length = n)
    (count : Nat) : ((List.range count).flatMap f).length = count * n := by
  induction count with
  | zero => simp
  | succ count ih => simp [List.range_succ, ih, h, Nat.succ_mul]

theorem length_copies (block : Nat → List Instruction) (n : Nat)
    (h : ∀ base, (block base).length = n) (count base : Nat) :
    (copies block n count base).length = count * n :=
  length_flatMap_range _ n (fun _ => h _) count

theorem length_optionals (block : Nat → List Instruction) (n : Nat) (greedy : Bool) (stop : Nat)
    (h : ∀ base, (block base).length = n) (count base : Nat) :
    (optionals block n greedy stop count base).length = count * (n + 1) :=
  length_flatMap_range _ (n + 1) (fun _ => by simp [h]) count

/-- The code of an expression is as long as its size says, at any address. -/
theorem length_code (e : Expr) : ∀ base, (code e base).length = codeSize e := by
  induction e with
  | empty => intro _; rfl
  | set _ _ => intro _; rfl
  | assertion _ => intro _; rfl
  | seq a b iha ihb => intro base; simp [code, codeSize, iha, ihb]
  | alt a b iha ihb => intro base; simp [code, codeSize, iha, ihb]; omega
  | group i name e ih => intro base; simp [code, codeSize, ih]
  | rep e least most greedy ih =>
    intro base
    simp only [code, codeSize]
    cases most with
    | none =>
      cases least with
      | zero => by_cases h : nullable e = true <;> simp [repetitionCode, repetitionSize, h, ih]
      | succ k => simp [repetitionCode, repetitionSize, length_copies _ _ ih, ih]
    | some m =>
      simp [repetitionCode, repetitionSize, length_copies _ _ ih, length_optionals _ _ _ _ ih]

end Expr
end Regex
end Signpost
