/-
# The memory of an expression does not depend on names

What an expression takes up as a machine depends on where its groups stand, but
not on their numbers and names (`Expr.isTooLarge_nameless`). So it can be
reckoned for one name and holds for all.

Key definitions: `Expr.nameless`.
Key theorems: `Expr.grow_nameless`, `Expr.isTooLarge_nameless`,
`Expr.isTooLarge_eq_of_nameless_eq`.
-/
import Signpost.Regex.Footprint.Expr

namespace Signpost
namespace Regex
namespace Expr

/-- The expression without the numbers and names of its groups. -/
def nameless : Expr → Expr
  | empty => empty
  | set alphabet s => set alphabet s
  | assertion a => assertion a
  | seq a b => seq a.nameless b.nameless
  | alt a b => alt a.nameless b.nameless
  | rep e least most greedy => rep e.nameless least most greedy
  | group _ _ e => group 0 none e.nameless

theorem parts_nameless : ∀ e : Expr, parts e.nameless = (parts e).map nameless
  | empty => rfl
  | set _ _ => rfl
  | assertion _ => rfl
  | seq a b => by simp [nameless, parts, parts_nameless a, parts_nameless b]
  | alt _ _ => rfl
  | rep _ _ _ _ => rfl
  | group _ _ _ => rfl

theorem branches_nameless : ∀ e : Expr, branches e.nameless = (branches e).map nameless
  | empty => rfl
  | set _ _ => rfl
  | assertion _ => rfl
  | seq _ _ => rfl
  | alt a b => by simp [nameless, branches, branches_nameless a, branches_nameless b]
  | rep _ _ _ _ => rfl
  | group _ _ _ => rfl

theorem onlyEmpty_nameless : ∀ e : Expr, onlyEmpty e.nameless = onlyEmpty e
  | empty => rfl
  | set _ _ => rfl
  | assertion _ => rfl
  | seq a b => by simp [nameless, onlyEmpty, onlyEmpty_nameless a, onlyEmpty_nameless b]
  | alt a b => by simp [nameless, onlyEmpty, onlyEmpty_nameless a, onlyEmpty_nameless b]
  | rep e _ _ _ => by simp [nameless, onlyEmpty, onlyEmpty_nameless e]
  | group _ _ e => onlyEmpty_nameless e

theorem leastLength?_nameless : ∀ e : Expr, leastLength? e.nameless = leastLength? e
  | empty => rfl
  | set _ _ => rfl
  | assertion _ => rfl
  | seq a b => by simp [nameless, leastLength?, leastLength?_nameless a, leastLength?_nameless b]
  | alt a b => by simp [nameless, leastLength?, leastLength?_nameless a, leastLength?_nameless b]
  | rep e _ _ _ => by simp [nameless, leastLength?, leastLength?_nameless e]
  | group _ _ e => leastLength?_nameless e

theorem nullable_nameless (e : Expr) : nullable e.nameless = nullable e := by
  rw [nullable, leastLength?_nameless, nullable]

theorem codePoint?_nameless (e : Expr) : codePoint? e.nameless = codePoint? e := by
  cases e <;> rfl

theorem mapM_map_nameless {β : Type} {f : Expr → Option β} (h : ∀ e, f e.nameless = f e)
    (es : List Expr) : (es.map nameless).mapM f = es.mapM f := by
  induction es with
  | nil => rfl
  | cons e es ih => rw [List.map_cons, List.mapM_cons, List.mapM_cons, h, ih]

theorem word?_nameless (e : Expr) : word? e.nameless = word? e := by
  unfold word?
  rw [parts_nameless]
  cases parts e with
  | nil => rfl
  | cons a as =>
    show ((List.map nameless (a :: as)).mapM codePoint?).map _ = _
    rw [mapM_map_nameless codePoint?_nameless]

theorem words?_nameless (e : Expr) : words? e.nameless = words? e := by
  rw [words?, branches_nameless, mapM_map_nameless word?_nameless, words?]

/-- What an expression adds to a machine does not depend on names. -/
theorem grow_nameless (backwards : Bool) : ∀ (e : Expr) (p : Place) (f : Footprint),
    grow backwards e.nameless p f = grow backwards e p f
  | empty, _, _ => rfl
  | set _ _, _, _ => rfl
  | assertion _, _, _ => rfl
  | seq a b, p, f => by
    simp only [nameless, grow, grow_nameless backwards a, grow_nameless backwards b]
  | rep e _ _ _, p, f => by
    have hstep : grow backwards e.nameless .alone = grow backwards e .alone :=
      funext fun f => grow_nameless backwards e .alone f
    simp only [nameless, grow, hstep, nullable_nameless]
  | group _ _ e, p, f => by simp only [nameless, grow, grow_nameless backwards e]
  | alt a b, .alone, f => by
    have hwords : words? (alt a.nameless b.nameless) = words? (alt a b) := words?_nameless (alt a b)
    simp only [nameless, grow, hwords, grow_nameless backwards a, grow_nameless backwards b]
  | alt a b, .second, f => by
    simp only [nameless, grow, grow_nameless backwards a, grow_nameless backwards b]
  | alt a b, .later, f => by
    simp only [nameless, grow, grow_nameless backwards a, grow_nameless backwards b]

theorem leads_nameless (q : Assertion) : ∀ e : Expr, leads q e.nameless = leads q e
  | empty => rfl
  | set _ _ => rfl
  | assertion _ => rfl
  | seq a b => by
    simp [nameless, leads, leads_nameless q a, leads_nameless q b, onlyEmpty_nameless]
  | alt a b => by simp [nameless, leads, leads_nameless q a, leads_nameless q b]
  | rep e _ _ _ => by simp [nameless, leads, leads_nameless q e]
  | group _ _ e => leads_nameless q e

theorem trails_nameless (q : Assertion) : ∀ e : Expr, trails q e.nameless = trails q e
  | empty => rfl
  | set _ _ => rfl
  | assertion _ => rfl
  | seq a b => by
    simp [nameless, trails, trails_nameless q a, trails_nameless q b, onlyEmpty_nameless]
  | alt a b => by simp [nameless, trails, trails_nameless q a, trails_nameless q b]
  | rep e _ _ _ => by simp [nameless, trails, trails_nameless q e]
  | group _ _ e => trails_nameless q e

/-- **Names take up no memory.** -/
theorem isTooLarge_nameless (e : Expr) : isTooLarge e.nameless = isTooLarge e := by
  simp only [isTooLarge, footprint, grow_nameless, leads_nameless, trails_nameless]

/-- Expressions that differ in the names of their groups take up the same. -/
theorem isTooLarge_eq_of_nameless_eq {e e' : Expr} (h : e.nameless = e'.nameless) :
    isTooLarge e = isTooLarge e' := by
  rw [← isTooLarge_nameless e, h, isTooLarge_nameless]

end Expr
end Regex
end Signpost
