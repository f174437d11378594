/-
# Anchored expressions

An expression is anchored if every way through it begins with an assertion of
the start of the text and ends with one of the end, nothing being consumed
before the one and after the other. This can be told from the expression
(`Expr.isAnchored`), and then every match is the whole text
(`whole_of_isAnchored`).

Key definitions: `Expr.anchorsStart`, `Expr.anchorsEnd`, `Expr.isAnchored`.
Key theorems: `Expr.position_of_anchorsStart`, `Expr.position_of_anchorsEnd`,
`Expr.isAnchored_sequence`, `whole_of_isAnchored`.
-/
import Signpost.Proofs.Regex.Code
import Signpost.Regex.Basic

namespace Signpost
namespace Regex
namespace Expr

variable {text : Array Char}

/-- True if every way through the expression asserts the start of the text
before it consumes anything. -/
def anchorsStart : Expr → Bool
  | empty => false
  | set _ _ => false
  | assertion a => a == .textStart
  | seq e f => anchorsStart e || (onlyEmpty e && anchorsStart f)
  | alt e f => anchorsStart e && anchorsStart f
  | rep e least _ _ => least != 0 && anchorsStart e
  | group _ _ e => anchorsStart e

/-- True if every way through the expression asserts the end of the text after
all that it consumes. -/
def anchorsEnd : Expr → Bool
  | empty => false
  | set _ _ => false
  | assertion a => a == .textEnd
  | seq e f => anchorsEnd f || (onlyEmpty f && anchorsEnd e)
  | alt e f => anchorsEnd e && anchorsEnd f
  | rep e least _ _ => least != 0 && anchorsEnd e
  | group _ _ e => anchorsEnd e

/-- True if the expression is anchored at both ends. -/
def isAnchored (e : Expr) : Bool := e.anchorsStart && e.anchorsEnd

/-- What matches the empty text only does not move. -/
theorem position_of_onlyEmpty : ∀ {e : Expr} {a b : Spot}, Spans text e a b → onlyEmpty e = true →
    b.position = a.position
  | empty, a, b, h, _ => by
    rw [show b = a from h]
  | set _ _, _, _, _, he => by cases he
  | assertion _, a, b, ⟨_, hb⟩, _ => by rw [hb]
  | seq e f, a, b, ⟨c, hc, hb⟩, he => by
    obtain ⟨he, hf⟩ := Bool.and_eq_true_iff.mp he
    rw [position_of_onlyEmpty hb hf, position_of_onlyEmpty hc he]
  | alt e f, a, b, h, he => by
    obtain ⟨he, hf⟩ := Bool.and_eq_true_iff.mp he
    rcases h with h | h
    · exact position_of_onlyEmpty h he
    · exact position_of_onlyEmpty h hf
  | rep e least most _, a, b, ⟨n, _, _, h⟩, he => by
    have he := (Bool.and_eq_true_iff.mp he).1
    exact h.keep (P := fun c => c.position = a.position)
      (fun hcd hc => (position_of_onlyEmpty hcd he).trans hc) rfl
  | group i _ e, a, b, ⟨c, hc, hb⟩, he => by
    have hpos := position_of_onlyEmpty hc he
    rw [hb]
    exact hpos

theorem position_of_textStart {a : Spot} (ha : a.position ≤ text.size)
    (h : Assertion.textStart.holds (a.before text) (a.after text) = true) : a.position = 0 := by
  by_contra hne
  have hlt : a.position - 1 < text.size := by omega
  have hbefore : a.before text = some text[a.position - 1] := by
    rw [Spot.before, if_neg hne, Array.getElem?_eq_getElem hlt]
  rw [hbefore] at h
  cases h

theorem position_of_textEnd {a : Spot} (ha : a.position ≤ text.size)
    (h : Assertion.textEnd.holds (a.before text) (a.after text) = true) :
    a.position = text.size := by
  by_contra hne
  have hlt : a.position < text.size := by omega
  have hafter : a.after text = some text[a.position] := Array.getElem?_eq_getElem hlt
  rw [hafter] at h
  cases h

/-- A way through an expression that asserts the start begins there. -/
theorem position_of_anchorsStart : ∀ {e : Expr} {a b : Spot}, Spans text e a b →
    a.position ≤ text.size → anchorsStart e = true → a.position = 0
  | empty, _, _, _, _, he => by cases he
  | set _ _, _, _, _, _, he => by cases he
  | assertion q, a, b, ⟨hq, _⟩, ha, he => by
    rw [eq_of_beq he] at hq
    exact position_of_textStart ha hq
  | seq e f, a, b, ⟨c, hc, hb⟩, ha, he => by
    rcases Bool.or_eq_true_iff.mp he with he | he
    · exact position_of_anchorsStart hc ha he
    · obtain ⟨he, hf⟩ := Bool.and_eq_true_iff.mp he
      rw [← position_of_onlyEmpty hc he]
      exact position_of_anchorsStart hb (hc.position_le ha).2 hf
  | alt e f, a, b, h, ha, he => by
    obtain ⟨he, hf⟩ := Bool.and_eq_true_iff.mp he
    rcases h with h | h
    · exact position_of_anchorsStart h ha he
    · exact position_of_anchorsStart h ha hf
  | rep e least most _, a, b, ⟨n, hn, _, h⟩, ha, he => by
    obtain ⟨hleast, he⟩ := Bool.and_eq_true_iff.mp he
    have hpos : least ≠ 0 := by simpa using hleast
    cases n with
    | zero => omega
    | succ n =>
      obtain ⟨c, hc, -⟩ := h
      exact position_of_anchorsStart hc ha he
  | group i _ e, a, b, ⟨c, hc, _⟩, ha, he => by
    have hpos := position_of_anchorsStart hc ha he
    exact hpos

theorem position_of_anchorsEnd : ∀ {e : Expr} {a b : Spot}, Spans text e a b →
    a.position ≤ text.size → anchorsEnd e = true → b.position = text.size
  | empty, _, _, _, _, he => by cases he
  | set _ _, _, _, _, _, he => by cases he
  | assertion q, a, b, ⟨hq, hb⟩, ha, he => by
    rw [eq_of_beq he] at hq
    rw [hb]
    exact position_of_textEnd ha hq
  | seq e f, a, b, ⟨c, hc, hb⟩, ha, he => by
    rcases Bool.or_eq_true_iff.mp he with he | he
    · exact position_of_anchorsEnd hb (hc.position_le ha).2 he
    · obtain ⟨hf, he⟩ := Bool.and_eq_true_iff.mp he
      rw [position_of_onlyEmpty hb hf]
      exact position_of_anchorsEnd hc ha he
  | alt e f, a, b, h, ha, he => by
    obtain ⟨he, hf⟩ := Bool.and_eq_true_iff.mp he
    rcases h with h | h
    · exact position_of_anchorsEnd h ha he
    · exact position_of_anchorsEnd h ha hf
  | rep e least most _, a, b, ⟨n, hn, _, h⟩, ha, he => by
    obtain ⟨hleast, he⟩ := Bool.and_eq_true_iff.mp he
    have hpos : least ≠ 0 := by simpa using hleast
    obtain ⟨k, rfl⟩ := Nat.exists_eq_add_of_le' (show 1 ≤ n by omega)
    obtain ⟨c, hac, hcb⟩ := rounds_add.mp h
    have hc := hac.keep (P := fun c => c.position ≤ text.size)
      (fun hcd hc => (Spans.position_le hcd hc).2) ha
    exact position_of_anchorsEnd (rounds_one.mp hcb) hc he
  | group i _ e, a, b, ⟨c, hc, hb⟩, ha, he => by
    have hpos := position_of_anchorsEnd hc ha he
    rw [hb]
    exact hpos

theorem anchorsStart_ofParts {e : Expr} (h : e.anchorsStart = true) :
    ∀ es : List Expr, (ofParts (e :: es)).anchorsStart = true
  | [] => h
  | _ :: _ => Bool.or_eq_true_iff.mpr (Or.inl h)

theorem anchorsEnd_ofParts {e : Expr} (h : e.anchorsEnd = true) :
    ∀ es : List Expr, (ofParts (es ++ [e])).anchorsEnd = true
  | [] => h
  | [_] => Bool.or_eq_true_iff.mpr (Or.inl h)
  | _ :: f :: es => Bool.or_eq_true_iff.mpr (Or.inl (anchorsEnd_ofParts h (f :: es)))

theorem isAnchored_sequence (e : Expr) :
    (sequence [.assertion .textStart, e, .assertion .textEnd]).isAnchored = true := by
  have hparts : sequence [.assertion .textStart, e, .assertion .textEnd] =
      ofParts (.assertion .textStart :: (parts e ++ [.assertion .textEnd])) := rfl
  rw [hparts]
  refine Bool.and_eq_true_iff.mpr ⟨anchorsStart_ofParts rfl _, ?_⟩
  exact anchorsEnd_ofParts rfl (.assertion .textStart :: parts e)

end Expr

/-- **An anchored expression matches whole texts only.** -/
theorem whole_of_isAnchored {r : Regex} (hanchored : r.expr.isAnchored = true) {text : String}
    {found : Match} (h : r.captures? text = some found) : found.whole = text := by
  obtain ⟨hstart, hend⟩ := Bool.and_eq_true_iff.mp hanchored
  unfold captures? at h
  obtain ⟨⟨start, t⟩, hrun, rfl⟩ := Option.map_eq_some_iff.mp h
  rw [r.program_eq] at hrun
  obtain ⟨hle, hspans⟩ := Expr.run_spans hrun
  have hzero : start = 0 := Expr.position_of_anchorsStart hspans hle hstart
  have hsize : t.position = text.toList.toArray.size := Expr.position_of_anchorsEnd hspans hle hend
  calc slice text.toList.toArray start t.position
      = String.ofList (text.toList.take text.toList.length) := by
        rw [slice, hzero, hsize, List.drop_zero, Nat.sub_zero, List.size_toArray]
    _ = text := by rw [List.take_length, String.ofList_toList]

end Regex
end Signpost
