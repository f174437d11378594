/-
# The texts of an expression

Without assertions, what an expression matches does not depend on what stands
around it: it yields texts, and with each the texts that its named groups hold,
the latest first (`Expr.Yields`). An expression between the two anchors matches
the texts that it yields (`Framed.isMatch_iff`), and the groups of a match hold
what they hold in one of the ways to yield the text (`Framed.held?_of_captures?`). Which
way that is does not matter where there is only one.

A way through an expression sets the marks of its groups; what the groups hold
after it is what they hold in it, or else what they held before (`Tracks`).

Key definitions: `Held`, `Then`, `Times`, `Expr.Yields`, `Distinct`, `Tracks`,
`held?`, `Framed`.
Key theorems: `Expr.Spans.yields`, `Expr.Yields.spans`, `Framed.isMatch_iff`,
`Framed.held?_of_captures?`.
-/
import Mathlib.Data.List.Pairwise
import Signpost.Proofs.Regex.Anchor
import Signpost.Proofs.Regex.Branch
import Signpost.Proofs.Regex.Groups

namespace Signpost
namespace Regex

/-! ### What an expression yields -/

/-- The texts that named groups hold, the latest first. -/
abbrev Held := List (String × List Char)

/-- Some texts, with what the groups hold. -/
abbrev Yield := List Char → Held → Prop

/-- A text of the one language and then one of the other. -/
def Then (P Q : Yield) : Yield := fun w hs =>
  ∃ w₁ hs₁ w₂ hs₂, w = w₁ ++ w₂ ∧ hs = hs₂ ++ hs₁ ∧ P w₁ hs₁ ∧ Q w₂ hs₂

/-- A number of texts of a language. -/
def Times (P : Yield) : Nat → Yield
  | 0 => fun w hs => w = [] ∧ hs = []
  | n + 1 => Then P (Times P n)

namespace Expr

/-- What an expression yields: a set its characters, a sequence what its parts yield
one after the other, a choice what one of its branches yields, a repetition what
an admitted number of rounds yields, and a group what is in it, which it holds if
it has a name. An assertion is not told of here. -/
def Yields : Expr → Yield
  | empty => fun w hs => w = [] ∧ hs = []
  | set _ s => fun w hs => ∃ c, s.contains c = true ∧ w = [c] ∧ hs = []
  | assertion _ => fun _ _ => False
  | seq e f => Then (Yields e) (Yields f)
  | alt e f => fun w hs => Yields e w hs ∨ Yields f w hs
  | rep e least most _ => fun w hs =>
    ∃ n, least ≤ n ∧ (∀ m, most = some m → n ≤ max least m) ∧ Times (Yields e) n w hs
  | group _ name e => fun w hs =>
    ∃ hs', Yields e w hs' ∧ hs = name.toList.map (·, w) ++ hs'

/-- True if there is no assertion in an expression. -/
def isFree : Expr → Bool
  | empty => true
  | set _ _ => true
  | assertion _ => false
  | seq e f => isFree e && isFree f
  | alt e f => isFree e && isFree f
  | rep e _ _ _ => isFree e
  | group _ _ e => isFree e

/-- Some expressions, one after the other. -/
def YieldsAll : List Expr → Yield
  | [] => fun w hs => w = [] ∧ hs = []
  | e :: es => Then (Yields e) (YieldsAll es)

end Expr

theorem then_nil {P : Yield} {w : List Char} {hs : Held} :
    Then P (fun w hs => w = [] ∧ hs = []) w hs ↔ P w hs := by
  constructor
  · rintro ⟨w₁, hs₁, _, _, rfl, rfl, h, rfl, rfl⟩
    rwa [List.append_nil, List.nil_append]
  · intro h
    exact ⟨w, hs, [], [], (List.append_nil w).symm, rfl, h, rfl, rfl⟩

theorem nil_then {P : Yield} {w : List Char} {hs : Held} :
    Then (fun w hs => w = [] ∧ hs = []) P w hs ↔ P w hs := by
  constructor
  · rintro ⟨_, _, w₂, hs₂, rfl, rfl, ⟨rfl, rfl⟩, h⟩
    rwa [List.nil_append, List.append_nil]
  · intro h
    exact ⟨[], [], w, hs, rfl, (List.append_nil hs).symm, ⟨rfl, rfl⟩, h⟩

theorem then_assoc {P Q R : Yield} {w : List Char} {hs : Held} :
    Then (Then P Q) R w hs ↔ Then P (Then Q R) w hs := by
  constructor
  · rintro ⟨_, _, w₃, hs₃, rfl, rfl, ⟨w₁, hs₁, w₂, hs₂, rfl, rfl, h₁, h₂⟩, h₃⟩
    exact ⟨w₁, hs₁, w₂ ++ w₃, hs₃ ++ hs₂, List.append_assoc _ _ _, (List.append_assoc _ _ _).symm, h₁,
      w₂, hs₂, w₃, hs₃, rfl, rfl, h₂, h₃⟩
  · rintro ⟨w₁, hs₁, _, _, rfl, rfl, h₁, w₂, hs₂, w₃, hs₃, rfl, rfl, h₂, h₃⟩
    exact ⟨w₁ ++ w₂, hs₂ ++ hs₁, w₃, hs₃, (List.append_assoc _ _ _).symm, List.append_assoc _ _ _,
      ⟨w₁, hs₁, w₂, hs₂, rfl, rfl, h₁, h₂⟩, h₃⟩

theorem then_congr {P P' Q Q' : Yield} (h : ∀ w hs, P w hs ↔ P' w hs)
    (h' : ∀ w hs, Q w hs ↔ Q' w hs) {w : List Char} {hs : Held} :
    Then P Q w hs ↔ Then P' Q' w hs := by
  simp only [Then, h, h']

namespace Expr

theorem yieldsAll_append : ∀ {es fs : List Expr} {w : List Char} {hs : Held},
    YieldsAll (es ++ fs) w hs ↔ Then (YieldsAll es) (YieldsAll fs) w hs
  | [], _, _, _ => nil_then.symm
  | _ :: _, _, _, _ =>
    (then_congr (fun _ _ => Iff.rfl) fun _ _ => yieldsAll_append).trans then_assoc.symm

theorem yields_ofParts : ∀ {es : List Expr} {w : List Char} {hs : Held},
    Yields (ofParts es) w hs ↔ YieldsAll es w hs
  | [], _, _ => Iff.rfl
  | [_], _, _ => then_nil.symm
  | _ :: f :: es, _, _ =>
    have ih : ∀ w hs, Yields (ofParts (f :: es)) w hs ↔ YieldsAll (f :: es) w hs :=
      fun _ _ => yields_ofParts
    then_congr (fun _ _ => Iff.rfl) ih

theorem yieldsAll_parts : ∀ {e : Expr} {w : List Char} {hs : Held},
    YieldsAll (parts e) w hs ↔ Yields e w hs
  | empty, _, _ => Iff.rfl
  | seq _ _, _, _ =>
    yieldsAll_append.trans (then_congr (fun _ _ => yieldsAll_parts) fun _ _ => yieldsAll_parts)
  | set _ _, _, _ => then_nil
  | assertion _, _, _ => then_nil
  | alt _ _, _, _ => then_nil
  | rep _ _ _ _, _, _ => then_nil
  | group _ _ _, _, _ => then_nil

theorem yieldsAll_flatMap_parts : ∀ {es : List Expr} {w : List Char} {hs : Held},
    YieldsAll (es.flatMap parts) w hs ↔ YieldsAll es w hs
  | [], _, _ => Iff.rfl
  | e :: es, _, _ => by
    rw [List.flatMap_cons, yieldsAll_append]
    exact then_congr (fun _ _ => yieldsAll_parts) fun _ _ => yieldsAll_flatMap_parts

/-- A sequence yields what its expressions yield one after the other. -/
theorem yields_sequence {es : List Expr} {w : List Char} {hs : Held} :
    Yields (sequence es) w hs ↔ YieldsAll es w hs := by
  rw [sequence, yields_ofParts, yieldsAll_flatMap_parts]

theorem yields_branch : ∀ {es : List Expr} {w : List Char} {hs : Held},
    Yields (branch es) w hs ↔ YieldsAll es w hs
  | [], _, _ => Iff.rfl
  | [_], _, _ => then_nil.symm
  | _ :: _ :: _, _, _ => yields_sequence

theorem isFree_parts : ∀ {e : Expr}, e.isFree = true → ∀ part ∈ e.parts, part.isFree = true
  | empty, _, _, hmem => nomatch hmem
  | seq a b, h, part, hmem => by
    obtain ⟨ha, hb⟩ := Bool.and_eq_true_iff.mp h
    rcases List.mem_append.mp hmem with hmem | hmem
    · exact isFree_parts ha part hmem
    · exact isFree_parts hb part hmem
  | set _ _, h, _, hmem => List.mem_singleton.mp hmem ▸ h
  | assertion _, h, _, _ => nomatch h
  | alt _ _, h, _, hmem => List.mem_singleton.mp hmem ▸ h
  | rep _ _ _ _, h, _, hmem => List.mem_singleton.mp hmem ▸ h
  | group _ _ _, h, _, hmem => List.mem_singleton.mp hmem ▸ h

theorem isFree_ofParts : ∀ {es : List Expr}, (∀ e ∈ es, e.isFree = true) →
    (ofParts es).isFree = true
  | [], _ => rfl
  | [e], h => h e List.mem_cons_self
  | e :: _ :: _, h => Bool.and_eq_true_iff.mpr ⟨h e List.mem_cons_self,
      isFree_ofParts fun e' he' => h e' (List.mem_cons_of_mem e he')⟩

/-- There is no assertion in a branch if there is none in its expressions. -/
theorem isFree_branch : ∀ {es : List Expr}, (∀ e ∈ es, e.isFree = true) →
    (branch es).isFree = true
  | [], _ => rfl
  | [e], h => h e List.mem_cons_self
  | e :: f :: es, h => isFree_ofParts fun part hpart => by
    obtain ⟨e', he', hpart⟩ := List.mem_flatMap.mp hpart
    exact isFree_parts (h e' he') part hpart

end Expr

/-! ### What is yielded is spanned -/

section Spans

variable {text : Array Char}

/-- A number of texts, each of which leads from a spot to where it ends. -/
theorem Times.rounds {P : Yield} {R : Spot → Spot → Prop}
    (hstep : ∀ {w hs a}, P w hs → w <+: text.toList.drop a.position →
      ∃ b, R a b ∧ b.position = a.position + w.length) :
    ∀ {n : Nat} {w : List Char} {hs : Held} {a : Spot}, Times P n w hs →
      w <+: text.toList.drop a.position → ∃ b, Rounds R n a b ∧ b.position = a.position + w.length
  | 0, _, _, a, ⟨hw, _⟩, _ => ⟨a, rfl, by rw [hw]; rfl⟩
  | n + 1, _, _, a, ⟨w₁, hs₁, w₂, hs₂, hw, _, h₁, h₂⟩, hprefix => by
    subst hw
    obtain ⟨hfirst, hrest⟩ := List.append_prefix_drop hprefix
    obtain ⟨b, hb, hpos⟩ := hstep h₁ hfirst
    rw [← hpos] at hrest
    obtain ⟨c, hc, hpos'⟩ := Times.rounds hstep h₂ hrest
    exact ⟨c, ⟨b, hb, hc⟩, by rw [hpos', hpos, List.length_append, Nat.add_assoc]⟩

namespace Expr

/-- **What is yielded is spanned.** Where a text stands that an expression yields, the
expression leads to the end of it. -/
theorem Yields.spans : ∀ {e : Expr} {w : List Char} {hs : Held} {a : Spot}, Yields e w hs →
    w <+: text.toList.drop a.position → ∃ b, Spans text e a b ∧ b.position = a.position + w.length
  | empty, _, _, a, ⟨hw, _⟩, _ => ⟨a, rfl, by rw [hw]; rfl⟩
  | set _ s, _, _, a, ⟨c, hc, hw, _⟩, hprefix => by
    subst hw
    obtain ⟨rest, hrest⟩ := hprefix
    have hafter : a.after text = some c := by
      unfold Spot.after
      rw [← Array.getElem?_toList, ← Nat.add_zero a.position, ← List.getElem?_drop, ← hrest]
      rfl
    exact ⟨a.advance, ⟨c, hafter, hc, rfl⟩, rfl⟩
  | assertion _, _, _, _, h, _ => h.elim
  | seq e f, _, _, a, ⟨w₁, hs₁, w₂, hs₂, hw, _, he, hf⟩, hprefix => by
    subst hw
    obtain ⟨hfirst, hrest⟩ := List.append_prefix_drop hprefix
    obtain ⟨b, hb, hpos⟩ := he.spans hfirst
    rw [← hpos] at hrest
    obtain ⟨c, hc, hpos'⟩ := hf.spans hrest
    exact ⟨c, ⟨b, hb, hc⟩, by rw [hpos', hpos, List.length_append, Nat.add_assoc]⟩
  | alt e f, _, _, a, h, hprefix => by
    rcases h with h | h
    · obtain ⟨b, hb, hpos⟩ := Yields.spans h hprefix
      exact ⟨b, Or.inl hb, hpos⟩
    · obtain ⟨b, hb, hpos⟩ := Yields.spans h hprefix
      exact ⟨b, Or.inr hb, hpos⟩
  | rep e least most _, _, _, a, ⟨n, hleast, hmost, h⟩, hprefix => by
    obtain ⟨b, hb, hpos⟩ := h.rounds (fun h hprefix => Yields.spans h hprefix) hprefix
    exact ⟨b, ⟨n, hleast, hmost, hb⟩, hpos⟩
  | group i name e, _, _, a, ⟨hs', h, _⟩, hprefix => by
    obtain ⟨c, hc, hpos⟩ := Yields.spans (a := a.mark (2 * i)) h hprefix
    exact ⟨c.mark (2 * i + 1), ⟨c, hc, rfl⟩, hpos⟩

end Expr

/-! ### What is spanned is yielded -/

/-- The text between two positions. -/
def between (text : Array Char) (p q : Nat) : List Char := (text.toList.drop p).take (q - p)

/-- The text that a group holds by its marks. -/
def hold (text : Array Char) (marks : List (Nat × Nat)) (number : Nat) : Option (List Char) :=
  (groupSpan marks number).map fun span => between text span.1 span.2

theorem between_self (p : Nat) : between text p p = [] := by
  rw [between, Nat.sub_self, List.take_zero]

theorem between_append {p q r : Nat} (hpq : p ≤ q) (hqr : q ≤ r) :
    between text p r = between text p q ++ between text q r := by
  have hdrop : text.toList.drop q = (text.toList.drop p).drop (q - p) := by
    rw [List.drop_drop, Nat.add_sub_cancel' hpq]
  rw [between, between, between, hdrop, ← List.take_add, show q - p + (r - q) = r - p by omega]

/-- Groups no two of which have one number or one name. -/
def Distinct (gs : List (Nat × Option String)) : Prop :=
  gs.Pairwise fun g g' => g.1 ≠ g'.1 ∧ ∀ n, g.2 = some n → g'.2 ≠ some n

theorem Distinct.ne {gs : List (Nat × Option String)} (h : Distinct gs)
    {g g' : Nat × Option String} (hg : g ∈ gs) (hg' : g' ∈ gs) (hne : g ≠ g') :
    g.1 ≠ g'.1 ∧ ∀ n, g.2 = some n → g'.2 ≠ some n :=
  have : Std.Symm fun g g' : Nat × Option String => g.1 ≠ g'.1 ∧ ∀ n, g.2 = some n → g'.2 ≠ some n :=
    ⟨fun _ _ h => ⟨h.1.symm, fun n hn hn' => h.2 n hn' hn⟩⟩
  h.forall hg hg' hne

/-- A mark of one group leaves the others alone. -/
theorem hold_cons {marks : List (Nat × Nat)} {i j k p : Nat} (h : j ≠ i) (hk : k / 2 = i) :
    hold text ((k, p) :: marks) j = hold text marks j := by
  have hstart : (2 * j == k) = false := beq_eq_false_iff_ne.mpr fun he => h (by omega)
  have hstop : (2 * j + 1 == k) = false := beq_eq_false_iff_ne.mpr fun he => h (by omega)
  unfold hold groupSpan
  rw [List.lookup_cons, hstart, List.lookup_cons, hstop]

/-- Between the two spots the groups hold what `hs` tells, or else what they held
before. -/
def Tracks (text : Array Char) (gs : List (Nat × Option String)) (a b : Spot) (hs : Held) : Prop :=
  ∀ g ∈ gs, ∀ n, g.2 = some n → hold text b.marks g.1 = (hs.lookup n).or (hold text a.marks g.1)

variable {gs : List (Nat × Option String)}

theorem tracks_of_marks_eq {a b : Spot} (h : b.marks = a.marks) : Tracks text gs a b [] := by
  intro g _ n _
  rw [h]
  rfl

theorem Tracks.trans {a b c : Spot} {hs hs' : Held} (h : Tracks text gs a b hs)
    (h' : Tracks text gs b c hs') : Tracks text gs a c (hs' ++ hs) := by
  intro g hg n hn
  rw [h' g hg n hn, h g hg n hn, List.lookup_append, Option.or_assoc]

/-- Marks of groups that are not in an expression stay as they are. -/
theorem Expr.Spans.lookup_marks {k : Nat} : ∀ {e : Expr} {a b : Spot}, e.Spans text a b →
    k / 2 ∉ e.groups.map (·.1) → b.marks.lookup k = a.marks.lookup k
  | empty, a, b, h, _ => by rw [show b = a from h]
  | set _ _, a, b, ⟨_, _, _, hb⟩, _ => by
    rw [hb]
    rfl
  | assertion _, a, b, ⟨_, hb⟩, _ => by rw [hb]
  | seq e f, a, b, ⟨c, he, hf⟩, hk => by
    rw [groups, List.map_append, List.mem_append, not_or] at hk
    rw [hf.lookup_marks hk.2, he.lookup_marks hk.1]
  | alt e f, a, b, h, hk => by
    rw [groups, List.map_append, List.mem_append, not_or] at hk
    rcases h with h | h
    · exact Spans.lookup_marks h hk.1
    · exact Spans.lookup_marks h hk.2
  | rep e _ _ _, a, b, ⟨n, _, _, h⟩, hk =>
    h.keep (P := fun c => c.marks.lookup k = a.marks.lookup k)
      (fun hcd hc => (Spans.lookup_marks (e := e) hcd hk).trans hc) rfl
  | group i _ e, a, b, ⟨c, hc, hb⟩, hk => by
    rw [groups, List.map_cons, List.mem_cons, not_or] at hk
    have hstart : (k == 2 * i) = false := beq_eq_false_iff_ne.mpr fun h => hk.1 (by omega)
    have hstop : (k == 2 * i + 1) = false := beq_eq_false_iff_ne.mpr fun h => hk.1 (by omega)
    rw [hb]
    show List.lookup k ((2 * i + 1, c.position) :: c.marks) = _
    rw [List.lookup_cons, hstop]
    show List.lookup k c.marks = _
    rw [hc.lookup_marks hk.2]
    show List.lookup k ((2 * i, a.position) :: a.marks) = _
    rw [List.lookup_cons, hstart]

/-- A number of rounds, each of which yields a text, yield all of them. -/
theorem Rounds.times {P : Yield} {R : Spot → Spot → Prop}
    (hstep : ∀ {a b}, R a b → a.position ≤ text.size →
      a.position ≤ b.position ∧ b.position ≤ text.size ∧
        ∃ hs, P (between text a.position b.position) hs ∧ Tracks text gs a b hs) :
    ∀ {n : Nat} {a b : Spot}, Rounds R n a b → a.position ≤ text.size →
      a.position ≤ b.position ∧ b.position ≤ text.size ∧
        ∃ hs, Times P n (between text a.position b.position) hs ∧ Tracks text gs a b hs
  | 0, a, b, h, ha => by
    obtain rfl : b = a := h
    exact ⟨Nat.le_refl _, ha, [], ⟨between_self _, rfl⟩, tracks_of_marks_eq rfl⟩
  | n + 1, a, b, ⟨c, hac, hcb⟩, ha => by
    obtain ⟨hle, hc, hs, hyield, htracks⟩ := hstep hac ha
    obtain ⟨hle', hb, hs', hyield', htracks'⟩ := Rounds.times hstep hcb hc
    exact ⟨Nat.le_trans hle hle', hb, hs' ++ hs,
      ⟨_, hs, _, hs', between_append hle hle', rfl, hyield, hyield'⟩, htracks.trans htracks'⟩

/-- What a group holds once it is passed, and what others hold. -/
theorem tracks_group {i : Nat} {name : Option String} {a c : Spot} {hs : Held}
    (hgs : Distinct gs) (hmem : (i, name) ∈ gs)
    (hstart : c.marks.lookup (2 * i) = some a.position)
    (htracks : Tracks text gs (a.mark (2 * i)) c hs) :
    Tracks text gs a (c.mark (2 * i + 1))
      (name.toList.map (·, between text a.position c.position) ++ hs) := by
  intro g hg n hn
  by_cases heq : g = (i, name)
  · subst heq
    obtain rfl : name = some n := hn
    have hspan : groupSpan (c.mark (2 * i + 1)).marks i = some (a.position, c.position) := by
      have hother : (2 * i == 2 * i + 1) = false := beq_eq_false_iff_ne.mpr (by omega)
      have hfirst : (c.mark (2 * i + 1)).marks.lookup (2 * i) = some a.position := by
        show List.lookup (2 * i) ((2 * i + 1, c.position) :: c.marks) = _
        rw [List.lookup_cons, hother]
        exact hstart
      have hlast : (c.mark (2 * i + 1)).marks.lookup (2 * i + 1) = some c.position :=
        List.lookup_cons_self
      unfold groupSpan
      rw [hfirst, hlast]
    rw [hold, hspan]
    simp
  · obtain ⟨hnumber, hname⟩ := hgs.ne hg hmem heq
    have hkeep : hold text (c.mark (2 * i + 1)).marks g.1 = hold text c.marks g.1 :=
      hold_cons hnumber (show (2 * i + 1) / 2 = i by omega)
    have hkeep' : hold text (a.mark (2 * i)).marks g.1 = hold text a.marks g.1 :=
      hold_cons hnumber (show 2 * i / 2 = i by omega)
    rw [hkeep, htracks g hg n hn, hkeep', List.lookup_append]
    have hnone : (name.toList.map (·, between text a.position c.position)).lookup n = none := by
      cases name with
      | none => rfl
      | some m =>
        have hne : (n == m) = false :=
          beq_eq_false_iff_ne.mpr fun h => hname n hn (h ▸ rfl)
        show List.lookup n [(m, between text a.position c.position)] = none
        rw [List.lookup_cons, hne]
        rfl
    rw [hnone, Option.none_or]

/-- **What is spanned is yielded.** An expression without assertions yields the text
over which it leads, and tells what its groups hold from then on. -/
theorem Expr.Spans.yields (hgs : Distinct gs) : ∀ {e : Expr} {a b : Spot}, e.Spans text a b →
    e.isFree = true → e.groups.Sublist gs → a.position ≤ text.size →
    ∃ hs, e.Yields (between text a.position b.position) hs ∧ Tracks text gs a b hs
  | empty, a, b, h, _, _, _ => by
    obtain rfl : b = a := h
    exact ⟨[], ⟨between_self _, rfl⟩, tracks_of_marks_eq rfl⟩
  | set _ s, a, b, ⟨c, hafter, hc, hb⟩, _, _, _ => by
    subst hb
    obtain ⟨hlt, hget⟩ := Array.getElem?_eq_some_iff.mp hafter
    refine ⟨[], ⟨c, hc, ?_, rfl⟩, tracks_of_marks_eq rfl⟩
    show (text.toList.drop a.position).take (a.position + 1 - a.position) = [c]
    rw [List.drop_eq_getElem_cons (by simpa using hlt), Nat.add_sub_cancel_left, List.take_succ_cons,
      List.take_zero, Array.getElem_toList, hget]
  | assertion _, a, b, h, hfree, _, _ => by cases hfree
  | seq e f, a, b, ⟨c, he, hf⟩, hfree, hsub, ha => by
    obtain ⟨hfree, hfree'⟩ := Bool.and_eq_true_iff.mp hfree
    obtain ⟨hle, hc⟩ := he.position_le ha
    obtain ⟨hs, hyield, htracks⟩ := he.yields hgs hfree ((List.sublist_append_left _ _).trans hsub) ha
    obtain ⟨hs', hyield', htracks'⟩ :=
      hf.yields hgs hfree' ((List.sublist_append_right _ _).trans hsub) hc
    exact ⟨hs' ++ hs, ⟨_, hs, _, hs', between_append hle (hf.position_le hc).1, rfl, hyield, hyield'⟩,
      htracks.trans htracks'⟩
  | alt e f, a, b, h, hfree, hsub, ha => by
    obtain ⟨hfree, hfree'⟩ := Bool.and_eq_true_iff.mp hfree
    rcases h with h | h
    · obtain ⟨hs, hyield, htracks⟩ :=
        Spans.yields hgs h hfree ((List.sublist_append_left _ _).trans hsub) ha
      exact ⟨hs, Or.inl hyield, htracks⟩
    · obtain ⟨hs, hyield, htracks⟩ :=
        Spans.yields hgs h hfree' ((List.sublist_append_right _ _).trans hsub) ha
      exact ⟨hs, Or.inr hyield, htracks⟩
  | rep e least most _, a, b, ⟨n, hleast, hmost, h⟩, hfree, hsub, ha => by
    obtain ⟨-, -, hs, hyield, htracks⟩ := h.times (fun h ha =>
      ⟨(h.position_le ha).1, (h.position_le ha).2, Spans.yields (e := e) hgs h hfree hsub ha⟩) ha
    exact ⟨hs, ⟨n, hleast, hmost, hyield⟩, htracks⟩
  | group i name e, a, b, ⟨c, hc, hb⟩, hfree, hsub, ha => by
    subst hb
    obtain ⟨hs, hyield, htracks⟩ := Spans.yields hgs hc hfree
      ((List.sublist_cons_self _ _).trans hsub) ha
    have hnew : i ∉ e.groups.map (·.1) := by
      obtain ⟨hfirst, -⟩ := List.pairwise_cons.mp (hgs.sublist hsub)
      intro hmem
      obtain ⟨g, hg, heq⟩ := List.mem_map.mp hmem
      exact (hfirst g hg).1 heq.symm
    have hstart : c.marks.lookup (2 * i) = some a.position := by
      rw [hc.lookup_marks (by rwa [Nat.mul_div_cancel_left i (by decide)])]
      exact List.lookup_cons_self
    exact ⟨_, ⟨hs, hyield, rfl⟩,
      tracks_group hgs (hsub.subset List.mem_cons_self) hstart htracks⟩

end Spans

/-! ### Matches -/

/-- What a match says of the group with the given name: nothing if there is no such
group, and then whether it took part and the text that it holds. -/
def held? (r : Regex) (found : Match) (name : String) : Option (Option String) :=
  (r.groupNames.zip found.groups).lookup (some name)

/-- The expression `e` stands alone between the two anchors; its groups have
consecutive numbers, and no name twice. -/
structure Framed (r : Regex) (e : Expr) (names : List (Option (List Char))) : Prop where
  expr : r.expr = .sequence [.assertion .textStart, e, .assertion .textEnd]
  free : e.isFree = true
  groups : e.groups = numbered 0 names
  nodup : (names.filterMap id).Nodup

theorem of_mem_numbered {g : Nat × Option String} : ∀ {names : List (Option (List Char))}
    {count : Nat}, g ∈ numbered count names →
      count < g.1 ∧ ∃ name ∈ names, g.2 = name.map String.ofList
  | name :: names, count, h => by
    rcases List.mem_cons.mp h with rfl | h
    · exact ⟨Nat.lt_succ_self count, name, List.mem_cons_self, rfl⟩
    · obtain ⟨hlt, name', hmem, heq⟩ := of_mem_numbered h
      exact ⟨Nat.lt_of_succ_lt hlt, name', List.mem_cons_of_mem name hmem, heq⟩

theorem distinct_numbered : ∀ {names : List (Option (List Char))} (count : Nat),
    (names.filterMap id).Nodup → Distinct (numbered count names)
  | [], _, _ => List.Pairwise.nil
  | name :: names, count, h => by
    have hrest : (names.filterMap id).Nodup :=
      h.sublist ((List.sublist_cons_self name names).filterMap id)
    refine List.pairwise_cons.mpr ⟨fun g hg => ?_, distinct_numbered (count + 1) hrest⟩
    obtain ⟨hlt, name', hmem, hname'⟩ := of_mem_numbered hg
    refine ⟨Nat.ne_of_lt hlt, fun n hn hn' => ?_⟩
    cases name with
    | none => cases hn
    | some m =>
      obtain ⟨m', rfl, hm'⟩ := Option.map_eq_some_iff.mp (hname'.symm.trans hn')
      have hsame : m' = m := String.ofList_inj.mp (hm'.trans (Option.some.inj hn).symm)
      have hnew := (List.nodup_cons.mp h).1
      exact hnew (List.mem_filterMap.mpr ⟨some m', hmem, congrArg some hsame⟩)

/-- The names of groups with consecutive numbers, looked up together with what is told
of each number. -/
theorem lookup_zip_numbered {β : Type} (f : Nat → β) {name : List Char} :
    ∀ {names : List (Option (List Char))} (count : Nat), some name ∈ names →
      ∃ number, (number, some (String.ofList name)) ∈ numbered count names ∧
        ((names.map (·.map String.ofList)).zip
          ((List.range names.length).map fun i => f (count + i + 1))).lookup
            (some (String.ofList name)) = some (f number)
  | first :: names, count, hmem => by
    rw [List.length_cons, List.range_succ_eq_map, List.map_cons, List.map_cons, List.zip_cons_cons,
      List.lookup_cons, List.map_map]
    by_cases hfirst : first = some name
    · subst hfirst
      exact ⟨count + 1, List.mem_cons_self, by simp⟩
    · obtain ⟨number, hnumber, hlookup⟩ := lookup_zip_numbered f (count + 1)
        ((List.mem_cons.mp hmem).resolve_left (Ne.symm hfirst))
      have hne : (some (String.ofList name) == first.map String.ofList) = false := by
        refine beq_eq_false_iff_ne.mpr fun heq => hfirst ?_
        obtain ⟨m, rfl, hm⟩ := Option.map_eq_some_iff.mp heq.symm
        rw [String.ofList_inj.mp hm]
      have hshift : (fun i => f (count + i + 1)) ∘ Nat.succ = fun i => f (count + 1 + i + 1) := by
        funext i
        exact congrArg f (by simp only [Nat.succ_eq_add_one]; omega)
      rw [hne, hshift]
      exact ⟨number, List.mem_cons_of_mem _ hnumber, hlookup⟩

theorem between_size (cs : List Char) : between cs.toArray 0 cs.toArray.size = cs := by
  rw [between, List.drop_zero, Nat.sub_zero, List.size_toArray, List.take_length]

namespace Framed

variable {r : Regex} {e : Expr} {names : List (Option (List Char))}

/-- A way through the whole expression goes through what is between the anchors, from
the start of the text to its end. -/
theorem spans_iff (h : Framed r e names) {text : Array Char} {a b : Spot}
    (ha : a.position ≤ text.size) :
    r.expr.Spans text a b ↔ a.position = 0 ∧ b.position = text.size ∧ e.Spans text a b := by
  rw [h.expr, Expr.spans_sequence]
  constructor
  · rintro ⟨_, ⟨hstart, rfl⟩, c, hc, _, ⟨hend, rfl⟩, rfl⟩
    exact ⟨Expr.position_of_textStart ha hstart,
      Expr.position_of_textEnd (hc.position_le ha).2 hend, hc⟩
  · rintro ⟨hstart, hend, hc⟩
    refine ⟨a, ⟨?_, rfl⟩, b, hc, b, ⟨?_, rfl⟩, rfl⟩
    · rw [Spot.before, if_pos hstart]
      rfl
    · rw [Spot.after, hend, Array.getElem?_eq_none (Nat.le_refl _)]
      rfl

/-- What such a way yields, and what the groups hold after it. -/
theorem exists_yields (h : Framed r e names) {text : List Char} {start : Nat} {b : Spot}
    (hle : start ≤ text.toArray.size) (hb : r.expr.Spans text.toArray ⟨start, []⟩ b) :
    ∃ hs, e.Yields text hs ∧ Tracks text.toArray e.groups ⟨start, []⟩ b hs := by
  obtain ⟨hstart, hend, hspans⟩ := (h.spans_iff hle).mp hb
  have hdistinct : Distinct e.groups := by
    rw [h.groups]
    exact distinct_numbered 0 h.nodup
  obtain ⟨hs, hyields, htracks⟩ := hspans.yields hdistinct h.free (List.Sublist.refl _) hle
  have hwhole : between text.toArray start b.position = text := by
    rw [show start = 0 from hstart, hend, between_size]
  exact ⟨hs, by rwa [hwhole] at hyields, htracks⟩

/-- **Which texts match.** -/
theorem isMatch_iff (h : Framed r e names) {text : String} :
    r.isMatch text = true ↔ ∃ hs, e.Yields text.toList hs := by
  unfold isMatch
  rw [r.program_eq, Expr.isSome_run_program_iff]
  constructor
  · rintro ⟨start, hle, b, hb⟩
    obtain ⟨hs, hyields, -⟩ := h.exists_yields hle hb
    exact ⟨hs, hyields⟩
  · rintro ⟨hs, hyields⟩
    obtain ⟨b, hb, hpos⟩ : ∃ b, e.Spans text.toList.toArray ⟨0, []⟩ b ∧
        b.position = 0 + text.toList.length := hyields.spans (List.prefix_refl text.toList)
    have hend : b.position = text.toList.toArray.size := by
      rw [hpos, List.size_toArray, Nat.zero_add]
    exact ⟨0, Nat.zero_le _, b, (h.spans_iff (Nat.zero_le _)).mpr ⟨rfl, hend, hb⟩⟩

/-- The groups have the names that they are to have. -/
theorem groupNames_eq (h : Framed r e names) : r.groupNames = names.map (·.map String.ofList) := by
  refine Expr.groupNames_of_numbered ?_
  rw [h.expr, Expr.groups_sequence, ← h.groups]
  exact List.append_nil e.groups

/-- **What the groups of a match hold.** A match is the whole text, and its groups hold
what they hold in one of the ways to yield it. -/
theorem held?_of_captures? (h : Framed r e names) {text : String} {found : Match}
    (hfound : r.captures? text = some found) :
    found.whole = text ∧ ∃ hs, e.Yields text.toList hs ∧ ∀ name, some name ∈ names →
      r.held? found (String.ofList name) =
        some ((hs.lookup (String.ofList name)).map String.ofList) := by
  refine ⟨whole_of_isAnchored (h.expr ▸ Expr.isAnchored_sequence e) hfound, ?_⟩
  unfold captures? at hfound
  obtain ⟨⟨start, t⟩, hrun, rfl⟩ := Option.map_eq_some_iff.mp hfound
  rw [r.program_eq] at hrun
  obtain ⟨hle, hspans⟩ := Expr.run_spans hrun
  obtain ⟨hs, hyields, htracks⟩ := h.exists_yields hle hspans
  refine ⟨hs, hyields, fun name hname => ?_⟩
  have hnames := h.groupNames_eq
  let value (number : Nat) : Option String :=
    (hold text.toList.toArray t.marks number).map String.ofList
  obtain ⟨number, hnumber, hlookup⟩ := lookup_zip_numbered value 0 hname
  have htexts : (matchOf text.toList.toArray r.groupNames.length start t).groups =
      (List.range names.length).map fun i => value (0 + i + 1) := by
    unfold matchOf
    rw [hnames, List.length_map]
    refine List.map_congr_left fun i _ => ?_
    rw [Nat.zero_add]
    show _ = ((groupSpan t.marks (i + 1)).map _).map String.ofList
    rw [Option.map_map]
    rfl
  have hheld : hold text.toList.toArray t.marks number = hs.lookup (String.ofList name) := by
    have htrack := htracks (number, some (String.ofList name)) (h.groups ▸ hnumber) _ rfl
    exact htrack.trans Option.or_none
  show ((r.groupNames.zip _).lookup _) = _
  rw [htexts, hnames, hlookup]
  exact congrArg (fun value => some (value.map String.ofList)) hheld

end Framed
end Regex
end Signpost
