/-
# What catches all

A placeholder without a kind asks for one character or more, whatever they are, and a
star is such a placeholder with the name `wild`. But in its expression the full stop
stands for every character except the line feed. So what catches all accepts the
texts of one line that are not empty, and no others (`accepts_catchAll`); its group
then holds the whole text.

Key definitions: `CatchesAll`, `IsLine`.
Key theorems: `contains_notLineFeed`, `CatchesAll.compiles`, `accepts_line`,
`accepts_catchAll`.
-/
import Signpost.Proofs.Template.Accepted

namespace Signpost
namespace Template

open Regex Placeholder

/-- The templates that catch all, each with the name of its group: a placeholder without
a kind, with a name that begins well, and a star. -/
inductive CatchesAll : String → String → Prop
  | named {name : String} (hword : IsWord name.toList) (hbegins : BeginsWell name.toList) :
      CatchesAll (single .catchAll name) name
  | star : CatchesAll "*" "wild"

/-- Not empty, and without a line feed. -/
def IsLine (text : String) : Prop := text ≠ "" ∧ '\n' ∉ text.toList

instance (text : String) : Decidable (IsLine text) := inferInstanceAs (Decidable (_ ∧ _))

theorem contains_notLineFeed (c : Char) : notLineFeed.contains c = (c != '\n') := by
  have hle : c.toNat ≤ 0x10FFFF := by
    rcases c.valid with h | h
    · have : c.toNat < 0xD800 := h
      omega
    · have : c.toNat < 0x110000 := h.2
      omega
  have hiff : notLineFeed.contains c = true ↔ c.toNat ≠ 10 := by
    have hranges : notLineFeed.ranges = [(0, 9), (11, 0x10FFFF)] := rfl
    unfold CharSet.contains CharSet.covers
    rw [hranges]
    simp only [List.any_cons, List.any_nil, Bool.or_false, Bool.or_eq_true, Bool.and_eq_true,
      decide_eq_true_eq]
    omega
  have hnumber : c.toNat ≠ 10 ↔ c ≠ '\n' :=
    not_congr ⟨fun h => Char.toNat_inj.mp h, fun h => congrArg Char.toNat h⟩
  rw [Bool.eq_iff_iff, hiff, hnumber, bne_iff_ne]

theorem isLine_iff {text : String} :
    IsLine text ↔ ∃ run : Run (· != '\n') 1 none, text.toList = run.chars := by
  constructor
  · rintro ⟨hne, hline⟩
    have hlength : 1 ≤ text.toList.length :=
      List.length_pos_iff.mpr fun h => hne (String.toList_eq_nil_iff.mp h)
    exact ⟨⟨text.toList, fun c hc => bne_iff_ne.mpr fun he => hline (he ▸ hc), hlength, by simp⟩, rfl⟩
  · rintro ⟨run, hrun⟩
    refine ⟨fun hempty => ?_, fun hmem => ?_⟩
    · have hpos := run.least_le
      rw [← hrun, hempty] at hpos
      exact absurd hpos (by decide)
    · rw [hrun] at hmem
      exact absurd rfl (bne_iff_ne.mp (run.all '\n' hmem))

/-- **What the expression that catches all accepts.** It matches just the texts of one
line, and its group then holds the whole text. -/
theorem accepts_line {name : String} {r : Regex} (hexpr : r.expr = singleExpr .catchAll name.toList)
    (segment : String) :
    (r.isMatch segment = true ↔ IsLine segment) ∧
      (IsLine segment → ∃ found, r.captures? segment = some found ∧ found.whole = segment ∧
        r.held? found name = some (some segment)) := by
  have hrenders : Renders (Expr.YieldsAll [.group 1 (some name) (scalarExpr .catchAll)])
      (Run.chars : Run (· != '\n') 1 none → List Char) (fun run => [(name, run.chars)]) :=
    (renders_run contains_notLineFeed (by simp)).named.last
  have hexprs : [.group 1 (some name) (scalarExpr .catchAll)] = catchAll.exprs name.toList 0 := by
    show _ = [Expr.group 1 (some (String.ofList name.toList)) (scalarExpr .catchAll)]
    rw [String.ofList_toList]
  rw [hexprs] at hrenders
  have hlookup : ∀ run : Run (· != '\n') 1 none, ∀ part ∈ catchAll.suffixes,
      List.lookup (String.ofList (partName name.toList part)) [(name, run.chars)] =
        some run.chars := by
    intro run part hpart
    rw [List.mem_singleton.mp hpart, partName_empty, String.ofList_toList, List.lookup_cons_self]
  obtain ⟨hmatch, hheld⟩ := accepts_of_expr hexpr (fun run _ => some run.chars) hrenders
    (readable_run.injective (stops_nil _)) hlookup
  refine ⟨(hmatch segment).trans isLine_iff.symm, fun hline => ?_⟩
  obtain ⟨run, hrun⟩ := isLine_iff.mp hline
  obtain ⟨found, hfound, hwhole, hparts⟩ := hheld segment run hrun
  have hself := hparts "" (List.mem_singleton.mpr rfl)
  rw [String.append_empty, Option.map_some, ← hrun, String.ofList_toList] at hself
  exact ⟨found, hfound, hwhole, hself⟩

theorem CatchesAll.compiles {template name : String} (h : CatchesAll template name) :
    ∃ r, compile template = .ok r ∧ r.expr = singleExpr .catchAll name.toList := by
  cases h with
  | named hword hbegins => exact compile_single .catchAll hword hbegins
  | star =>
    have hbegins : BeginsWell wild.chars := by decide
    exact compile_alone (t := .star) trivial rfl hbegins

/-- **What catches all.** A template that catches all compiles, and matches just the
texts of one line that are not empty. Its group then holds the whole text. -/
theorem accepts_catchAll {template name : String} (h : CatchesAll template name) :
    ∃ r, compile template = .ok r ∧ ∀ segment,
      (r.isMatch segment = true ↔ IsLine segment) ∧
      (IsLine segment → ∃ found, r.captures? segment = some found ∧ found.whole = segment ∧
        r.held? found name = some (some segment)) := by
  obtain ⟨r, hr, hexpr⟩ := h.compiles
  exact ⟨r, hr, accepts_line hexpr⟩

end Template
end Signpost
