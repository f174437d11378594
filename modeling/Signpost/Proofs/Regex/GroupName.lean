/-
# Names over ASCII

The names of placeholders are made of letters and digits of ASCII and low
lines. All of these may stand in the name of a group; at its beginning, all but
the digits.

Key theorems: `isNameChar_of_word`, `isGroupName_append`, `close_not_mem`.
-/
import Signpost.Proofs.Extra
import Signpost.Regex.Reader
import Signpost.Template.Expansion

namespace Signpost
namespace Regex

variable {c : Char}

theorem contains_of_first {lo hi : Nat} {rs : List (Nat × Nat)} (hlo : lo ≤ c.toNat)
    (hhi : c.toNat ≤ hi) : CharSet.contains ⟨(lo, hi) :: rs⟩ c = true := by
  unfold CharSet.contains CharSet.covers
  rw [List.any_cons, decide_eq_true hlo, decide_eq_true hhi]
  rfl

theorem isIn_of_mem {sets : List CharSet} {s : CharSet} (hs : s ∈ sets)
    (hc : s.contains c = true) : Unicode.isIn sets c = true :=
  List.any_eq_true.mpr ⟨s, hs, hc⟩

theorem isAlphabetic_of_isAlpha (h : c.isAlpha = true) : Unicode.isAlphabetic c = true := by
  have hmem : ∀ s ∈ Unicode.casedLetters, s ∈ Unicode.recentAlphabetic :: Unicode.alphabetics := by
    intro s hs
    exact List.mem_cons_of_mem _ (List.mem_append_left _ (List.mem_append_left _ hs))
  rcases Bool.or_eq_true_iff.mp h with hupper | hlower
  · obtain ⟨hlo, hhi⟩ := Char.isUpper_iff_toNat.mp hupper
    have hc : Unicode.uppercaseLetter.contains c = true := contains_of_first hlo hhi
    exact isIn_of_mem (hmem _ (List.mem_cons_of_mem _ List.mem_cons_self)) hc
  · obtain ⟨hlo, hhi⟩ := Char.isLower_iff_toNat.mp hlower
    have hc : Unicode.lowercaseLetter.contains c = true := contains_of_first hlo hhi
    exact isIn_of_mem (hmem _ List.mem_cons_self) hc

theorem isAlphanumeric_of_isAlphanum (h : c.isAlphanum = true) :
    Unicode.isAlphanumeric c = true := by
  unfold Unicode.isAlphanumeric
  rcases Bool.or_eq_true_iff.mp h with halpha | hdigit
  · rw [isAlphabetic_of_isAlpha halpha, Bool.true_or]
  · obtain ⟨hlo, hhi⟩ := Char.toNat_of_isDigit hdigit
    have hc : Unicode.decimalNumber.contains c = true := contains_of_first hlo hhi
    have hmem : Unicode.decimalNumber ∈ Unicode.recentNumber :: Unicode.numbers :=
      List.mem_cons_of_mem _ List.mem_cons_self
    rw [isIn_of_mem hmem hc, Bool.or_true]

theorem isNameChar_of_word (h : Template.isNameChar c = true) : isNameChar false c = true := by
  unfold isNameChar
  rcases Bool.or_eq_true_iff.mp h with halnum | hline
  · simp [isAlphanumeric_of_isAlphanum halnum]
  · rw [hline]
    rfl

/-- A name stays one if letters, digits and low lines are put behind it. -/
theorem isGroupName_append {name suffix : List Char} (hname : isGroupName name = true)
    (hsuffix : ∀ c ∈ suffix, Template.isNameChar c = true) :
    isGroupName (name ++ suffix) = true := by
  cases name with
  | nil => cases hname
  | cons c cs =>
    obtain ⟨hc, hcs⟩ := Bool.and_eq_true_iff.mp hname
    have hsuffix' : suffix.all (isNameChar false) = true :=
      List.all_eq_true.mpr fun d hd => isNameChar_of_word (hsuffix d hd)
    show (isNameChar true c && (cs ++ suffix).all (isNameChar false)) = true
    rw [hc, Bool.true_and, List.all_append, hcs, hsuffix']
    rfl

/-- The bracket that closes the name of a group is in none. -/
theorem close_not_mem {name : List Char} (h : ∀ c ∈ name, Template.isNameChar c = true) :
    '>' ∉ name := fun hmem => absurd (h '>' hmem) (by decide)

end Regex
end Signpost
