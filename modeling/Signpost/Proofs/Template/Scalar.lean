/-
# The languages of the simple kinds

A word, a number with or without sign, a decimal fraction, a hexadecimal number
and a universally unique identifier have each a notation (`Accepts`), and the
placeholder of the kind accepts just the texts in it (`accepts_scalar`). The
group of the placeholder holds the whole text. The numbers that a `uint` or an
`int` accepts have so few digits that they fit into 64 bits with a sign.

Key definitions: `Signed`, `Fractional`, `Hexadecimal`, `Identifier`, `Accepts`,
`integer`.
Key theorems: `renders_int`, `renders_float`, `renders_hex`, `renders_uuid`,
`integer_bounds`, `accepts_scalar`.
-/
import Signpost.Proofs.Template.Accepted

namespace Signpost
namespace Template

open Regex Placeholder

/-! ### Notations -/

/-- A sign that may be left out. -/
abbrev Sign : Type := Option (Among ['+', '-'])

/-- Its rendering. -/
def Sign.text : Sign → List Char := optionText fun c => [c.1]

/-- An integer with or without sign. -/
structure Signed where
  sign : Sign
  digits : Run Char.isDigit 1 (some 18)

/-- A decimal fraction, with digits on both sides of the point. -/
structure Fractional where
  sign : Sign
  whole : Run Char.isDigit 1 none
  fraction : Run Char.isDigit 1 none

/-- A hexadecimal number, with or without the mark before it. -/
structure Hexadecimal where
  marked : Bool
  digits : Run isHexDigit 1 none

/-- A universally unique identifier, each of its hyphens written or left out. -/
structure Identifier where
  time : Run isHexDigit 8 (some 8)
  hyphen₁ : Bool
  mid : Run isHexDigit 4 (some 4)
  hyphen₂ : Bool
  version : Run isHexDigit 4 (some 4)
  hyphen₃ : Bool
  clock : Run isHexDigit 4 (some 4)
  hyphen₄ : Bool
  node : Run isHexDigit 12 (some 12)

/-- The sign, if there is one, and the digits. -/
def Signed.text (n : Signed) : List Char := n.sign.text ++ n.digits.chars

/-- The sign, if there is one, and the digits on both sides of the point. -/
def Fractional.text (n : Fractional) : List Char :=
  n.sign.text ++ n.whole.chars ++ ['.'] ++ n.fraction.chars

/-- The mark `0x`, if it is there, and the digits. -/
def Hexadecimal.text (n : Hexadecimal) : List Char :=
  markText ['0', 'x'] n.marked ++ n.digits.chars

/-- The five runs of digits, with the hyphens that are there. -/
def Identifier.text (n : Identifier) : List Char :=
  n.time.chars ++ markText ['-'] n.hyphen₁ ++ n.mid.chars ++ markText ['-'] n.hyphen₂ ++
    n.version.chars ++ markText ['-'] n.hyphen₃ ++ n.clock.chars ++ markText ['-'] n.hyphen₄ ++
    n.node.chars

/-- The texts that the simple kinds stand for. -/
def Accepts : Placeholder → List Char → Prop
  | .word, cs => ∃ w : Run Template.isNameChar 1 none, cs = w.chars
  | .uint, cs => ∃ n : Run Char.isDigit 1 (some 18), cs = n.chars
  | .int, cs => ∃ n : Signed, cs = n.text
  | .float, cs => ∃ n : Fractional, cs = n.text
  | .hex, cs => ∃ n : Hexadecimal, cs = n.text
  | .uuid, cs => ∃ n : Identifier, cs = n.text
  | _, _ => False

/-! ### Renderings -/

theorem renders_sign : Renders signExpr.Yields Sign.text noneHeld :=
  (renders_among contains_signs).option_noneHeld

theorem renders_int :
    Renders (scalarExpr .int).Yields Signed.text noneHeld :=
  (renders_sign.cons (renders_digits (by decide)).last).sequence.map
    (fun n : Signed => (n.sign, n.digits)) (fun x => ⟨⟨x.1, x.2⟩, rfl⟩) (fun _ => rfl) fun _ => rfl

theorem renders_float :
    Renders (scalarExpr .float).Yields Fractional.text noneHeld := by
  have hdigits : Renders (severalExpr digitExpr).Yields
      (Run.chars : Run Char.isDigit 1 none → List Char) noneHeld := renders_digits (by simp)
  have hfraction := (renders_char '.').after hdigits.last
  exact (renders_sign.cons (hdigits.cons hfraction)).sequence.map
    (fun n : Fractional => (n.sign, n.whole, n.fraction)) (fun x => ⟨⟨x.1, x.2.1, x.2.2⟩, rfl⟩)
    (fun n => by simp [Fractional.text]) fun _ => rfl

theorem renders_hex :
    Renders (scalarExpr .hex).Yields Hexadecimal.text noneHeld := by
  have hmark : Renders (perhapsExpr (.sequence [.char '0', .char 'x'])).Yields
      (markText ['0', 'x']) noneHeld := (renders_chars ['0', 'x']).sequence.mark
  have hdigits : Renders (severalExpr (setExpr hexDigit)).Yields
      (Run.chars : Run isHexDigit 1 none → List Char) noneHeld :=
    renders_run contains_hexDigit (by simp)
  exact (hmark.cons hdigits.last).sequence.map (fun n : Hexadecimal => (n.marked, n.digits))
    (fun x => ⟨⟨x.1, x.2⟩, rfl⟩) (fun _ => rfl) fun _ => rfl

theorem renders_hexDigits (count : Nat) : Renders (hexExpr count).Yields
    (Run.chars : Run isHexDigit count (some count) → List Char) noneHeld :=
  renders_run contains_hexDigit fun _ hm => Nat.le_of_eq (Option.some.inj hm)

theorem renders_uuid :
    Renders (scalarExpr .uuid).Yields Identifier.text noneHeld := by
  have hnode := renders_hyphen.cons (renders_hexDigits 12).last
  have hclock := renders_hyphen.cons ((renders_hexDigits 4).cons hnode)
  have hversion := renders_hyphen.cons ((renders_hexDigits 4).cons hclock)
  have hmid := renders_hyphen.cons ((renders_hexDigits 4).cons hversion)
  exact ((renders_hexDigits 8).cons hmid).sequence.map
    (fun n : Identifier => (n.time, n.hyphen₁, n.mid, n.hyphen₂, n.version, n.hyphen₃, n.clock,
      n.hyphen₄, n.node))
    (fun ⟨a, i, b, j, c, k, d, l, e⟩ => ⟨⟨a, i, b, j, c, k, d, l, e⟩, rfl⟩)
    (fun n => by simp [Identifier.text]) fun _ => rfl

/-- The simple kinds with a notation of their own. -/
def scalars : List Placeholder := [.word, .uint, .int, .float, .hex, .uuid]

theorem cases_of_mem_scalars {kind : Placeholder} (hkind : kind ∈ scalars) :
    kind = .word ∨ kind = .uint ∨ kind = .int ∨ kind = .float ∨ kind = .hex ∨ kind = .uuid := by
  simpa [scalars] using hkind

/-- The placeholder is one group around the body of its kind. -/
theorem exprs_of_mem_scalars {kind : Placeholder} (hkind : kind ∈ scalars) (name : List Char) :
    kind.exprs name 0 = [.group 1 (some (String.ofList name)) (scalarExpr kind)] ∧
      kind.suffixes = [""] := by
  rcases cases_of_mem_scalars hkind with rfl | rfl | rfl | rfl | rfl | rfl <;> exact ⟨rfl, rfl⟩

/-- The expressions of the simple kinds yield the texts in their notation. -/
theorem renders_scalar {kind : Placeholder} (hkind : kind ∈ scalars) :
    Renders (scalarExpr kind).Yields (Subtype.val : { cs // Accepts kind cs } → List Char)
      noneHeld := by
  rcases cases_of_mem_scalars hkind with rfl | rfl | rfl | rfl | rfl | rfl
  · exact (renders_run contains_word (by simp)).image fun _ => Iff.rfl
  · exact (renders_digits (by simp)).image fun _ => Iff.rfl
  · exact renders_int.image fun _ => Iff.rfl
  · exact renders_float.image fun _ => Iff.rfl
  · exact renders_hex.image fun _ => Iff.rfl
  · exact renders_uuid.image fun _ => Iff.rfl

/-! ### Values -/

/-- The number that some digits stand for. -/
def digitsValue (cs : List Char) : Nat :=
  cs.foldl (fun n c => 10 * n + (c.toNat - '0'.toNat)) 0

/-- The integer that digits stand for, with or without a sign before them. -/
def integer : List Char → Int
  | '+' :: cs => digitsValue cs
  | '-' :: cs => -digitsValue cs
  | cs => digitsValue cs

theorem foldl_digits_lt : ∀ {cs : List Char} (n : Nat), (∀ c ∈ cs, c.isDigit = true) →
    cs.foldl (fun n c => 10 * n + (c.toNat - '0'.toNat)) n < (n + 1) * 10 ^ cs.length
  | [], n, _ => by simp
  | c :: cs, n, h => by
    rw [List.forall_mem_cons] at h
    have hc := (Char.toNat_of_isDigit h.1).2
    have hzero : '0'.toNat = 0x30 := rfl
    have ih := foldl_digits_lt (10 * n + (c.toNat - '0'.toNat)) h.2
    calc cs.foldl (fun n c => 10 * n + (c.toNat - '0'.toNat)) (10 * n + (c.toNat - '0'.toNat))
        < (10 * n + (c.toNat - '0'.toNat) + 1) * 10 ^ cs.length := ih
      _ ≤ (10 * (n + 1)) * 10 ^ cs.length := Nat.mul_le_mul_right _ (by omega)
      _ = (n + 1) * 10 ^ (c :: cs).length := by
        rw [List.length_cons, Nat.pow_succ, Nat.mul_comm 10, Nat.mul_assoc, Nat.mul_comm 10]

/-- Eighteen digits stand for less than `10 ^ 18`. -/
theorem digitsValue_lt (n : Run Char.isDigit 1 (some 18)) : digitsValue n.chars < 10 ^ 18 := by
  have hlt := foldl_digits_lt 0 n.all
  have hle : 10 ^ n.chars.length ≤ 10 ^ 18 := Nat.pow_le_pow_right (by decide) (n.le_most 18 rfl)
  rw [Nat.zero_add, Nat.one_mul] at hlt
  exact Nat.lt_of_lt_of_le hlt hle

/-- What is no sign does not change the value. -/
theorem integer_digits (n : Run Char.isDigit 1 (some 18)) :
    integer n.chars = digitsValue n.chars := by
  have hsign : ∀ c ∈ n.chars.head?, c ≠ '+' ∧ c ≠ '-' := by
    intro c hc
    have hdigit := n.all c (List.mem_of_mem_head? hc)
    exact ⟨fun h => absurd (h ▸ hdigit) (by decide), fun h => absurd (h ▸ hdigit) (by decide)⟩
  unfold integer
  split
  · rename_i heq
    exact absurd rfl (hsign '+' (by rw [heq]; rfl)).1
  · rename_i heq
    exact absurd rfl (hsign '-' (by rw [heq]; rfl)).2
  · rfl

/-- The integers in the notations of `uint` and `int` lie between `-10 ^ 18` and
`10 ^ 18`. -/
theorem integer_bounds {kind : Placeholder} {cs : List Char} (hkind : kind = .uint ∨ kind = .int)
    (h : Accepts kind cs) : -10 ^ 18 < integer cs ∧ integer cs < 10 ^ 18 := by
  rcases hkind with rfl | rfl
  · obtain ⟨n, rfl⟩ := h
    have hlt := digitsValue_lt n
    rw [integer_digits]
    omega
  · obtain ⟨⟨sign, n⟩, rfl⟩ := h
    have hlt := digitsValue_lt n
    cases sign with
    | none =>
      show -10 ^ 18 < integer n.chars ∧ integer n.chars < 10 ^ 18
      rw [integer_digits]
      omega
    | some sign =>
      obtain ⟨c, hc⟩ := sign
      obtain rfl | rfl : c = '+' ∨ c = '-' := by simpa using hc
      · show -10 ^ 18 < (digitsValue n.chars : Int) ∧ (digitsValue n.chars : Int) < 10 ^ 18
        omega
      · show -10 ^ 18 < -(digitsValue n.chars : Int) ∧ -(digitsValue n.chars : Int) < 10 ^ 18
        omega

/-! ### What the simple kinds accept -/

/-- **The simple kinds.** The placeholder of a simple kind, with a name that begins with
a letter or a low line, compiles, and matches just the texts in the notation of its
kind. The group of the placeholder then holds the whole text. What a `uint` or an
`int` matches is an integer strictly between `-10 ^ 18` and `10 ^ 18`, and so it has
64 bits with a sign. -/
theorem accepts_scalar {kind : Placeholder} (hkind : kind ∈ scalars) {name : String}
    (hword : IsWord name.toList) (hbegins : BeginsWell name.toList) :
    ∃ r, compile (single kind name) = .ok r ∧
      (∀ segment : String, r.isMatch segment = true ↔ Accepts kind segment.toList) ∧
      ∀ segment, r.isMatch segment = true → ∃ found, r.captures? segment = some found ∧
        found.whole = segment ∧ r.held? found name = some (some segment) ∧
        (kind = .uint ∨ kind = .int →
          -10 ^ 18 < integer segment.toList ∧ integer segment.toList < 10 ^ 18 ∧
            (Int64.ofInt (integer segment.toList)).toInt = integer segment.toList) := by
  obtain ⟨hexprs, hsuffixes⟩ := exprs_of_mem_scalars hkind name.toList
  have hrenders : Renders (Expr.YieldsAll [.group 1 (some name) (scalarExpr kind)])
      (Subtype.val : { cs // Accepts kind cs } → List Char) (fun cs => [(name, cs.1)]) :=
    (renders_scalar hkind).named.last
  rw [String.ofList_toList] at hexprs
  rw [← hexprs] at hrenders
  have hlookup : ∀ cs : { cs // Accepts kind cs }, ∀ part ∈ kind.suffixes,
      List.lookup (String.ofList (partName name.toList part)) [(name, cs.1)] = some cs.1 := by
    intro cs part hpart
    rw [hsuffixes, List.mem_singleton] at hpart
    rw [hpart, partName_empty, String.ofList_toList, List.lookup_cons_self]
  obtain ⟨r, hr, hmatch, hheld⟩ := accepts_single hword hbegins (fun cs _ => some cs.1) hrenders
    Subtype.val_injective hlookup
  have haccepts : ∀ segment : String, r.isMatch segment = true ↔ Accepts kind segment.toList := by
    intro segment
    rw [hmatch]
    constructor
    · rintro ⟨⟨cs, hcs⟩, htext⟩
      rwa [htext]
    · intro hcs
      exact ⟨⟨segment.toList, hcs⟩, rfl⟩
  refine ⟨r, hr, haccepts, fun segment hsegment => ?_⟩
  have hcs := (haccepts segment).mp hsegment
  obtain ⟨found, hfound, hwhole, hparts⟩ := hheld segment ⟨segment.toList, hcs⟩ rfl
  have hself := hparts "" (by rw [hsuffixes]; exact List.mem_singleton.mpr rfl)
  rw [String.append_empty, Option.map_some, String.ofList_toList] at hself
  refine ⟨found, hfound, hwhole, hself, fun hinteger => ?_⟩
  obtain ⟨hlo, hhi⟩ := integer_bounds hinteger hcs
  exact ⟨hlo, hhi, Int64.toInt_ofInt_of_le (by omega) (by omega)⟩

/-- An integer with a sign, and a text that is none. -/
theorem accepts_scalar_signed :
    (.int ∈ scalars ∧ IsWord "n".toList ∧ BeginsWell "n".toList) ∧
      ∃ r, compile "\x7bint:n\x7d" = .ok r ∧ r.isMatch "-42" = true ∧ r.isMatch "-" = false ∧
        ∃ found, r.captures? "-42" = some found ∧ r.held? found "n" = some (some "-42") := by
  have hkind : Placeholder.int ∈ scalars := by decide
  have hword : IsWord "n".toList := isWord_of_all (by decide) rfl
  have hbegins : BeginsWell "n".toList := by decide
  obtain ⟨r, hr, hmatch, hheld⟩ := accepts_scalar hkind hword hbegins
  have hnumber : r.isMatch "-42" = true := (hmatch "-42").mpr
    ⟨⟨some ⟨'-', by decide⟩, ⟨['4', '2'], by simp, by decide, by simp⟩⟩, rfl⟩
  obtain ⟨found, hfound, -, hself, -⟩ := hheld "-42" hnumber
  refine ⟨⟨hkind, hword, hbegins⟩, r, hr, hnumber, ?_, found, hfound, hself⟩
  rw [Bool.eq_false_iff]
  intro hsign
  obtain ⟨n, hn⟩ := (hmatch "-").mp hsign
  obtain ⟨c, hc⟩ := List.exists_mem_of_length_pos n.digits.least_le
  have hmem : c ∈ "-".toList := by
    rw [hn]
    exact List.mem_append_right _ hc
  have hdigit := n.digits.all c hc
  rw [List.mem_singleton.mp hmem] at hdigit
  exact absurd hdigit (by decide)

end Template
end Signpost
