/-
# What a placeholder accepts

A template that is one placeholder compiles if the name may be given to groups;
then it accepts the texts that its expressions yield, and its groups hold what
they hold in one of the ways to yield the text. So if the expressions have
renderings, these are the texts it accepts; and if a thing can be told from its
rendering, the groups hold the parts of that thing (`accepts_single`).

The parts that occur in several kinds of placeholders are told here: sorts of
characters, and numbers of two digits.

Key definitions: `isHexDigit`, `Number`, `twoDigits`.
Key theorems: `framed_single`, `accepts_of_expr`, `accepts_single`, `renders_digits`,
`yields_pair`, `renders_pair`, `renders_number_alt`, `readable_number`.
-/
import Signpost.Proofs.Regex.Rendering
import Signpost.Proofs.Template.Compiling

namespace Signpost
namespace Template

open Regex Placeholder

/-! ### One placeholder -/

theorem framed_single (kind : Placeholder) {name : List Char} {r : Regex}
    (h : r.expr = singleExpr kind name) :
    Framed r (.branch (kind.exprs name 0)) (kind.phrase name).groups where
  expr := h
  free := by cases kind <;> rfl
  groups := by rw [Expr.groups_branch, (kind.means_phrase name 0).2]
  nodup := by
    show (kind.phrase name).names.Nodup
    rw [names_phrase]
    exact kind.nodup_captureNames name

theorem compile_single (kind : Placeholder) {name : String} (hword : IsWord name.toList)
    (hbegins : BeginsWell name.toList) :
    ∃ r, compile (single kind name) = .ok r ∧ r.expr = singleExpr kind name.toList :=
  compile_of_read (source_eq_anchored kind hword)
    (read_single kind hword ((admits_captureNames_iff kind hword).mpr hbegins))
    (isTooLarge_singleExpr kind name.toList)

/-- **What the expression of a placeholder accepts.** If it has renderings, one for
each thing, it matches just these, and then there are groups, and each of them holds
the part of the thing that it is for. -/
theorem accepts_of_expr {kind : Placeholder} {name : String} {r : Regex}
    (hexpr : r.expr = singleExpr kind name.toList) {α : Type} {text : α → List Char}
    {held : α → Held} (part? : α → String → Option (List Char))
    (h : Renders (Expr.YieldsAll (kind.exprs name.toList 0)) text held)
    (hinj : Function.Injective text)
    (hpart : ∀ a, ∀ part ∈ kind.suffixes,
      (held a).lookup (String.ofList (partName name.toList part)) = part? a part) :
    (∀ segment : String, r.isMatch segment = true ↔ ∃ a, segment.toList = text a) ∧
      ∀ (segment : String) (a : α), segment.toList = text a →
        ∃ found, r.captures? segment = some found ∧ found.whole = segment ∧
          ∀ part ∈ kind.suffixes,
            r.held? found (name ++ part) = some ((part? a part).map String.ofList) := by
  obtain ⟨hmatch, hheld⟩ := (framed_single kind hexpr).accepts h hinj
  refine ⟨hmatch, fun segment a htext => ?_⟩
  obtain ⟨found, hfound, hwhole, hgroups⟩ := hheld segment a htext
  refine ⟨found, hfound, hwhole, fun part hmem => ?_⟩
  have hname : partName name.toList part ∈ (kind.phrase name.toList).names := by
    rw [names_phrase]
    exact List.mem_map_of_mem hmem
  obtain ⟨group, hgroup, hsome⟩ := List.mem_filterMap.mp hname
  have hkey : String.ofList (partName name.toList part) = name ++ part := by
    rw [partName, String.ofList_append, String.ofList_toList, String.ofList_toList]
  rw [← hpart a part hmem, ← hkey]
  exact hgroups _ (hsome ▸ hgroup)

/-- **What a placeholder accepts.** A template that is one placeholder, with a name that
begins well, compiles, and accepts what its expression does. -/
theorem accepts_single {kind : Placeholder} {name : String} (hword : IsWord name.toList)
    (hbegins : BeginsWell name.toList) {α : Type} {text : α → List Char} {held : α → Held}
    (part? : α → String → Option (List Char))
    (h : Renders (Expr.YieldsAll (kind.exprs name.toList 0)) text held)
    (hinj : Function.Injective text)
    (hpart : ∀ a, ∀ part ∈ kind.suffixes,
      (held a).lookup (String.ofList (partName name.toList part)) = part? a part) :
    ∃ r, compile (single kind name) = .ok r ∧
      (∀ segment : String, r.isMatch segment = true ↔ ∃ a, segment.toList = text a) ∧
      ∀ (segment : String) (a : α), segment.toList = text a →
        ∃ found, r.captures? segment = some found ∧ found.whole = segment ∧
          ∀ part ∈ kind.suffixes,
            r.held? found (name ++ part) = some ((part? a part).map String.ofList) := by
  obtain ⟨r, hr, hexpr⟩ := compile_single kind hword hbegins
  exact ⟨r, hr, accepts_of_expr hexpr part? h hinj hpart⟩

/-! ### Groups of parts -/

section Parts

variable (name : List Char)

/-- The group of a part holds a text. -/
def holds (part : String) (text : List Char) : String × List Char :=
  (String.ofList (partName name part), text)

variable {name} in
/-- The group of a part. -/
theorem renders_part {α : Type} {e : Expr} {text : α → List Char} {held : α → Held} {number : Nat}
    (part : String) (h : Renders e.Yields text held) :
    Renders (partExpr name part number e).Yields text
      (fun a => holds name part (text a) :: held a) := h.named

/-- The parts have different names, so a group is found by its part. -/
theorem lookup_holds (part part' : String) (text : List Char) (hs : Held) :
    List.lookup (String.ofList (partName name part)) (holds name part' text :: hs) =
      if part = part' then some text else hs.lookup (String.ofList (partName name part)) := by
  rw [holds, List.lookup_cons]
  by_cases h : part = part'
  · rw [h, beq_self_eq_true, if_pos rfl]
  · have hne : (String.ofList (partName name part) == String.ofList (partName name part')) =
        false := beq_eq_false_iff_ne.mpr fun heq => h (partName_inj (String.ofList_inj.mp heq))
    rw [hne, if_neg h]

end Parts

/-! ### Sorts of characters -/

/-- A hexadecimal digit. -/
def isHexDigit (c : Char) : Bool :=
  c.isDigit || ('a' ≤ c && c ≤ 'f') || ('A' ≤ c && c ≤ 'F')

theorem isNameChar_lt {c : Char} (h : Template.isNameChar c = true) : c.toNat < 128 := by
  rcases Bool.or_eq_true_iff.mp h with halnum | hline
  · rcases Bool.or_eq_true_iff.mp halnum with halpha | hdigit
    · rcases Bool.or_eq_true_iff.mp halpha with hupper | hlower
      · have := Char.isUpper_iff_toNat.mp hupper
        omega
      · have := Char.isLower_iff_toNat.mp hlower
        omega
    · exact Char.toNat_lt_of_isDigit hdigit
  · rw [beq_iff_eq.mp hline]
    decide

theorem isHexDigit_lt {c : Char} (h : isHexDigit c = true) : c.toNat < 128 := by
  unfold isHexDigit at h
  simp only [Bool.or_eq_true, Bool.and_eq_true, decide_eq_true_eq] at h
  rcases h with (hdigit | ⟨-, hle⟩) | ⟨-, hle⟩
  · exact Char.toNat_lt_of_isDigit hdigit
  · exact Nat.lt_of_le_of_lt (Char.toNat_le_toNat hle) (by decide)
  · exact Nat.lt_of_le_of_lt (Char.toNat_le_toNat hle) (by decide)

theorem contains_digits (c : Char) : (digits 0 9).contains c = c.isDigit :=
  contains_eq (by decide) (by decide) (fun _ => Char.toNat_lt_of_isDigit) c

theorem contains_word (c : Char) : CharSet.asciiWord.contains c = Template.isNameChar c :=
  contains_eq (by decide) (by decide) (fun _ => isNameChar_lt) c

theorem contains_hexDigit (c : Char) : hexDigit.contains c = isHexDigit c :=
  contains_eq (by decide) (by decide) (fun _ => isHexDigit_lt) c

/-- A set that has just the listed characters. -/
theorem contains_among {s : CharSet} {cs : List Char}
    (hsmall : ∀ n < 128, s.contains (Char.ofNat n) = decide (Char.ofNat n ∈ cs))
    (hs : ∀ r ∈ s.ranges, r.2 < 128) (hcs : ∀ c ∈ cs, c.toNat < 128) (c : Char) :
    s.contains c = decide (c ∈ cs) :=
  contains_eq hsmall hs (fun c hc => hcs c (of_decide_eq_true hc)) c

theorem contains_signs (c : Char) : signs.contains c = decide (c ∈ ['+', '-']) :=
  contains_among (by decide) (by decide) (by simp) c

theorem contains_slashes (c : Char) : slashes.contains c = decide (c ∈ ['/', '-']) :=
  contains_among (by decide) (by decide) (by simp) c

theorem contains_points (c : Char) : points.contains c = decide (c ∈ ['.', ',']) :=
  contains_among (by decide) (by decide) (by simp) c

theorem contains_commas (c : Char) : commas.contains c = decide (c ∈ [',', ';']) :=
  contains_among (by decide) (by decide) (by simp) c

/-! ### Digits and hyphens -/

theorem renders_digits {least : Nat} {most : Option Nat} (hle : ∀ m, most = some m → least ≤ m) :
    Renders (Expr.rep digitExpr least most true).Yields
      (Run.chars : Run Char.isDigit least most → List Char) noneHeld :=
  renders_run contains_digits hle

theorem renders_hyphen : Renders hyphenExpr.Yields (markText ['-']) noneHeld :=
  (renders_char '-').mark

/-! ### Two digits -/

/-- A number as it is written with two digits. -/
def twoDigits (n : Nat) : List Char := [Nat.digitChar (n / 10), Nat.digitChar (n % 10)]

/-- A number between two others. -/
abbrev Number (lo hi : Nat) : Type := { n : Nat // lo ≤ n ∧ n ≤ hi }

/-- Its rendering, with two digits. -/
def Number.text {lo hi : Nat} (n : Number lo hi) : List Char := twoDigits n.1

theorem contains_digits_iff {lo hi : Nat} (hhi : hi ≤ 9) {c : Char} :
    (digits lo hi).contains c = true ↔ ∃ k, lo ≤ k ∧ k ≤ hi ∧ c = Nat.digitChar k := by
  have hiff : (digits lo hi).contains c = true ↔ 0x30 + lo ≤ c.toNat ∧ c.toNat ≤ 0x30 + hi := by
    show (decide (0x30 + lo ≤ c.toNat) && decide (c.toNat ≤ 0x30 + hi) || false) = true ↔ _
    simp
  rw [hiff]
  constructor
  · rintro ⟨hlo, hle⟩
    refine ⟨c.toNat - 0x30, by omega, by omega, Char.toNat_inj.mp ?_⟩
    rw [Nat.toNat_digitChar_of_lt_ten (by omega)]
    omega
  · rintro ⟨k, hlo, hle, rfl⟩
    rw [Nat.toNat_digitChar_of_lt_ten (by omega)]
    omega

/-- Two digits are a number. -/
theorem yields_pair {lo hi lo' hi' : Nat} (hhi : hi ≤ 9) (hhi' : hi' ≤ 9) {w : List Char}
    {hs : Held} : (pairExpr lo hi lo' hi').Yields w hs ↔
      ∃ n, (lo ≤ n / 10 ∧ n / 10 ≤ hi ∧ lo' ≤ n % 10 ∧ n % 10 ≤ hi') ∧ w = twoDigits n ∧ hs = [] := by
  constructor
  · rintro ⟨_, _, _, _, rfl, rfl, ⟨c, hc, rfl, rfl⟩, d, hd, rfl, rfl⟩
    obtain ⟨k, hlo, hle, rfl⟩ := (contains_digits_iff hhi).mp hc
    obtain ⟨l, hlo', hle', rfl⟩ := (contains_digits_iff hhi').mp hd
    have hdiv : (10 * k + l) / 10 = k := by omega
    have hmod : (10 * k + l) % 10 = l := by omega
    exact ⟨10 * k + l, by omega, by rw [twoDigits, hdiv, hmod]; rfl, rfl⟩
  · rintro ⟨n, ⟨hlo, hle, hlo', hle'⟩, rfl, rfl⟩
    exact ⟨[_], [], [_], [], rfl, rfl,
      ⟨_, (contains_digits_iff hhi).mpr ⟨n / 10, hlo, hle, rfl⟩, rfl, rfl⟩,
      _, (contains_digits_iff hhi').mpr ⟨n % 10, hlo', hle', rfl⟩, rfl, rfl⟩

/-- Two digits that are the numbers between two others. -/
theorem renders_pair {lo hi lo' hi' least most : Nat} (hhi : hi ≤ 9) (hhi' : hi' ≤ 9)
    (h : ∀ n, (lo ≤ n / 10 ∧ n / 10 ≤ hi ∧ lo' ≤ n % 10 ∧ n % 10 ≤ hi') ↔ (least ≤ n ∧ n ≤ most)) :
    Renders (pairExpr lo hi lo' hi').Yields (Number.text : Number least most → List Char)
      noneHeld := by
  intro w hs
  rw [yields_pair hhi hhi']
  simp only [h]
  constructor
  · rintro ⟨n, hn, rfl, rfl⟩
    exact ⟨⟨n, hn⟩, rfl, rfl⟩
  · rintro ⟨⟨n, hn⟩, rfl, rfl⟩
    exact ⟨n, hn, rfl, rfl⟩

/-- Numbers in two branches, the second going on where the first ends. -/
theorem renders_number_alt {e f : Expr} {lo mid hi : Nat}
    (h : Renders e.Yields (Number.text : Number lo mid → List Char) noneHeld)
    (h' : Renders f.Yields (Number.text : Number (mid + 1) hi → List Char) noneHeld)
    (hle : lo ≤ mid + 1) (hle' : mid ≤ hi) :
    Renders (Expr.alt e f).Yields (Number.text : Number lo hi → List Char) noneHeld := by
  intro w hs
  constructor
  · rintro (hyields | hyields)
    · obtain ⟨⟨n, hn⟩, rfl, rfl⟩ := (h _ _).mp hyields
      exact ⟨⟨n, hn.1, Nat.le_trans hn.2 hle'⟩, rfl, rfl⟩
    · obtain ⟨⟨n, hn⟩, rfl, rfl⟩ := (h' _ _).mp hyields
      exact ⟨⟨n, Nat.le_trans hle hn.1, hn.2⟩, rfl, rfl⟩
  · rintro ⟨⟨n, hn⟩, rfl, rfl⟩
    by_cases hmid : n ≤ mid
    · exact Or.inl ((h _ _).mpr ⟨⟨n, hn.1, hmid⟩, rfl, rfl⟩)
    · exact Or.inr ((h' _ _).mpr ⟨⟨n, Nat.lt_of_not_le hmid, hn.2⟩, rfl, rfl⟩)

theorem readable_number {lo hi : Nat} (hhi : hi < 100) {P : List Char → Prop} :
    Readable (Number.text : Number lo hi → List Char) P := by
  rintro ⟨m, hm⟩ ⟨n, hn⟩ rest rest' _ _ heq
  obtain ⟨hfirst, heq⟩ := List.cons.inj heq
  obtain ⟨hsecond, heq⟩ := List.cons.inj heq
  have htens : m / 10 = n / 10 := Nat.digitChar_inj (by omega) (by omega) hfirst
  have hunits : m % 10 = n % 10 := Nat.digitChar_inj (by omega) (by omega) hsecond
  exact ⟨Subtype.ext (show m = n by omega), heq⟩

theorem head_number {lo hi : Nat} (hhi : hi < 100) (n : Number lo hi) :
    ∃ c cs, n.text = c :: cs ∧ c.isDigit = true :=
  ⟨_, _, rfl, by
    have := n.2
    rw [Nat.isDigit_digitChar, decide_eq_true_iff]
    omega⟩

/-- A number does not begin like what is no digit. -/
theorem stops_number {lo hi : Nat} {cs : List Char} (hhi : hi < 100) (hcs : ∀ d ∈ cs, d.isDigit = false)
    (n : Number lo hi) (rest : List Char) : Stops (fun c => decide (c ∈ cs)) (n.text ++ rest) := by
  obtain ⟨c, ds, htext, hc⟩ := head_number hhi n
  rw [htext, List.cons_append, stops_cons, decide_eq_false_iff_not]
  intro hmem
  rw [hcs c hmem] at hc
  cases hc

end Template
end Signpost
