/-
# Scanning does not look beyond the end

Where a text is read as part of an expression, more may follow it: a closing
parenthesis and then text without a colon and without a line feed (`Ends`).
Here it is shown of what scans blanks, numbers and counts, and in the other
modules of this folder of all that reads an expression, that what is found in
the text alone is also found with more behind it, and that what is left is
then left with more behind it (`Before`). The only thing that may happen to
what follows is that a comment, which the text does not end, takes it in; then
nothing is left in either case.

Key definitions: `Ends`, `Before`.
Key theorems: `Before.skipBlanks`, `Before.takeNumber`, `readCount_append`.
-/
import Signpost.Proofs.Regex.Reading

namespace Signpost
namespace Regex

/-- A text that may follow: a closing parenthesis, and then no colon and no
line feed. -/
def Ends (tail : List Char) : Prop := ∃ more, tail = ')' :: more ∧ ':' ∉ more ∧ '\n' ∉ more

/-- What is left of a text alone and with more behind it: more is left in the
second case, or nothing in both. -/
def Before (tail rest rest' : List Char) : Prop := rest' = rest ++ tail ∨ rest = [] ∧ rest' = []

variable {tail cs cs' rest : List Char} {flags : Flags}

theorem before_append (tail cs : List Char) : Before tail cs (cs ++ tail) := Or.inl rfl

theorem Before.eq_of_cons {c : Char} (h : Before tail (c :: cs) cs') : cs' = c :: (cs ++ tail) := by
  rcases h with h | ⟨h, -⟩
  · exact h
  · cases h

/-- Where nothing is left alone, what follows is a closing parenthesis, if
anything. -/
theorem Before.nil_cases (hend : Ends tail) (h : Before tail [] cs') :
    cs' = [] ∨ ∃ more, cs' = ')' :: more ∧ tail = cs' := by
  rcases h with h | ⟨-, h⟩
  · obtain ⟨more, hmore, -⟩ := hend
    rw [List.nil_append] at h
    exact Or.inr ⟨more, h.trans hmore, h.symm⟩
  · exact Or.inl h

theorem head?_append_ends (hend : Ends tail) {c : Char} (hc : c ≠ ')') (cs : List Char) :
    (cs ++ tail).head? = some c ↔ cs.head? = some c := by
  obtain ⟨more, rfl, -⟩ := hend
  cases cs with
  | nil =>
    have hne : ')' ≠ c := fun h => hc h.symm
    simp [hne]
  | cons d ds => rfl

theorem Before.head?_iff (hend : Ends tail) (h : Before tail cs cs') {c : Char} (hc : c ≠ ')') :
    cs'.head? = some c ↔ cs.head? = some c := by
  rcases h with rfl | ⟨rfl, rfl⟩
  · exact head?_append_ends hend hc cs
  · exact Iff.rfl

/-! ### Blanks -/

theorem dropBlanks_comment : ∀ {cs : List Char}, '\n' ∉ cs → dropBlanks true cs = []
  | [], _ => rfl
  | c :: cs, h => by
    have hc : (c != '\n') = true := by
      have hne : c ≠ '\n' := fun he => h (he ▸ List.mem_cons_self)
      simpa using hne
    unfold dropBlanks
    rw [if_pos rfl, hc]
    exact dropBlanks_comment fun hmem => h (List.mem_cons_of_mem _ hmem)

theorem isWhiteSpace_close : Unicode.isWhiteSpace ')' = false := by decide

theorem dropBlanks_ends (hend : Ends tail) (inComment : Bool) :
    dropBlanks inComment tail = tail ∨ dropBlanks inComment tail = [] := by
  obtain ⟨more, rfl, -, hline⟩ := hend
  cases inComment with
  | true =>
    refine Or.inr (dropBlanks_comment fun hmem => ?_)
    rcases List.mem_cons.mp hmem with heq | hmem
    · exact absurd heq (by decide)
    · exact hline hmem
  | false =>
    refine Or.inl ?_
    unfold dropBlanks
    rw [if_neg (by decide), isWhiteSpace_close, if_neg (by decide), if_neg (by decide)]

theorem dropBlanks_append (hend : Ends tail) : ∀ (inComment : Bool) (cs : List Char),
    Before tail (dropBlanks inComment cs) (dropBlanks inComment (cs ++ tail))
  | inComment, [] => by
    rcases dropBlanks_ends hend inComment with h | h
    · exact Or.inl h
    · exact Or.inr ⟨rfl, h⟩
  | inComment, c :: cs => by
    rw [List.cons_append]
    unfold dropBlanks
    split
    · exact dropBlanks_append hend _ cs
    · split
      · exact dropBlanks_append hend _ cs
      · split
        · exact dropBlanks_append hend _ cs
        · exact before_append _ _

/-- Blanks are skipped alike. -/
theorem Before.skipBlanks (hend : Ends tail) (h : Before tail cs cs') (flags : Flags) :
    Before tail (skipBlanks flags cs) (skipBlanks flags cs') := by
  unfold Regex.skipBlanks
  split
  · rcases h with rfl | ⟨rfl, rfl⟩
    · exact dropBlanks_append hend false cs
    · exact Or.inr ⟨rfl, rfl⟩
  · exact h

/-- What comes after the blanks comes also with more behind it. -/
theorem skipBlanks_append_of_cons (hend : Ends tail) {c : Char}
    (h : Regex.skipBlanks flags cs = c :: rest) :
    Regex.skipBlanks flags (cs ++ tail) = c :: (rest ++ tail) := by
  have hbefore := (before_append tail cs).skipBlanks hend flags
  rw [h] at hbefore
  exact hbefore.eq_of_cons

theorem dropWhile_isWhiteSpace_append (hend : Ends tail) (cs : List Char) :
    (cs ++ tail).dropWhile Unicode.isWhiteSpace = cs.dropWhile Unicode.isWhiteSpace ++ tail := by
  obtain ⟨more, rfl, -⟩ := hend
  rw [List.dropWhile_append]
  split
  · rename_i hnil
    rw [List.isEmpty_iff.mp hnil, List.nil_append,
      List.dropWhile_cons_of_neg (by rw [isWhiteSpace_close]; decide)]
  · rfl

theorem Before.dropWhile_isWhiteSpace (hend : Ends tail) (h : Before tail cs cs') :
    Before tail (cs.dropWhile Unicode.isWhiteSpace) (cs'.dropWhile Unicode.isWhiteSpace) := by
  rcases h with rfl | ⟨rfl, rfl⟩
  · exact Or.inl (dropWhile_isWhiteSpace_append hend cs)
  · exact Or.inr ⟨rfl, rfl⟩

/-! ### Braces and numbers -/

/-- What is in braces is the same, whatever follows. -/
theorem takeBraced_append (tail : List Char) {verbose : Bool} : ∀ {inComment : Bool}
    {cs ds rest : List Char}, takeBraced verbose inComment cs = some (ds, rest) →
      takeBraced verbose inComment (cs ++ tail) = some (ds, rest ++ tail)
  | _, [], _, _, h => by cases h
  | inComment, c :: cs, ds, rest, h => by
    rw [List.cons_append]
    unfold takeBraced at h ⊢
    by_cases hcomment : (verbose && inComment) = true
    · rw [if_pos hcomment] at h ⊢
      exact takeBraced_append tail h
    rw [if_neg hcomment] at h ⊢
    by_cases hblank : (verbose && Unicode.isWhiteSpace c) = true
    · rw [if_pos hblank] at h ⊢
      exact takeBraced_append tail h
    rw [if_neg hblank] at h ⊢
    by_cases hsign : (verbose && decide (c = '#')) = true
    · rw [if_pos hsign] at h ⊢
      exact takeBraced_append tail h
    rw [if_neg hsign] at h ⊢
    by_cases hclose : c = '\x7d'
    · rw [if_pos hclose] at h ⊢
      cases h
      rfl
    · rw [if_neg hclose] at h ⊢
      obtain ⟨r, hr, heq⟩ := Option.map_eq_some_iff.mp h
      cases heq
      rw [takeBraced_append tail hr]
      rfl

theorem takeDigits_nil (flags : Flags) : ∀ fuel, takeDigits flags fuel [] = ([], [])
  | 0 => rfl
  | _ + 1 => rfl

theorem takeDigits_close (flags : Flags) (more : List Char) :
    ∀ fuel, takeDigits flags fuel (')' :: more) = ([], ')' :: more)
  | 0 => rfl
  | _ + 1 => rfl

/-- The digits are the same, if there is fuel for all of them. -/
theorem Before.takeDigits (hend : Ends tail) (flags : Flags) : ∀ (fuel fuel' : Nat)
    {cs cs' : List Char}, Before tail cs cs' → cs.length ≤ fuel → cs'.length ≤ fuel' →
    (takeDigits flags fuel' cs').1 = (takeDigits flags fuel cs).1 ∧
      Before tail (takeDigits flags fuel cs).2 (takeDigits flags fuel' cs').2
  | fuel, fuel', [], cs', h, _, _ => by
    rw [takeDigits_nil]
    rcases h.nil_cases hend with rfl | ⟨more, rfl, -⟩
    · rw [takeDigits_nil]
      exact ⟨rfl, h⟩
    · rw [takeDigits_close]
      exact ⟨rfl, h⟩
  | 0, _, _ :: _, _, _, hlen, _ => by
    rw [List.length_cons] at hlen
    omega
  | fuel + 1, fuel', c :: cs, cs', h, hlen, hlen' => by
    obtain rfl := h.eq_of_cons
    rw [List.length_cons] at hlen hlen'
    obtain ⟨k, rfl⟩ := Nat.exists_eq_add_of_le' (show 1 ≤ fuel' by omega)
    unfold Regex.takeDigits
    split
    · have hle := length_skipBlanks_le flags cs
      have hle' := length_skipBlanks_le flags (cs ++ tail)
      obtain ⟨hdigits, hrest⟩ := Before.takeDigits hend flags fuel k
        ((before_append tail cs).skipBlanks hend flags) (by omega) (by omega)
      exact ⟨congrArg (c :: ·) hdigits, hrest⟩
    · exact ⟨rfl, h⟩

/-- The number is the same. -/
theorem Before.takeNumber (hend : Ends tail) (h : Before tail cs cs') (flags : Flags) :
    (takeNumber flags cs').1 = (takeNumber flags cs).1 ∧
      Before tail (takeNumber flags cs).2 (takeNumber flags cs').2 := by
  obtain ⟨hdigits, hrest⟩ := Before.takeDigits hend flags _ _
    (h.dropWhile_isWhiteSpace hend) (Nat.le_refl _) (Nat.le_refl _)
  unfold Regex.takeNumber
  dsimp only
  rw [hdigits]
  exact ⟨rfl, hrest.dropWhile_isWhiteSpace hend⟩

theorem Before.takeNumber_some (hend : Ends tail) (h : Before tail cs cs') {n : Nat} {c : Char}
    (hn : Regex.takeNumber flags cs = (some n, c :: rest)) :
    Regex.takeNumber flags cs' = (some n, c :: (rest ++ tail)) := by
  obtain ⟨hvalue, hrest⟩ := h.takeNumber hend flags
  rw [hn] at hvalue hrest
  exact Prod.ext hvalue hrest.eq_of_cons

/-! ### Counts -/

/-- The counts of a repetition from the comma on. -/
def upperCount (flags : Flags) (least : Nat) (cs : List Char) : Except Fault (Counts × List Char) :=
  match skipBlanks flags cs with
  | '\x7d' :: rest => .ok ((least, none), rest)
  | rest =>
    match takeNumber flags rest with
    | (some most, '\x7d' :: rest) =>
      if least ≤ most then .ok ((least, some most), rest) else .error .badCount
    | _ => .error .badCount

theorem readCount_one {least : Nat}
    (h : takeNumber flags (skipBlanks flags cs) = (some least, '\x7d' :: rest)) :
    readCount flags cs = .ok ((least, some least), rest) := by
  unfold readCount
  generalize takeNumber flags (skipBlanks flags cs) = taken at h
  subst h
  rfl

theorem readCount_comma {least : Nat}
    (h : takeNumber flags (skipBlanks flags cs) = (some least, ',' :: rest)) :
    readCount flags cs = upperCount flags least rest := by
  unfold readCount
  generalize takeNumber flags (skipBlanks flags cs) = taken at h
  subst h
  rfl

theorem upperCount_none {least : Nat} (h : skipBlanks flags cs = '\x7d' :: rest) :
    upperCount flags least cs = .ok ((least, none), rest) := by
  unfold upperCount
  generalize skipBlanks flags cs = skipped at h
  subst h
  rfl

theorem upperCount_some {least most : Nat} (hskip : (skipBlanks flags cs).head? ≠ some '\x7d')
    (h : takeNumber flags (skipBlanks flags cs) = (some most, '\x7d' :: rest)) :
    upperCount flags least cs =
      if least ≤ most then .ok ((least, some most), rest) else .error .badCount := by
  unfold upperCount
  split
  · rename_i heq
    rw [heq] at hskip
    exact absurd rfl hskip
  · generalize takeNumber flags (skipBlanks flags cs) = taken at h
    subst h
    rfl

/-- The counts from the comma on are the same. -/
theorem upperCount_append (hend : Ends tail) {least : Nat} {counts : Counts}
    (h : upperCount flags least cs = .ok (counts, rest)) :
    upperCount flags least (cs ++ tail) = .ok (counts, rest ++ tail) := by
  have hupper := (before_append tail cs).skipBlanks hend flags
  by_cases hclose : (skipBlanks flags cs).head? = some '\x7d'
  · obtain ⟨r, hr⟩ := List.head?_eq_some_iff.mp hclose
    rw [upperCount_none hr] at h
    cases h
    exact upperCount_none (skipBlanks_append_of_cons hend hr)
  · have hclose' : (skipBlanks flags (cs ++ tail)).head? ≠ some '\x7d' := fun hhead =>
      hclose ((hupper.head?_iff hend (by decide)).mp hhead)
    unfold upperCount at h
    split at h
    · rename_i heq
      rw [heq] at hclose
      exact absurd rfl hclose
    · split at h
      · rename_i most r hmost
        rw [upperCount_some hclose' (hupper.takeNumber_some hend hmost)]
        by_cases hle : least ≤ most
        · rw [if_pos hle] at h ⊢
          cases h
          rfl
        · rw [if_neg hle] at h
          cases h
      · cases h

/-- The counts of a repetition are the same. -/
theorem readCount_append (hend : Ends tail) {counts : Counts}
    (h : readCount flags cs = .ok (counts, rest)) :
    readCount flags (cs ++ tail) = .ok (counts, rest ++ tail) := by
  have hblanks := (before_append tail cs).skipBlanks hend flags
  unfold readCount at h
  split at h
  · rename_i hleast
    cases h
    exact readCount_one (hblanks.takeNumber_some hend hleast)
  · rename_i least upper hleast
    rw [readCount_comma (hblanks.takeNumber_some hend hleast)]
    exact upperCount_append hend h
  · cases h

end Regex
end Signpost
