/-
# Escape sequences are read alike with more behind them

An escape sequence that is read to its end is read in the same way if more
follows it. What is read of it is not at the end of the text, or it does not
matter what follows, as for the word boundary.

Key theorems: `readCodePoint_append`, `readProperty_append`,
`readBoundary_append`, `readEscape_append`.
-/
import Signpost.Proofs.Regex.Locality.Scan

namespace Signpost
namespace Regex

variable {tail cs rest : List Char} {flags : Flags} {atom : Atom}

theorem takeHex_append (hend : Ends tail) : ∀ {count n m : Nat} {cs rest : List Char},
    takeHex flags count n cs = some (m, rest) →
      takeHex flags count n (cs ++ tail) = some (m, rest ++ tail)
  | 0, n, m, cs, rest, h => by
    cases h
    rfl
  | count + 1, n, m, cs, rest, h => by
    unfold takeHex at h ⊢
    cases hskip : skipBlanks flags cs with
    | nil =>
      rw [hskip] at h
      cases h
    | cons c r =>
      rw [hskip] at h
      rw [skipBlanks_append_of_cons hend hskip]
      obtain ⟨d, hd, h⟩ := Option.bind_eq_some_iff.mp h
      show (hexDigit? c).bind _ = _
      rw [hd]
      exact takeHex_append hend h

theorem map_scalar?_ok {n : Nat} {r : List Char}
    (h : (scalar? n).map (fun c => (Atom.character c, r)) = .ok (atom, rest)) (tail : List Char) :
    (scalar? n).map (fun c => (Atom.character c, r ++ tail)) = .ok (atom, rest ++ tail) := by
  obtain ⟨c, hc, heq⟩ := Except.map_eq_ok_iff.mp h
  rw [hc]
  cases heq
  rfl

theorem readCodePoint_braced {digits : Nat} {r : List Char}
    (h : skipBlanks flags cs = '\x7b' :: r) :
    readCodePoint flags digits cs =
      match takeBraced flags.verbose false r with
      | none => .error .badEscape
      | some (ds, rest) =>
        match hexValue? ds with
        | none => .error .badEscape
        | some n => (scalar? n).map fun c => (.character c, rest) := by
  unfold readCodePoint
  generalize skipBlanks flags cs = skipped at h
  subst h
  rfl

theorem readCodePoint_digits {digits : Nat} {c : Char} {r : List Char}
    (h : skipBlanks flags cs = c :: r) (hc : c ≠ '\x7b') :
    readCodePoint flags digits cs =
      match takeHex flags digits 0 (c :: r) with
      | none => .error .badEscape
      | some (n, rest) =>
        if !flags.unicode && digits = 2 && 127 < n then .error .needsUnicode
        else (scalar? n).map fun c => (.character c, rest) := by
  unfold readCodePoint
  rw [h]
  split
  · rename_i heq
    exact absurd (List.cons.inj heq).1 hc
  · rfl

theorem readCodePoint_nil {digits : Nat} (hdigits : digits ≠ 0) (h : skipBlanks flags cs = []) :
    readCodePoint flags digits cs = .error .badEscape := by
  obtain ⟨k, rfl⟩ := Nat.exists_eq_succ_of_ne_zero hdigits
  have hskip : skipBlanks flags [] = [] := by
    unfold skipBlanks
    split <;> rfl
  have hnone : takeHex flags (k + 1) 0 [] = none := by
    unfold takeHex
    rw [hskip]
  unfold readCodePoint
  rw [h]
  dsimp only
  rw [hnone]

/-- A code point is read alike. -/
theorem readCodePoint_append (hend : Ends tail) {digits : Nat} (hdigits : digits ≠ 0)
    (h : readCodePoint flags digits cs = .ok (atom, rest)) :
    readCodePoint flags digits (cs ++ tail) = .ok (atom, rest ++ tail) := by
  cases hskip : skipBlanks flags cs with
  | nil =>
    rw [readCodePoint_nil hdigits hskip] at h
    cases h
  | cons c r =>
    have hskip' := skipBlanks_append_of_cons hend hskip
    by_cases hc : c = '\x7b'
    · subst hc
      rw [readCodePoint_braced hskip] at h
      rw [readCodePoint_braced hskip']
      cases hb : takeBraced flags.verbose false r with
      | none =>
        rw [hb] at h
        cases h
      | some braced =>
        rw [hb] at h
        rw [takeBraced_append tail hb]
        dsimp only at h ⊢
        cases hv : hexValue? braced.1 with
        | none =>
          rw [hv] at h
          cases h
        | some n =>
          rw [hv] at h
          exact map_scalar?_ok h tail
    · rw [readCodePoint_digits hskip hc] at h
      rw [readCodePoint_digits hskip' hc]
      cases hx : takeHex flags digits 0 (c :: r) with
      | none =>
        rw [hx] at h
        cases h
      | some taken =>
        have hx' : takeHex flags digits 0 (c :: (r ++ tail)) = some (taken.1, taken.2 ++ tail) :=
          takeHex_append hend hx
        rw [hx] at h
        rw [hx']
        dsimp only at h ⊢
        by_cases hbyte : (!flags.unicode && decide (digits = 2) && decide (127 < taken.1)) = true
        · rw [if_pos hbyte] at h
          cases h
        · rw [if_neg hbyte] at h ⊢
          exact map_scalar?_ok h tail

theorem map_pair_append {α : Type} {x : Except Fault α} {a : α}
    (h : x.map (·, cs) = .ok (a, rest)) (tail : List Char) :
    x.map (·, cs ++ tail) = .ok (a, rest ++ tail) := by
  obtain ⟨a', rfl, heq⟩ := Except.map_eq_ok_iff.mp h
  cases heq
  rfl

/-- The text that names a property. -/
def takeProperty (flags : Flags) (cs : List Char) : Except Fault (List Char × List Char) :=
  match skipBlanks flags cs with
  | [] => .error .badEscape
  | '\x7b' :: rest => (takeBraced flags.verbose false rest).elim (.error .badEscape) .ok
  | c :: rest => if c = '\\' then .error .badEscape else .ok ([c], rest)

/-- The set of a property, from the text that names it. -/
def propertyAtom (flags : Flags) (negated : Bool) (text : List Char) : Except Fault Atom :=
  if !flags.unicode then .error .needsUnicode
  else
    match propertySet text with
    | (none, _) => .error .unknownProperty
    | (some s, opposite) => (flags.closeSet (negated != opposite) s).map .set

theorem takeProperty_braced {r : List Char} (h : skipBlanks flags cs = '\x7b' :: r) :
    takeProperty flags cs = (takeBraced flags.verbose false r).elim (.error .badEscape) .ok := by
  unfold takeProperty
  generalize skipBlanks flags cs = skipped at h
  subst h
  rfl

theorem takeProperty_letter {c : Char} {r : List Char} (h : skipBlanks flags cs = c :: r)
    (hc : c ≠ '\x7b') :
    takeProperty flags cs = if c = '\\' then .error .badEscape else .ok ([c], r) := by
  unfold takeProperty
  generalize skipBlanks flags cs = skipped at h
  subst h
  split
  · rename_i heq
    cases heq
  · rename_i heq
    exact absurd (List.cons.inj heq).1 hc
  · rename_i heq
    cases heq
    rfl

/-- What is made of the text that names a property. -/
theorem map_propertyAtom (flags : Flags) (negated : Bool) (text rest : List Char) :
    (propertyAtom flags negated text).map (·, rest) =
      if !flags.unicode then .error .needsUnicode
      else
        match propertySet text with
        | (none, _) => .error .unknownProperty
        | (some s, opposite) =>
          (flags.closeSet (negated != opposite) s).bind fun s => .ok (.set s, rest) := by
  unfold propertyAtom
  by_cases hu : (!flags.unicode) = true
  · rw [if_pos hu, if_pos hu]
    rfl
  · rw [if_neg hu, if_neg hu]
    generalize propertySet text = found
    obtain ⟨s | s, opposite⟩ := found
    · rfl
    · dsimp only
      cases flags.closeSet (negated != opposite) s <;> rfl

theorem readProperty_eq (flags : Flags) (negated : Bool) (cs : List Char) :
    readProperty flags negated cs =
      (takeProperty flags cs).bind fun r => (propertyAtom flags negated r.1).map (·, r.2) := by
  cases hskip : skipBlanks flags cs with
  | nil =>
    unfold readProperty takeProperty
    rw [hskip]
    rfl
  | cons c r =>
    by_cases hc : c = '\x7b'
    · subst hc
      rw [takeProperty_braced hskip]
      unfold readProperty
      rw [hskip]
      show ((takeBraced flags.verbose false r).elim (Except.error Fault.badEscape) Except.ok >>=
        _) = Except.bind ((takeBraced flags.verbose false r).elim _ _) _
      cases takeBraced flags.verbose false r with
      | none => rfl
      | some braced => exact (map_propertyAtom flags negated braced.1 braced.2).symm
    · rw [takeProperty_letter hskip hc]
      unfold readProperty
      dsimp only
      rw [hskip]
      split
      · rename_i heq
        cases heq
      · rename_i heq
        exact absurd (List.cons.inj heq).1 hc
      · rename_i heq
        cases heq
        by_cases hslash : c = '\\'
        · rw [if_pos hslash, if_pos hslash]
          rfl
        · rw [if_neg hslash, if_neg hslash]
          exact (map_propertyAtom flags negated [c] r).symm

theorem takeProperty_append (hend : Ends tail) {text : List Char}
    (h : takeProperty flags cs = .ok (text, rest)) :
    takeProperty flags (cs ++ tail) = .ok (text, rest ++ tail) := by
  cases hskip : skipBlanks flags cs with
  | nil =>
    unfold takeProperty at h
    rw [hskip] at h
    cases h
  | cons c r =>
    have hskip' := skipBlanks_append_of_cons hend hskip
    by_cases hc : c = '\x7b'
    · subst hc
      rw [takeProperty_braced hskip] at h
      rw [takeProperty_braced hskip']
      cases hb : takeBraced flags.verbose false r with
      | none =>
        rw [hb] at h
        cases h
      | some braced =>
        rw [hb] at h
        rw [takeBraced_append tail hb]
        cases h
        rfl
    · rw [takeProperty_letter hskip hc] at h
      rw [takeProperty_letter hskip' hc]
      by_cases hslash : c = '\\'
      · rw [if_pos hslash] at h
        cases h
      · rw [if_neg hslash] at h ⊢
        cases h
        rfl

/-- A property is read alike. -/
theorem readProperty_append (hend : Ends tail) {negated : Bool}
    (h : readProperty flags negated cs = .ok (atom, rest)) :
    readProperty flags negated (cs ++ tail) = .ok (atom, rest ++ tail) := by
  rw [readProperty_eq] at h ⊢
  obtain ⟨⟨text, left⟩, htake, h⟩ := Except.bind_eq_ok_iff.mp h
  rw [takeProperty_append hend htake]
  exact map_pair_append h tail

theorem readBoundary_bare {c : Char} (hc : c ≠ '\x7b') (r : List Char) :
    readBoundary flags (c :: r) = .ok (.assertion (.boundary flags.unicode), c :: r) := by
  unfold readBoundary
  dsimp only
  split
  · rename_i heq
    exact absurd (List.cons.inj heq).1 hc
  · rfl

/-- The assertion that a word in braces makes of a boundary. -/
def boundaryAtom (flags : Flags) (name : String) : Except Fault Atom :=
  match name with
  | "start" => .ok (.assertion (.wordStart flags.unicode))
  | "end" => .ok (.assertion (.wordEnd flags.unicode))
  | "start-half" => .ok (.assertion (.wordStartHalf flags.unicode))
  | "end-half" => .ok (.assertion (.wordEndHalf flags.unicode))
  | _ => .error .badEscape

theorem readBoundary_brace (r : List Char) :
    readBoundary flags ('\x7b' :: r) =
      match skipBlanks flags r with
      | [] => .error .badEscape
      | c :: _ =>
        if (c.isAlpha || c = '-') then
          match takeBraced flags.verbose false r with
          | none => .error .badEscape
          | some (name, rest) =>
            match String.ofList name with
            | "start" => .ok (.assertion (.wordStart flags.unicode), rest)
            | "end" => .ok (.assertion (.wordEnd flags.unicode), rest)
            | "start-half" => .ok (.assertion (.wordStartHalf flags.unicode), rest)
            | "end-half" => .ok (.assertion (.wordEndHalf flags.unicode), rest)
            | _ => .error .badEscape
        else .ok (.assertion (.boundary flags.unicode), '\x7b' :: r) := rfl

theorem readBoundary_braced {c : Char} {r r' : List Char} (h : skipBlanks flags r = c :: r') :
    readBoundary flags ('\x7b' :: r) =
      if (c.isAlpha || c = '-') then
        (takeBraced flags.verbose false r).elim (.error .badEscape) fun braced =>
          (boundaryAtom flags (String.ofList braced.1)).map (·, braced.2)
      else .ok (.assertion (.boundary flags.unicode), '\x7b' :: r) := by
  rw [readBoundary_brace, h]
  dsimp only
  congr 1
  cases takeBraced flags.verbose false r with
  | none => rfl
  | some braced =>
    obtain ⟨name, rest⟩ := braced
    show _ = (boundaryAtom flags (String.ofList name)).map (·, rest)
    dsimp only
    unfold boundaryAtom
    split <;> rfl

/-- A word boundary is read alike. -/
theorem readBoundary_append (hend : Ends tail) (h : readBoundary flags cs = .ok (atom, rest)) :
    readBoundary flags (cs ++ tail) = .ok (atom, rest ++ tail) := by
  cases cs with
  | nil =>
    obtain ⟨more, rfl, -⟩ := hend
    cases h
    exact readBoundary_bare (by decide) more
  | cons c r =>
    by_cases hc : c = '\x7b'
    · subst hc
      cases hskip : skipBlanks flags r with
      | nil =>
        rw [readBoundary_brace, hskip] at h
        cases h
      | cons d r' =>
        have hskip' := skipBlanks_append_of_cons hend hskip
        rw [readBoundary_braced hskip] at h
        rw [List.cons_append, readBoundary_braced hskip']
        by_cases hname : (d.isAlpha || d = '-') = true
        · rw [if_pos hname] at h ⊢
          cases hb : takeBraced flags.verbose false r with
          | none =>
            rw [hb] at h
            cases h
          | some braced =>
            rw [hb] at h
            rw [takeBraced_append tail hb]
            exact map_pair_append h tail
        · rw [if_neg hname] at h ⊢
          cases h
          rfl
    · rw [readBoundary_bare hc] at h
      rw [List.cons_append, readBoundary_bare hc]
      cases h
      rfl

/-- **An escape sequence is read alike.** -/
theorem readEscape_append (hend : Ends tail) (h : readEscape flags cs = .ok (atom, rest)) :
    readEscape flags (cs ++ tail) = .ok (atom, rest ++ tail) := by
  cases cs with
  | nil => cases h
  | cons c cs =>
    rw [List.cons_append]
    unfold readEscape at h ⊢
    dsimp only at h ⊢
    by_cases hc : isEscapable c = true
    · rw [if_pos hc] at h ⊢
      cases h
      rfl
    · rw [if_neg hc] at h ⊢
      split at h
      all_goals first
        | exact readCodePoint_append hend (by decide) h
        | exact readProperty_append hend h
        | exact readBoundary_append hend h
        | exact map_pair_append h tail
        | (cases h <;> rfl)

end Regex
end Signpost
