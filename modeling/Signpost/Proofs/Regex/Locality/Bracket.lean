/-
# Classes are read alike with more behind them

A class in brackets ends within the text, so all of it is read in the same way
if more follows. Its reader looks ahead twice: for the end of a named class,
which what follows cannot supply, as it has no colon; and for what comes after
a hyphen.

Key theorems: `readNamedClass_append`, `readClassStart_append`,
`readRange_append`, `Before.readMembers`, `readClass_append`.
-/
import Mathlib.Data.List.TakeWhile
import Signpost.Proofs.Regex.Locality.Escape

namespace Signpost
namespace Regex

variable {tail cs cs' rest : List Char} {flags : Flags}

/-! ### Named classes -/

theorem dropWhile_colon_append (hend : Ends tail) (cs : List Char) :
    (cs ++ tail).dropWhile (· != ':') =
      if (cs.dropWhile (· != ':')).isEmpty then [] else cs.dropWhile (· != ':') ++ tail := by
  obtain ⟨more, rfl, hcolon, -⟩ := hend
  rw [List.dropWhile_append]
  congr 1
  rw [List.dropWhile_eq_nil_iff]
  intro c hc
  have hne : c ≠ ':' := by
    rcases List.mem_cons.mp hc with rfl | hc
    · decide
    · intro he
      exact hcolon (he ▸ hc)
  simpa using hne

/-- What is left after the sign that negates a class. -/
def afterCaret (cs : List Char) : List Char := if cs.head? = some '^' then cs.tail else cs

theorem afterCaret_append (hend : Ends tail) (cs : List Char) :
    afterCaret (cs ++ tail) = afterCaret cs ++ tail := by
  have hiff := head?_append_ends hend (c := '^') (by decide) cs
  unfold afterCaret
  by_cases hcaret : cs.head? = some '^'
  · rw [if_pos (hiff.mpr hcaret), if_pos hcaret]
    cases cs with
    | nil => cases hcaret
    | cons c cs => rfl
  · rw [if_neg fun h => hcaret (hiff.mp h), if_neg hcaret]

/-- What is left after the end of a named class. -/
def afterNamedClass : List Char → Option (List Char)
  | ':' :: ']' :: rest => some rest
  | _ => none

theorem afterNamedClass_cons (c d : Char) (cs : List Char) :
    afterNamedClass (c :: d :: cs) = if c = ':' ∧ d = ']' then some cs else none := by
  unfold afterNamedClass
  split
  · rename_i heq
    cases heq
    rw [if_pos ⟨rfl, rfl⟩]
  · rename_i hnot
    rw [if_neg]
    rintro ⟨rfl, rfl⟩
    exact hnot cs rfl

theorem afterNamedClass_append (hend : Ends tail) {cs : List Char} (hcs : cs ≠ []) :
    afterNamedClass (cs ++ tail) = (afterNamedClass cs).map (· ++ tail) := by
  match cs, hcs with
  | [c], _ =>
    obtain ⟨more, rfl, -⟩ := hend
    have hone : afterNamedClass [c] = none := by
      unfold afterNamedClass
      split
      · rename_i heq
        cases heq
      · rfl
    rw [hone, List.singleton_append, afterNamedClass_cons,
      if_neg fun h => absurd h.2 (by decide)]
    rfl
  | c :: d :: cs, _ =>
    rw [List.cons_append, List.cons_append, afterNamedClass_cons, afterNamedClass_cons]
    by_cases h : c = ':' ∧ d = ']'
    · rw [if_pos h, if_pos h]
      rfl
    · rw [if_neg h, if_neg h]
      rfl

theorem readNamedClass_colon (flags : Flags) (rest : List Char) :
    readNamedClass flags (':' :: rest) =
      (afterNamedClass ((afterCaret rest).dropWhile (· != ':'))).bind fun left =>
        (CharSet.asciiClass? (String.ofList ((afterCaret rest).takeWhile (· != ':')))).map fun s =>
          (flags.closeSet (rest.head? = some '^') s, left) := by
  unfold readNamedClass
  split
  · rename_i heq
    cases heq
    unfold afterCaret
    dsimp only
    generalize List.dropWhile _ _ = left
    split
    · rfl
    · rename_i hleft
      have hnone : afterNamedClass left = none := by
        unfold afterNamedClass
        split
        · exact absurd rfl (hleft _)
        · rfl
      rw [hnone]
      rfl
  · rename_i hnot
    exact absurd rfl (hnot rest)

theorem readNamedClass_of_ne (flags : Flags) {c : Char} (hc : c ≠ ':') (cs : List Char) :
    readNamedClass flags (c :: cs) = none := by
  unfold readNamedClass
  split
  · rename_i heq
    exact absurd (List.cons.inj heq).1 hc
  · rfl

/-- A named class is found where it is found alone, and nowhere else. -/
theorem readNamedClass_append (hend : Ends tail) (flags : Flags) (cs : List Char) :
    readNamedClass flags (cs ++ tail) =
      (readNamedClass flags cs).map fun r => (r.1, r.2 ++ tail) := by
  cases cs with
  | nil =>
    obtain ⟨more, rfl, -⟩ := hend
    exact readNamedClass_of_ne flags (by decide) more
  | cons c rest =>
    rw [List.cons_append]
    by_cases hc : c = ':'
    · subst hc
      have hcaret : ((rest ++ tail).head? = some '^') = (rest.head? = some '^') :=
        propext (head?_append_ends hend (by decide) rest)
      rw [readNamedClass_colon, readNamedClass_colon, afterCaret_append hend,
        dropWhile_colon_append hend]
      simp only [hcaret]
      cases hdrop : (afterCaret rest).dropWhile (· != ':') with
      | nil => rfl
      | cons d left =>
        -- the name ends before what follows
        have hname : (afterCaret rest ++ tail).takeWhile (· != ':') =
            (afterCaret rest).takeWhile (· != ':') := by
          have hlen := congrArg List.length
            (List.takeWhile_append_dropWhile (p := (· != ':')) (l := afterCaret rest))
          rw [List.length_append, hdrop, List.length_cons] at hlen
          rw [List.takeWhile_append, if_neg (by omega)]
        rw [hname, List.isEmpty_cons, if_neg (by decide),
          afterNamedClass_append hend (List.cons_ne_nil d left)]
        cases afterNamedClass (d :: left) with
        | none => rfl
        | some left =>
          show ((CharSet.asciiClass? _).map _) = ((CharSet.asciiClass? _).map _).map _
          rw [Option.map_map]
          rfl
    · rw [readNamedClass_of_ne flags hc, readNamedClass_of_ne flags hc]
      rfl

/-! ### The beginning of a class -/

theorem takeHyphens_nil (flags : Flags) (m : Members) : ∀ fuel, takeHyphens flags fuel m [] = (m, [])
  | 0 => rfl
  | _ + 1 => rfl

theorem takeHyphens_of_ne (flags : Flags) (m : Members) {c : Char} (hc : c ≠ '-') (cs : List Char) :
    ∀ fuel, takeHyphens flags fuel m (c :: cs) = (m, c :: cs)
  | 0 => rfl
  | fuel + 1 => by
    unfold takeHyphens
    split
    · rename_i heq
      exact absurd (List.cons.inj heq).1 hc
    · rfl

/-- The hyphens are the same, if there is fuel for all of them. -/
theorem Before.takeHyphens (hend : Ends tail) (flags : Flags) : ∀ (fuel fuel' : Nat) {m : Members}
    {cs cs' : List Char}, Before tail cs cs' → cs.length ≤ fuel → cs'.length ≤ fuel' →
    (takeHyphens flags fuel' m cs').1 = (takeHyphens flags fuel m cs).1 ∧
      Before tail (takeHyphens flags fuel m cs).2 (takeHyphens flags fuel' m cs').2
  | fuel, fuel', m, [], cs', h, _, _ => by
    rw [takeHyphens_nil]
    rcases h.nil_cases hend with rfl | ⟨more, rfl, -⟩
    · rw [takeHyphens_nil]
      exact ⟨rfl, h⟩
    · rw [takeHyphens_of_ne flags m (by decide)]
      exact ⟨rfl, h⟩
  | 0, _, _, _ :: _, _, _, hlen, _ => by
    rw [List.length_cons] at hlen
    omega
  | fuel + 1, fuel', m, c :: cs, cs', h, hlen, hlen' => by
    obtain rfl := h.eq_of_cons
    rw [List.length_cons] at hlen hlen'
    obtain ⟨k, rfl⟩ := Nat.exists_eq_add_of_le' (show 1 ≤ fuel' by omega)
    by_cases hc : c = '-'
    · subst hc
      have hle := length_skipBlanks_le flags cs
      have hle' := length_skipBlanks_le flags (cs ++ tail)
      exact Before.takeHyphens hend flags fuel k
        ((before_append tail cs).skipBlanks hend flags) (by omega) (by omega)
    · rw [takeHyphens_of_ne flags m hc, takeHyphens_of_ne flags m hc]
      exact ⟨rfl, h⟩

/-- What is left after the sign that negates a class and the blanks after it. -/
def afterSign (flags : Flags) (cs : List Char) : List Char :=
  if cs.head? = some '^' then skipBlanks flags cs.tail else cs

theorem Before.afterSign (hend : Ends tail) (h : Before tail cs cs') (flags : Flags) :
    Before tail (afterSign flags cs) (afterSign flags cs') := by
  have hiff := h.head?_iff hend (c := '^') (by decide)
  unfold Regex.afterSign
  by_cases hsign : cs.head? = some '^'
  · rw [if_pos (hiff.mpr hsign), if_pos hsign]
    cases cs with
    | nil => cases hsign
    | cons c cs =>
      obtain rfl := h.eq_of_cons
      exact (before_append tail cs).skipBlanks hend flags
  · rw [if_neg fun h => hsign (hiff.mp h), if_neg hsign]
    exact h

/-- What a class begins with, from the hyphens that open it. -/
def classStart (flags : Flags) (negated : Bool) (m : Members) (cs : List Char) :
    Bool × Members × List Char :=
  match m.count, cs with
  | 0, ']' :: rest => (negated, m.add (CharSet.single ']') 0, skipBlanks flags rest)
  | _, _ => (negated, m, cs)

theorem classStart_bracket {m : Members} (hm : m.count = 0) (negated : Bool) (cs : List Char) :
    classStart flags negated m (']' :: cs) =
      (negated, m.add (CharSet.single ']') 0, skipBlanks flags cs) := by
  unfold classStart
  rw [hm]
  rfl

theorem classStart_other {m : Members} (h : ¬ (m.count = 0 ∧ cs.head? = some ']'))
    (negated : Bool) : classStart flags negated m cs = (negated, m, cs) := by
  unfold classStart
  split
  · rename_i hm
    exact absurd ⟨hm, rfl⟩ h
  · rfl

theorem Before.classStart (hend : Ends tail) (h : Before tail cs cs') (negated : Bool)
    (m : Members) :
    (classStart flags negated m cs').1 = (classStart flags negated m cs).1 ∧
      (classStart flags negated m cs').2.1 = (classStart flags negated m cs).2.1 ∧
      Before tail (classStart flags negated m cs).2.2 (classStart flags negated m cs').2.2 := by
  have hiff := h.head?_iff hend (c := ']') (by decide)
  by_cases hm : m.count = 0 ∧ cs.head? = some ']'
  · cases cs with
    | nil => cases hm.2
    | cons c cs =>
      obtain rfl : c = ']' := Option.some.inj hm.2
      obtain rfl := h.eq_of_cons
      rw [classStart_bracket hm.1, classStart_bracket hm.1]
      exact ⟨rfl, rfl, (before_append tail cs).skipBlanks hend flags⟩
  · have hm' : ¬ (m.count = 0 ∧ cs'.head? = some ']') := fun hm' => hm ⟨hm'.1, hiff.mp hm'.2⟩
    rw [classStart_other hm, classStart_other hm']
    exact ⟨rfl, rfl, h⟩

/-- The beginning of a class is the same. -/
theorem readClassStart_append (hend : Ends tail) (flags : Flags) (cs : List Char) :
    (readClassStart flags (cs ++ tail)).1 = (readClassStart flags cs).1 ∧
      (readClassStart flags (cs ++ tail)).2.1 = (readClassStart flags cs).2.1 ∧
      Before tail (readClassStart flags cs).2.2 (readClassStart flags (cs ++ tail)).2.2 := by
  have heq : ∀ cs, readClassStart flags cs =
      classStart flags (decide ((skipBlanks flags cs).head? = some '^'))
        (takeHyphens flags (afterSign flags (skipBlanks flags cs)).length {}
          (afterSign flags (skipBlanks flags cs))).1
        (takeHyphens flags (afterSign flags (skipBlanks flags cs)).length {}
          (afterSign flags (skipBlanks flags cs))).2 := fun _ => rfl
  have hskip := (before_append tail cs).skipBlanks hend flags
  have hiff := hskip.head?_iff hend (c := '^') (by decide)
  obtain ⟨hm, hrest⟩ := Before.takeHyphens (m := {}) hend flags _ _
    (hskip.afterSign hend flags) (Nat.le_refl _) (Nat.le_refl _)
  rw [heq, heq, hm, decide_eq_decide.mpr hiff]
  exact hrest.classStart hend _ _

/-! ### Members -/

/-- A member is read alike. -/
theorem readMember_append (hend : Ends tail) {atom : Atom}
    (h : readMember flags cs = .ok (atom, rest)) :
    readMember flags (cs ++ tail) = .ok (atom, rest ++ tail) := by
  cases cs with
  | nil => cases h
  | cons c cs =>
    by_cases hc : c = '\\'
    · subst hc
      exact readEscape_append hend h
    · have hother : ∀ cs, readMember flags (c :: cs) = .ok (.character c, cs) := by
        intro cs
        unfold readMember
        split
        · rename_i heq
          cases heq
        · rename_i heq
          exact absurd (List.cons.inj heq).1 hc
        · rename_i heq
          cases heq
          rfl
      rw [hother] at h
      rw [List.cons_append, hother]
      cases h
      rfl

theorem head?_append_ends_or (hend : Ends tail) (cs : List Char) :
    (cs ++ tail).head? = cs.head?.or (some ')') := by
  obtain ⟨more, rfl, -⟩ := hend
  rw [List.head?_append]
  rfl

theorem characterAhead_sign {flags : Flags} (hverbose : flags.verbose = true) {r : List Char}
    (h : cs.dropWhile Unicode.isWhiteSpace = '#' :: r) :
    characterAhead flags cs = (r.dropWhile Unicode.isWhiteSpace).head? := by
  unfold characterAhead
  rw [if_pos hverbose, h]
  rfl

theorem characterAhead_other {flags : Flags} (hverbose : flags.verbose = true)
    (h : (cs.dropWhile Unicode.isWhiteSpace).head? ≠ some '#') :
    characterAhead flags cs = (cs.dropWhile Unicode.isWhiteSpace).head? := by
  unfold characterAhead
  rw [if_pos hverbose]
  split
  · rename_i heq
    rw [heq] at h
    exact absurd rfl h
  · rfl

theorem Before.readMember (hend : Ends tail) {atom : Atom} (h : Before tail cs cs')
    (hread : readMember flags cs = .ok (atom, rest)) :
    readMember flags cs' = .ok (atom, rest ++ tail) := by
  rcases h with rfl | ⟨rfl, -⟩
  · exact readMember_append hend hread
  · cases hread

/-- Where a text ends, a closing parenthesis is seen ahead. -/
theorem characterAhead_append (hend : Ends tail) (flags : Flags) (cs : List Char) :
    characterAhead flags (cs ++ tail) = (characterAhead flags cs).or (some ')') := by
  have hdrop := dropWhile_isWhiteSpace_append hend cs
  by_cases hverbose : flags.verbose = true
  · have hiff := head?_append_ends hend (c := '#') (by decide) (cs.dropWhile Unicode.isWhiteSpace)
    by_cases hsign : (cs.dropWhile Unicode.isWhiteSpace).head? = some '#'
    · obtain ⟨r, hr⟩ := List.head?_eq_some_iff.mp hsign
      rw [hr, List.cons_append] at hdrop
      rw [characterAhead_sign hverbose hr, characterAhead_sign hverbose hdrop,
        dropWhile_isWhiteSpace_append hend, head?_append_ends_or hend]
    · have hsign' : ((cs ++ tail).dropWhile Unicode.isWhiteSpace).head? ≠ some '#' := by
        rw [hdrop]
        exact fun h => hsign (hiff.mp h)
      rw [characterAhead_other hverbose hsign, characterAhead_other hverbose hsign', hdrop,
        head?_append_ends_or hend]
  · unfold characterAhead
    rw [if_neg hverbose, if_neg hverbose]
    exact head?_append_ends_or hend cs

theorem opensRange_append (hend : Ends tail) (flags : Flags) {c : Char} (cs : List Char) :
    opensRange flags (c :: (cs ++ tail)) = opensRange flags (c :: cs) := by
  by_cases hc : c = '-'
  · subst hc
    show (!(characterAhead flags (cs ++ tail) == some ']' ||
      characterAhead flags (cs ++ tail) == some '-')) = _
    rw [characterAhead_append hend]
    cases h : characterAhead flags cs with
    | none =>
      show _ = !(characterAhead flags cs == some ']' || characterAhead flags cs == some '-')
      rw [h]
      rfl
    | some d =>
      show _ = !(characterAhead flags cs == some ']' || characterAhead flags cs == some '-')
      rw [h]
      rfl
  · have hother : ∀ cs, opensRange flags (c :: cs) = false := by
      intro cs
      unfold opensRange
      split
      · rename_i heq
        exact absurd (List.cons.inj heq).1 hc
      · rfl
    rw [hother, hother]

/-- The set of a range, from the members at its ends. -/
def rangeSet (flags : Flags) (first last : Atom) : Except Fault CharSet := do
  let lo ← memberCharacter flags first
  let hi ← memberCharacter flags last
  if lo ≤ hi then .ok (CharSet.range lo hi) else .error .badRange

/-- What a range comes to from its first member on. -/
def rangeFrom (flags : Flags) (first : Atom) (cs : List Char) : Except Fault (CharSet × List Char) :=
  match skipBlanks flags cs with
  | [] => .error .unclosedClass
  | c :: r =>
    if opensRange flags (c :: r) then
      (readMember flags (skipBlanks flags r)).bind fun last =>
        (rangeSet flags first last.1).map (·, last.2)
    else (memberSet flags first).map (·, c :: r)

theorem readRange_eq (flags : Flags) (cs : List Char) :
    readRange flags cs =
      (readMember flags cs).bind fun member => rangeFrom flags member.1 member.2 := by
  unfold readRange
  show Except.bind (readMember flags cs) _ = _
  congr 1
  funext member
  obtain ⟨first, left⟩ := member
  unfold rangeFrom
  dsimp only
  cases skipBlanks flags left with
  | nil => rfl
  | cons c r =>
    dsimp only
    by_cases hopens : opensRange flags (c :: r) = true
    · rw [if_pos hopens, if_pos hopens]
      show Except.bind (readMember flags (skipBlanks flags r)) _ = _
      congr 1
      funext last
      unfold rangeSet
      cases memberCharacter flags first with
      | error e => rfl
      | ok lo =>
        cases memberCharacter flags last.1 with
        | error e => rfl
        | ok hi =>
          show (if lo ≤ hi then _ else _) = Except.map _ (if lo ≤ hi then _ else _)
          by_cases hle : lo ≤ hi
          · rw [if_pos hle, if_pos hle]
            rfl
          · rw [if_neg hle, if_neg hle]
            rfl
    · rw [if_neg hopens, if_neg hopens]
      cases memberSet flags first <;> rfl

theorem rangeFrom_cons {first : Atom} {c : Char} {r : List Char}
    (h : skipBlanks flags cs = c :: r) :
    rangeFrom flags first cs =
      if opensRange flags (c :: r) then
        (readMember flags (skipBlanks flags r)).bind fun last =>
          (rangeSet flags first last.1).map (·, last.2)
      else (memberSet flags first).map (·, c :: r) := by
  unfold rangeFrom
  generalize skipBlanks flags cs = skipped at h
  subst h
  rfl

theorem rangeFrom_append (hend : Ends tail) {first : Atom} {s : CharSet}
    (h : rangeFrom flags first cs = .ok (s, rest)) :
    rangeFrom flags first (cs ++ tail) = .ok (s, rest ++ tail) := by
  cases hskip : skipBlanks flags cs with
  | nil =>
    unfold rangeFrom at h
    rw [hskip] at h
    cases h
  | cons c r =>
    rw [rangeFrom_cons hskip] at h
    rw [rangeFrom_cons (skipBlanks_append_of_cons hend hskip), opensRange_append hend]
    by_cases hopens : opensRange flags (c :: r) = true
    · rw [if_pos hopens] at h ⊢
      obtain ⟨⟨last, left⟩, hlast, h⟩ := Except.bind_eq_ok_iff.mp h
      have hblanks := (before_append tail r).skipBlanks hend flags
      rw [hblanks.readMember hend hlast]
      exact map_pair_append h tail
    · rw [if_neg hopens] at h ⊢
      exact map_pair_append h tail

/-- A range is read alike. -/
theorem readRange_append (hend : Ends tail) {s : CharSet}
    (h : readRange flags cs = .ok (s, rest)) :
    readRange flags (cs ++ tail) = .ok (s, rest ++ tail) := by
  rw [readRange_eq] at h ⊢
  obtain ⟨⟨first, left⟩, hfirst, h⟩ := Except.bind_eq_ok_iff.mp h
  rw [readMember_append hend hfirst]
  exact rangeFrom_append hend h

/-! ### Classes -/

section Members

variable {fuel : Nat} {pending : Option Pending} {m : Members} {c : Char} {r : List Char}

theorem readMembers_nil (h : skipBlanks flags cs = []) :
    readMembers flags (fuel + 1) pending m cs = .error .unclosedClass := by
  unfold readMembers
  rw [h]

/-- Members that begin with a named class or a class within. -/
theorem readMembers_open (h : skipBlanks flags cs = '[' :: r) :
    readMembers flags (fuel + 1) pending m cs =
      match readNamedClass flags r with
      | some (s, rest) => s.bind fun s => readMembers flags fuel pending (m.add s 0) rest
      | none =>
        (readMembers flags fuel none (readClassStart flags r).2.1 (readClassStart flags r).2.2).bind
          fun inner => (flags.closeSet (readClassStart flags r).1 inner.1).bind fun s =>
            readMembers flags fuel pending (m.add s (inner.2.1 + 1)) inner.2.2 := by
  conv => lhs; unfold readMembers
  rw [h]
  rfl

theorem readMembers_close (h : skipBlanks flags cs = ']' :: r) :
    readMembers flags (fuel + 1) pending m cs =
      (combine flags pending m).map fun s => (s.1, s.2, r) := by
  conv => lhs; unfold readMembers
  rw [h]
  show (combine flags pending m >>= _) = _
  cases combine flags pending m <;> rfl

theorem readMembers_operator {operator : SetOperator} (hopen : c ≠ '[') (hclose : c ≠ ']')
    (h : skipBlanks flags cs = c :: c :: r) (hoperator : SetOperator.ofChar? c = some operator) :
    readMembers flags (fuel + 1) pending m cs =
      (combine flags pending m).bind fun left =>
        readMembers flags fuel (some ⟨operator, left.1, left.2⟩) {} r := by
  conv => lhs; unfold readMembers
  rw [h]
  split
  · rename_i heq
    cases heq
  · rename_i heq
    exact absurd (List.cons.inj heq).1 hopen
  · rename_i heq
    exact absurd (List.cons.inj heq).1 hclose
  · rename_i heq
    cases heq
    rw [hoperator, decide_eq_true (show (c :: r).head? = some c from rfl)]
    rfl

/-- Members that begin with a range or a single member. -/
theorem readMembers_range (hopen : c ≠ '[') (hclose : c ≠ ']') (h : skipBlanks flags cs = c :: r)
    (hrange : SetOperator.ofChar? c = none ∨ r.head? ≠ some c) :
    readMembers flags (fuel + 1) pending m cs =
      (readRange flags (c :: r)).bind fun member =>
        readMembers flags fuel pending (m.add member.1 0) member.2 := by
  conv => lhs; unfold readMembers
  rw [h]
  split
  · rename_i heq
    cases heq
  · rename_i heq
    exact absurd (List.cons.inj heq).1 hopen
  · rename_i heq
    exact absurd (List.cons.inj heq).1 hclose
  · rename_i heq
    cases heq
    split
    · rename_i hoperator hhead
      rcases hrange with hnone | hne
      · rw [hnone] at hoperator
        cases hoperator
      · exact absurd (of_decide_eq_true hhead) hne
    · rfl

end Members

/-- The members of a class are read alike, with as much fuel or more. -/
theorem Before.readMembers (hend : Ends tail) : ∀ {fuel fuel' : Nat} {pending : Option Pending}
    {m : Members} {cs cs' rest : List Char} {s : CharSet} {depth : Nat}, fuel ≤ fuel' →
    Before tail cs cs' → readMembers flags fuel pending m cs = .ok (s, depth, rest) →
    readMembers flags fuel' pending m cs' = .ok (s, depth, rest ++ tail)
  | 0, _, _, _, _, _, _, _, _, _, _, h => by cases h
  | fuel + 1, fuel', pending, m, cs, cs', rest, s, depth, hfuel, hbefore, h => by
    obtain ⟨k, rfl⟩ := Nat.exists_eq_add_of_le' (show 1 ≤ fuel' by omega)
    have hk : fuel ≤ k := by omega
    have hblanks := hbefore.skipBlanks hend flags
    cases hskip : Regex.skipBlanks flags cs with
    | nil =>
      rw [readMembers_nil hskip] at h
      cases h
    | cons c r =>
      rw [hskip] at hblanks
      have hskip' := hblanks.eq_of_cons
      by_cases hopen : c = '['
      · subst hopen
        rw [readMembers_open hskip] at h
        rw [readMembers_open hskip', readNamedClass_append hend]
        cases hnamed : readNamedClass flags r with
        | some named =>
          obtain ⟨s | s, left⟩ := named
          · rw [hnamed] at h
            cases h
          · rw [hnamed] at h
            exact Before.readMembers hend hk (before_append tail left) h
        | none =>
          rw [hnamed] at h
          obtain ⟨hnegated, hm, hstart⟩ := readClassStart_append hend flags r
          obtain ⟨⟨s₁, depth₁, left⟩, hinner, h⟩ := Except.bind_eq_ok_iff.mp h
          obtain ⟨s₂, hclose, h⟩ := Except.bind_eq_ok_iff.mp h
          have hinner' := Before.readMembers hend hk hstart hinner
          show Except.bind (Regex.readMembers flags k none (readClassStart flags (r ++ tail)).2.1
            (readClassStart flags (r ++ tail)).2.2) _ = _
          rw [hm, hnegated, hinner']
          show Except.bind (flags.closeSet (readClassStart flags r).1 s₁) _ = _
          rw [hclose]
          exact Before.readMembers hend hk (before_append tail left) h
      by_cases hclose : c = ']'
      · subst hclose
        rw [readMembers_close hskip] at h
        rw [readMembers_close hskip']
        obtain ⟨combined, hcombine, heq⟩ := Except.map_eq_ok_iff.mp h
        rw [hcombine]
        cases heq
        rfl
      by_cases hoperator : (SetOperator.ofChar? c).isSome = true ∧ r.head? = some c
      · obtain ⟨operator, hsome⟩ := Option.isSome_iff_exists.mp hoperator.1
        obtain ⟨r, rfl⟩ := List.head?_eq_some_iff.mp hoperator.2
        rw [readMembers_operator hopen hclose hskip hsome] at h
        rw [readMembers_operator hopen hclose hskip' hsome]
        obtain ⟨left, hleft, h⟩ := Except.bind_eq_ok_iff.mp h
        rw [hleft]
        exact Before.readMembers hend hk (before_append tail r) h
      · have hrange : SetOperator.ofChar? c = none ∨ r.head? ≠ some c := by
          by_cases hsome : (SetOperator.ofChar? c).isSome = true
          · exact Or.inr fun hhead => hoperator ⟨hsome, hhead⟩
          · exact Or.inl (by simpa using hsome)
        have hrange' : SetOperator.ofChar? c = none ∨ (r ++ tail).head? ≠ some c := by
          by_cases hc : c = ')'
          · refine Or.inl ?_
            rw [hc]
            rfl
          · exact hrange.imp_right fun hne hhead => hne ((head?_append_ends hend hc r).mp hhead)
        rw [readMembers_range hopen hclose hskip hrange] at h
        rw [readMembers_range hopen hclose hskip' hrange']
        obtain ⟨⟨s₁, left⟩, hmember, h⟩ := Except.bind_eq_ok_iff.mp h
        have hmember' := readRange_append hend hmember
        rw [List.cons_append] at hmember'
        rw [hmember']
        exact Before.readMembers hend hk (before_append tail left) h

/-- **A class is read alike.** -/
theorem readClass_append (hend : Ends tail) {s : CharSet} {depth : Nat}
    (h : readClass flags cs = .ok (s, depth, rest)) :
    readClass flags (cs ++ tail) = .ok (s, depth, rest ++ tail) := by
  have heq : ∀ cs, readClass flags cs =
      (readMembers flags (cs.length + 1) none (readClassStart flags cs).2.1
        (readClassStart flags cs).2.2).bind fun inner =>
          (flags.closeSet (readClassStart flags cs).1 inner.1).bind fun s =>
            .ok (s, inner.2.1 + 1, inner.2.2) := fun _ => rfl
  obtain ⟨hnegated, hm, hstart⟩ := readClassStart_append hend flags cs
  rw [heq] at h ⊢
  obtain ⟨⟨s₁, depth₁, left⟩, hinner, h⟩ := Except.bind_eq_ok_iff.mp h
  obtain ⟨s₂, hclose, h⟩ := Except.bind_eq_ok_iff.mp h
  cases h
  have hfuel : cs.length + 1 ≤ (cs ++ tail).length + 1 := by
    rw [List.length_append]
    omega
  rw [hm, hnegated, hstart.readMembers hend hfuel hinner]
  show Except.bind (flags.closeSet (readClassStart flags cs).1 s₁) _ = _
  rw [hclose]
  rfl

end Regex
end Signpost
