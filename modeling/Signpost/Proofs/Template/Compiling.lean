/-
# Which templates compile

A template is written as tokens: texts of letters, digits and a few marks, stars,
and placeholders of the kinds that there are. The grammars of the placeholders
are pasted side by side as text, and yet each is read as it is read alone, for
none of them has a bar outside of a group. So a template compiles just if the
names that its placeholders give may be given to groups and are distinct, and
its groups are those of the placeholders, one after the other
(`compile_tokens`). The memory of the machine is left out of account: it is
assumed that the expression is not too large.

Key definitions: `Token.IsPlain`, `Token.placeholder?`, `Token.captureNames`,
`Token.BeginsWell`, `inTurn`.
Key theorems: `isGroupName_iff`, `means_phraseOf`, `read_written`,
`admits_tokens_iff`, `compile_alone`, `compile_tokens`.
-/
import Signpost.Proofs.Regex.Nameless
import Signpost.Proofs.Template.Written

namespace Signpost
namespace Template

open Regex

/-! ### Names -/

/-- The name begins with a letter or a low line. -/
def BeginsWell (name : List Char) : Prop := ∃ c ∈ name.head?, c.isAlpha = true ∨ c = '_'

instance : DecidablePred BeginsWell
  | [] => .isFalse (by simp [BeginsWell])
  | c :: _ => decidable_of_iff (c.isAlpha = true ∨ c = '_') (by simp [BeginsWell])

theorem not_isAlphabetic_of_isDigit {c : Char} (h : c.isDigit = true) :
    Unicode.isAlphabetic c = false := by
  have hall : ∀ n < 10, Unicode.isAlphabetic (Char.ofNat (0x30 + n)) = false := by decide +kernel
  obtain ⟨hlo, hhi⟩ := Char.toNat_of_isDigit h
  have hc := hall (c.toNat - 0x30) (by omega)
  rwa [show 0x30 + (c.toNat - 0x30) = c.toNat by omega, Char.ofNat_toNat] at hc

/-- Of the names of placeholders, those may be given to groups that do not begin
with a digit. -/
theorem isGroupName_iff {name : List Char} (h : IsWord name) :
    isGroupName name = true ↔ BeginsWell name := by
  obtain ⟨hne, hword⟩ := h
  obtain ⟨c, cs, rfl⟩ := List.exists_cons_of_ne_nil hne
  have hcs : cs.all (Regex.isNameChar false) = true :=
    List.all_eq_true.mpr fun d hd => isNameChar_of_word (hword d (List.mem_cons_of_mem c hd))
  have hfirst : isGroupName (c :: cs) = Regex.isNameChar true c := by
    show (Regex.isNameChar true c && cs.all (Regex.isNameChar false)) = _
    rw [hcs, Bool.and_true]
  have hbegins : BeginsWell (c :: cs) ↔ c.isAlpha = true ∨ c = '_' := by simp [BeginsWell]
  rw [hfirst, hbegins]
  constructor
  · intro h
    rcases Bool.or_eq_true_iff.mp h with hline | halpha
    · exact Or.inr (beq_iff_eq.mp hline)
    · rcases Bool.or_eq_true_iff.mp (hword c List.mem_cons_self) with halnum | hline
      · rcases Bool.or_eq_true_iff.mp halnum with halpha' | hdigit
        · exact Or.inl halpha'
        · have hno := not_isAlphabetic_of_isDigit hdigit
          exact absurd (halpha.symm.trans hno) (by decide)
      · exact Or.inr (beq_iff_eq.mp hline)
  · rintro (halpha | rfl)
    · exact Bool.or_eq_true_iff.mpr (Or.inr (isAlphabetic_of_isAlpha halpha))
    · rfl

/-- A name that ends in a part of a placeholder begins as the name before it. -/
theorem isGroupName_partName {kind : Placeholder} {name : List Char} {part : String}
    (hne : name ≠ []) (hpart : part ∈ kind.suffixes) :
    isGroupName (Placeholder.partName name part) = true ↔ isGroupName name = true := by
  constructor
  · intro h
    obtain ⟨c, cs, rfl⟩ := List.exists_cons_of_ne_nil hne
    obtain ⟨hc, hcs⟩ := Bool.and_eq_true_iff.mp h
    have hboth : (cs ++ part.toList).all (Regex.isNameChar false) = true := hcs
    rw [List.all_append] at hboth
    exact Bool.and_eq_true_iff.mpr ⟨hc, (Bool.and_eq_true_iff.mp hboth).1⟩
  · intro h
    have hall : ∀ part ∈ kind.suffixes, part.toList.all Template.isNameChar = true := by
      cases kind <;> decide
    exact isGroupName_append h (List.all_eq_true.mp (hall part hpart))

theorem isGroupName_captureNames_iff (kind : Placeholder) {name : List Char} (h : IsWord name) :
    (∀ n ∈ kind.captureNames name, isGroupName n = true) ↔ BeginsWell name := by
  rw [← isGroupName_iff h]
  unfold Placeholder.captureNames
  rw [List.forall_mem_map]
  constructor
  · intro hall
    obtain ⟨part, hpart⟩ : ∃ part, part ∈ kind.suffixes := by
      cases kind <;> exact ⟨_, List.mem_cons_self⟩
    exact (isGroupName_partName h.1 hpart).mp (hall part hpart)
  · intro hname part hpart
    exact (isGroupName_partName h.1 hpart).mpr hname

theorem admits_captureNames_iff (kind : Placeholder) {name : List Char} (h : IsWord name) :
    Admits [] (kind.captureNames name) ↔ BeginsWell name := by
  rw [admits_iff, isGroupName_captureNames_iff kind h]
  have hnodup : ((kind.captureNames name).map String.ofList).Nodup :=
    (kind.nodup_captureNames name).map fun _ _ => String.ofList_inj.mp
  simp [hnodup]

/-! ### Tokens -/

/-- The name of a `*`. -/
def wild : Word := ⟨"wild".toList, isWord_of_all (by decide) rfl⟩

namespace Token

/-- The token is one that the theorem below is about: a text has letters, digits,
low lines, at signs and hyphens, and a kind exists. -/
def IsPlain : Token → Prop
  | text kept => ∀ c ∈ kept.chars, isNameChar c = true ∨ c = '@' ∨ c = '-'
  | typed kind _ => kind.text ∈ kinds
  | _ => True

instance : DecidablePred IsPlain
  | text kept =>
    List.decidableBAll (fun c => isNameChar c = true ∨ c = '@' ∨ c = '-') kept.chars
  | star => .isTrue trivial
  | named _ => .isTrue trivial
  | typed kind _ => inferInstanceAs (Decidable (kind.text ∈ kinds))

/-- The kind and the name of a placeholder; a `*` is one too. -/
def placeholder? : Token → Option (Placeholder × Word)
  | text _ => none
  | star => some (.catchAll, wild)
  | named name => some (.catchAll, name)
  | typed kind name => (Placeholder.ofKind? (some kind.text)).map (·, name)

/-- The names that a token gives to groups. -/
def captureNames (t : Token) : List (List Char) :=
  match t.placeholder? with
  | some (kind, name) => kind.captureNames name.chars
  | none => []

/-- The phrase of a token: that of its kind, or else characters that stand for
themselves. -/
def phrase (t : Token) : Phrase :=
  match t.placeholder? with
  | some (kind, name) => kind.phrase name.chars
  | none => Phrase.row (t.written.map Phrase.literal)

variable {t : Token} {kind : Placeholder} {name : Word}

/-- A token is a text or a placeholder. -/
theorem cases_of_isPlain (h : t.IsPlain) :
    (∃ kept, t = .text kept ∧ ∀ c ∈ kept.chars, isNameChar c = true ∨ c = '@' ∨ c = '-') ∨
      ∃ kind name, t.placeholder? = some (kind, name) := by
  cases t with
  | text kept => exact Or.inl ⟨kept, rfl, h⟩
  | star => exact Or.inr ⟨_, _, rfl⟩
  | named name => exact Or.inr ⟨_, _, rfl⟩
  | typed kind name =>
    refine Or.inr ?_
    cases hfound : Placeholder.ofKind? (some kind.text) with
    | none => exact absurd h ((ofKind?_eq_none_iff _).mp hfound)
    | some found => exact ⟨found, name, by rw [placeholder?, hfound]; rfl⟩

theorem phrase_of_placeholder? (h : t.placeholder? = some (kind, name)) :
    t.phrase = kind.phrase name.chars := by
  unfold phrase
  rw [h]

theorem captureNames_of_placeholder? (h : t.placeholder? = some (kind, name)) :
    t.captureNames = kind.captureNames name.chars := by
  unfold captureNames
  rw [h]

theorem grammar_of_placeholder? (h : t.placeholder? = some (kind, name)) :
    t.grammar = kind.grammar name.chars := by
  cases t with
  | text kept => cases h
  | star =>
    cases h
    rfl
  | named name =>
    cases h
    rfl
  | typed kind' name =>
    obtain ⟨found, hfound, heq⟩ := Option.map_eq_some_iff.mp h
    cases heq
    rw [grammar, hfound]
    rfl

theorem not_mem_specials {c : Char} (h : isNameChar c = true ∨ c = '@' ∨ c = '-') :
    c ∉ specials := by
  have hspecial : ∀ d ∈ specials, isNameChar d = false ∧ d ≠ '@' ∧ d ≠ '-' := by
    simp [specials, isNameChar]
  intro hmem
  obtain ⟨hname, hat, hhyphen⟩ := hspecial c hmem
  rcases h with h | h | h
  · exact absurd (h.symm.trans hname) (by decide)
  · exact hat h
  · exact hhyphen h

theorem text_phrase (h : t.IsPlain) : t.phrase.text = t.grammar := by
  rcases cases_of_isPlain h with ⟨kept, rfl, -⟩ | ⟨kind, name, hfound⟩
  · exact Phrase.text_literals kept.chars
  · rw [phrase_of_placeholder? hfound, grammar_of_placeholder? hfound, Placeholder.text_phrase]

theorem legible_phrase (h : t.IsPlain) :
    t.phrase.Legible ∧ t.phrase.text.head? ≠ some '?' := by
  rcases cases_of_isPlain h with ⟨kept, rfl, hkept⟩ | ⟨kind, name, hfound⟩
  · refine ⟨Phrase.legible_literals fun c hc => not_mem_specials (hkept c hc), fun heq => ?_⟩
    have htext : (text kept).phrase.text = kept.chars := Phrase.text_literals kept.chars
    rw [htext] at heq
    exact absurd (hkept '?' (List.mem_of_mem_head? heq)) (by decide)
  · rw [phrase_of_placeholder? hfound]
    have hsound := Placeholder.sound_phrase (close_not_mem name.isWord.2) kind
    exact ⟨hsound.legible, hsound.head?_ne⟩

theorem names_phrase (h : t.IsPlain) : t.phrase.names = t.captureNames := by
  rcases cases_of_isPlain h with ⟨kept, rfl, -⟩ | ⟨kind, name, hfound⟩
  · exact congrArg (List.filterMap id) (Phrase.groups_literals kept.chars)
  · rw [phrase_of_placeholder? hfound, captureNames_of_placeholder? hfound,
      Placeholder.names_phrase]

theorem means_phrase (h : t.IsPlain) (count : Nat) :
    ∃ es, t.phrase.Means count es Placeholder.depthBound := by
  rcases cases_of_isPlain h with ⟨kept, rfl, -⟩ | ⟨kind, name, hfound⟩
  · exact ⟨_, (Phrase.means_literals kept.chars count).mono (by decide)⟩
  · rw [phrase_of_placeholder? hfound]
    exact ⟨_, kind.means_phrase name.chars count⟩

end Token

/-! ### All tokens -/

/-- The phrase of some tokens side by side. -/
def phraseOf : List Token → Phrase
  | [] => .nothing
  | t :: ts => .beside t.phrase (phraseOf ts)

section Tokens

variable {ts : List Token}

theorem text_phraseOf : ∀ {ts : List Token}, (∀ t ∈ ts, t.IsPlain) →
    (phraseOf ts).text = ts.flatMap Token.grammar
  | [], _ => rfl
  | t :: ts, h => by
    rw [List.forall_mem_cons] at h
    rw [phraseOf, Phrase.text, Token.text_phrase h.1, text_phraseOf h.2, List.flatMap_cons]

theorem legible_phraseOf : ∀ {ts : List Token}, (∀ t ∈ ts, t.IsPlain) →
    (phraseOf ts).Legible ∧ (phraseOf ts).text.head? ≠ some '?'
  | [], _ => ⟨trivial, by decide⟩
  | t :: ts, h => by
    rw [List.forall_mem_cons] at h
    obtain ⟨hfirst, hhead⟩ := Token.legible_phrase h.1
    obtain ⟨hrest, hhead'⟩ := legible_phraseOf h.2
    exact ⟨⟨hfirst, hrest, hhead'⟩, List.head?_append_ne hhead hhead'⟩

theorem names_phraseOf : ∀ {ts : List Token}, (∀ t ∈ ts, t.IsPlain) →
    (phraseOf ts).names = ts.flatMap Token.captureNames
  | [], _ => rfl
  | t :: ts, h => by
    rw [List.forall_mem_cons] at h
    rw [phraseOf, Phrase.names_beside, Token.names_phrase h.1, names_phraseOf h.2,
      List.flatMap_cons]

theorem means_phraseOf : ∀ {ts : List Token}, (∀ t ∈ ts, t.IsPlain) → ∀ count,
    ∃ es, (phraseOf ts).Means count es Placeholder.depthBound
  | [], _, count => ⟨[], Phrase.means_nothing⟩
  | t :: ts, h, count => by
    rw [List.forall_mem_cons] at h
    obtain ⟨es, hes⟩ := Token.means_phrase h.1 count
    obtain ⟨es', hes'⟩ := means_phraseOf h.2 (count + t.phrase.groups.length)
    exact ⟨es ++ es', hes.beside hes'⟩

/-- No kind of a placeholder is `re`, so no template is one expression of its own. -/
theorem not_custom_of_isPlain : ∀ {ts : List Token}, (∀ t ∈ ts, t.IsPlain) →
    ¬ "\x7bre:".toList <+: written ts
  | [], _, h => absurd (List.prefix_nil.mp h) (by decide)
  | t :: ts, hplain, h => by
    rw [List.forall_mem_cons] at hplain
    rw [written, List.flatMap_cons] at h
    cases t with
    | text kept =>
      cases hchars : kept.chars with
      | nil =>
        rw [Token.written, hchars] at h
        exact not_custom_of_isPlain hplain.2 h
      | cons c cs =>
        rw [Token.written, hchars] at h
        have hc : '{' = c := (List.cons_prefix_cons.mp h).1
        exact (kept.plain c (hchars ▸ List.mem_cons_self)).1 hc.symm
    | star => exact absurd (List.cons_prefix_cons.mp h).1 (by decide)
    | named name =>
      rw [Token.written, List.cons_append, List.append_assoc] at h
      obtain ⟨rest, hrest⟩ := (List.cons_prefix_cons.mp h).2
      have hname : takeName (name.chars ++ '}' :: written ts) = (name.text, '}' :: written ts) :=
        takeName_append name.isWord.2 (by simp; decide)
      have hre : takeName ("re".toList ++ ':' :: rest) = ("re", ':' :: rest) :=
        takeName_append (List.all_eq_true.mp (by decide)) (by simp; decide)
      have heq := hre.symm.trans ((congrArg takeName hrest).trans hname)
      exact absurd (List.cons.inj (Prod.mk.inj heq).2).1 (by decide)
    | typed kind name =>
      have hkind : ∀ k ∈ kinds, k.toList.head? ≠ some 'r' ∧ k.toList ≠ [] := by decide
      obtain ⟨hr, hne⟩ := hkind kind.text hplain.1
      rw [Word.toList_text] at hr hne
      obtain ⟨c, cs, hchars⟩ := List.exists_cons_of_ne_nil hne
      rw [Token.written, hchars] at h
      have hc := (List.cons_prefix_cons.mp (List.cons_prefix_cons.mp h).2).1
      exact hr (by rw [hchars, ← hc]; rfl)

theorem source_written (h : ∀ t ∈ ts, t.IsPlain) :
    source (String.ofList (written ts)) = .ok (phraseOf ts).anchored.text := by
  have hknown : ts.findSome? Token.unknown? = none := by
    rw [List.findSome?_eq_none_iff]
    intro t ht
    cases t with
    | typed kind name => exact if_pos (h _ ht)
    | _ => rfl
  have hexpand := expand_written fun hcustom => not_custom_of_isPlain h hcustom.1
  rw [hknown] at hexpand
  rw [source, String.toList_ofList, hexpand, Phrase.text_anchored, text_phraseOf h]

/-- **Pasted grammars are read.** Where the names may be given, each token is read
as what it means, and the groups have consecutive numbers. -/
theorem read_written (h : ∀ t ∈ ts, t.IsPlain) (hnames : Admits [] (ts.flatMap Token.captureNames)) :
    ∃ e, Regex.read (phraseOf ts).anchored.text = .ok e ∧
      e.groups = numbered 0 (phraseOf ts).groups := by
  obtain ⟨es, hmeans⟩ := means_phraseOf h 0
  rw [← names_phraseOf h] at hnames
  refine ⟨_, Phrase.read_anchored (legible_phraseOf h).1 hnames hmeans.body (by decide), ?_⟩
  rw [Expr.groups_sequence]
  show (Expr.branch es).groups ++ [] = _
  rw [List.append_nil, Expr.groups_branch, hmeans.2]

theorem compile_error_of_not_admits (h : ∀ t ∈ ts, t.IsPlain)
    (hnames : ¬ Admits [] (ts.flatMap Token.captureNames)) :
    ∃ reason, compile (String.ofList (written ts)) =
      .error (.badExpression (String.ofList (written ts)) reason) := by
  rw [← names_phraseOf h] at hnames
  obtain ⟨fault, hread⟩ := Phrase.exists_read_anchored_error (legible_phraseOf h).1 hnames
  exact ⟨fault.message, compile_of_read_error (source_written h) hread⟩

end Tokens

/-! ### Placeholders alone -/

/-- The expression of a placeholder is never too large. Its names take up nothing,
so it is enough to reckon it for one name. -/
theorem isTooLarge_singleExpr (kind : Placeholder) (name : List Char) :
    (singleExpr kind name).isTooLarge = false := by
  have hnameless : (singleExpr kind name).nameless = (singleExpr kind ['n']).nameless := by
    cases kind <;> rfl
  rw [Expr.isTooLarge_eq_of_nameless_eq hnameless]
  cases kind <;> decide +kernel

theorem source_alone {t : Token} (h : t.IsPlain) :
    source (String.ofList t.written) = .ok t.phrase.anchored.text := by
  have hall : ∀ t' ∈ [t], t'.IsPlain := by simpa using h
  have hsource := source_written hall
  rw [Phrase.text_anchored, text_phraseOf hall] at hsource
  simpa [written, Phrase.text_anchored, Token.text_phrase h] using hsource

theorem compile_alone {t : Token} (hplain : t.IsPlain) {kind : Placeholder} {name : Word}
    (h : t.placeholder? = some (kind, name)) (hbegins : BeginsWell name.chars) :
    ∃ r, compile (String.ofList t.written) = .ok r ∧ r.expr = singleExpr kind name.chars := by
  have hnames := (admits_captureNames_iff kind name.isWord).mpr hbegins
  have hsource := source_alone hplain
  rw [Token.phrase_of_placeholder? h] at hsource
  exact compile_of_read hsource (read_single kind name.isWord hnames)
    (isTooLarge_singleExpr kind name.chars)

theorem groups_singleExpr (kind : Placeholder) (name : List Char) :
    (singleExpr kind name).groups = numbered 0 (kind.phrase name).groups := by
  rw [singleExpr, Expr.groups_sequence]
  show (Expr.branch (kind.exprs name 0)).groups ++ [] = _
  rw [List.append_nil, Expr.groups_branch, (kind.means_phrase name 0).2]

/-! ### Groups side by side -/

/-- The groups of some expressions, if `before` groups come first: their numbers go
on from one expression to the next. -/
def inTurn : Nat → List Regex → List (Nat × Option String)
  | _, [] => []
  | before, r :: rs =>
    r.expr.groups.map (fun g => (before + g.1, g.2)) ++ inTurn (before + r.groupNames.length) rs

theorem numbered_shift : ∀ (before count : Nat) (names : List (Option (List Char))),
    (numbered count names).map (fun g => (before + g.1, g.2)) = numbered (before + count) names
  | _, _, [] => rfl
  | before, count, name :: names => by
    rw [numbered, List.map_cons, numbered_shift before (count + 1) names, numbered,
      Nat.add_assoc before count 1]

/-- True for the tokens that are placeholders. -/
def Token.isPlaceholder (t : Token) : Bool := t.placeholder?.isSome

/-- The placeholders alone, and what their groups come to side by side. -/
theorem exists_alone : ∀ {ts : List Token}, (∀ t ∈ ts, t.IsPlain) →
    (∀ t ∈ ts, ∀ p ∈ t.placeholder?, BeginsWell p.2.chars) →
    ∃ alone : List Regex,
      List.Forall₂ (fun t r => compile (String.ofList t.written) = .ok r)
        (ts.filter Token.isPlaceholder) alone ∧
      (phraseOf ts).groups.map (·.map String.ofList) = alone.flatMap groupNames ∧
      ∀ before, numbered before (phraseOf ts).groups = inTurn before alone
  | [], _, _ => ⟨[], .nil, rfl, fun _ => rfl⟩
  | t :: ts, hplain, hbegins => by
    rw [List.forall_mem_cons] at hplain hbegins
    obtain ⟨alone, hall, hnames, hgroups⟩ := exists_alone hplain.2 hbegins.2
    rcases Token.cases_of_isPlain hplain.1 with ⟨kept, rfl, -⟩ | ⟨kind, name, hfound⟩
    · have hnone : (phraseOf (.text kept :: ts)).groups = (phraseOf ts).groups := by
        show (Phrase.row (kept.chars.map Phrase.literal)).groups ++ _ = _
        rw [Phrase.groups_literals, List.nil_append]
      rw [hnone]
      exact ⟨alone, hall, hnames, hgroups⟩
    · obtain ⟨r, hr, hexpr⟩ := compile_alone hplain.1 hfound (hbegins.1 (kind, name) hfound)
      have hsplit : (phraseOf (t :: ts)).groups =
          (kind.phrase name.chars).groups ++ (phraseOf ts).groups := by
        rw [phraseOf, Phrase.groups, Token.phrase_of_placeholder? hfound]
      have hown : r.expr.groups = numbered 0 (kind.phrase name.chars).groups := by
        rw [hexpr, groups_singleExpr]
      have hownNames : r.groupNames = (kind.phrase name.chars).groups.map (·.map String.ofList) :=
        Expr.groupNames_of_numbered hown
      have hfilter : (t :: ts).filter Token.isPlaceholder = t :: ts.filter Token.isPlaceholder :=
        List.filter_cons_of_pos (by rw [Token.isPlaceholder, hfound]; rfl)
      refine ⟨r :: alone, ?_, ?_, fun before => ?_⟩
      · rw [hfilter]
        exact .cons hr hall
      · rw [hsplit, List.map_append, List.flatMap_cons, hnames, hownNames]
      · rw [hsplit, numbered_append, inTurn, hown, numbered_shift, hownNames, List.length_map,
          hgroups]
        rfl

/-! ### Which templates compile -/

/-- The names of a template may be given just if they begin well and are distinct. -/
theorem admits_tokens_iff {ts : List Token} (hplain : ∀ t ∈ ts, t.IsPlain) :
    Admits [] (ts.flatMap Token.captureNames) ↔
      (∀ t ∈ ts, ∀ p ∈ t.placeholder?, BeginsWell p.2.chars) ∧
        (ts.flatMap Token.captureNames).Nodup := by
  have htoken : ∀ t ∈ ts, (∀ n ∈ t.captureNames, isGroupName n = true) ↔
      ∀ p ∈ t.placeholder?, BeginsWell p.2.chars := by
    intro t ht
    rcases Token.cases_of_isPlain (hplain t ht) with ⟨kept, rfl, -⟩ | ⟨kind, name, hfound⟩
    · simp [Token.captureNames, Token.placeholder?]
    · rw [Token.captureNames_of_placeholder? hfound, hfound,
        isGroupName_captureNames_iff kind name.isWord]
      simp
  have hnames : (∀ n ∈ ts.flatMap Token.captureNames, isGroupName n = true) ↔
      ∀ t ∈ ts, ∀ n ∈ t.captureNames, isGroupName n = true := by
    simp only [List.mem_flatMap]
    exact ⟨fun h t ht n hn => h n ⟨t, ht, hn⟩, fun h n ⟨t, ht, hn⟩ => h t ht n hn⟩
  rw [admits_iff, hnames, List.nodup_map_iff fun _ _ => String.ofList_inj.mp]
  simp only [List.not_mem_nil, not_false_iff, implies_true, and_true]
  exact and_congr_left fun _ => forall₂_congr htoken

/-- **Which templates compile.** Let a template be written as texts of letters,
digits, low lines, at signs and hyphens, stars, and placeholders without a kind or
of a kind that there is; and let the expression it stands for not be too large. It
compiles just if the name of every placeholder begins with a letter or a low line,
and the names that the placeholders give to groups are distinct. Otherwise it is
refused as no expression, and the error tells the template. If it compiles, every
placeholder compiles alone, and its groups are the groups of those, one
placeholder after the other: their numbers go on from one to the next. -/
theorem compile_tokens (ts : List Token) (hplain : ∀ t ∈ ts, t.IsPlain)
    (hsize : ∀ text, source (String.ofList (written ts)) = .ok text →
      Regex.compile text ≠ .error .tooLarge) :
    let template := String.ofList (written ts)
    ((∃ r, compile template = .ok r) ↔
      (∀ t ∈ ts, ∀ p ∈ t.placeholder?, BeginsWell p.2.chars) ∧
        (ts.flatMap Token.captureNames).Nodup) ∧
    ((¬ ∃ r, compile template = .ok r) →
      ∃ reason, compile template = .error (.badExpression template reason)) ∧
    ∀ r, compile template = .ok r → ∃ alone : List Regex,
      List.Forall₂ (fun t r' => compile (String.ofList t.written) = .ok r')
        (ts.filter Token.isPlaceholder) alone ∧
      r.groupNames = alone.flatMap groupNames ∧ r.expr.groups = inTurn 0 alone := by
  intro template
  have hsource := source_written hplain
  rw [← admits_tokens_iff hplain]
  by_cases hnames : Admits [] (ts.flatMap Token.captureNames)
  · obtain ⟨e, hread, hgroups⟩ := read_written hplain hnames
    obtain ⟨r, hr, rfl⟩ := compile_of_fits hsource hread (hsize _ hsource)
    refine ⟨⟨fun _ => hnames, fun _ => ⟨r, hr⟩⟩, fun hnot => absurd ⟨r, hr⟩ hnot, fun r' hr' => ?_⟩
    obtain rfl : r = r' := Except.ok.inj (hr.symm.trans hr')
    obtain ⟨alone, hall, haloneNames, haloneGroups⟩ :=
      exists_alone hplain ((admits_tokens_iff hplain).mp hnames).1
    refine ⟨alone, hall, ?_, ?_⟩
    · rw [← haloneNames]
      exact Expr.groupNames_of_numbered hgroups
    · rw [hgroups, haloneGroups]
  · obtain ⟨reason, herror⟩ := compile_error_of_not_admits hplain hnames
    have hnone : ¬ ∃ r, compile template = .ok r := by
      rintro ⟨r, hr⟩
      cases herror.symm.trans hr
    exact ⟨⟨fun h => absurd h hnone, fun h => absurd h hnames⟩, fun _ => ⟨reason, herror⟩,
      fun r hr => absurd ⟨r, hr⟩ hnone⟩

/-- A date, a text, a `*`, a place and a word, with nothing between them; the name of
the word is like those that the date gives to its parts. -/
def pasted : List Token :=
  [.typed ⟨"date".toList, isWord_of_all (by decide) rfl⟩ ⟨"a".toList, isWord_of_all (by decide) rfl⟩,
    .text ⟨"-at@".toList, by simp⟩, .star,
    .typed ⟨"geo".toList, isWord_of_all (by decide) rfl⟩ ⟨"b".toList, isWord_of_all (by decide) rfl⟩,
    .typed ⟨"word".toList, isWord_of_all (by decide) rfl⟩
      ⟨"a_week".toList, isWord_of_all (by decide) rfl⟩]

/-- `pasted` compiles, and the groups of its placeholders are side by side. -/
theorem compile_tokens_pasted :
    written pasted = "\x7bdate:a\x7d-at@*\x7bgeo:b\x7d\x7bword:a_week\x7d".toList ∧
      (∀ t ∈ pasted, t.IsPlain) ∧
      ∃ r, compile (String.ofList (written pasted)) = .ok r ∧ ∃ alone : List Regex,
        List.Forall₂ (fun t r' => compile (String.ofList t.written) = .ok r')
          (pasted.filter Token.isPlaceholder) alone ∧
        r.groupNames = alone.flatMap groupNames ∧ r.expr.groups = inTurn 0 alone := by
  have hplain : ∀ t ∈ pasted, t.IsPlain := by decide
  have hfits : ((source (String.ofList (written pasted))).toOption.map fun text =>
      (Regex.compile text).toOption.isSome) = some true := by decide +kernel
  obtain ⟨hiff, -, hgroups⟩ := compile_tokens pasted hplain fun text htext hlarge => by
    rw [htext] at hfits
    simp only [Except.toOption, Option.map_some, hlarge] at hfits
    cases hfits
  obtain ⟨r, hr⟩ := hiff.mpr (by decide)
  exact ⟨by decide, hplain, r, hr, hgroups r hr⟩

/-- A date and a word that has the name of a part of it. -/
example : ¬ ([.typed ⟨"date".toList, isWord_of_all (by decide) rfl⟩
      ⟨"a".toList, isWord_of_all (by decide) rfl⟩,
    .named ⟨"a_year".toList, isWord_of_all (by decide) rfl⟩].flatMap Token.captureNames).Nodup := by
  decide

end Template
end Signpost
