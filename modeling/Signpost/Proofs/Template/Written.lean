/-
# Templates as they are written

A template is written as a list of tokens, one after the other: texts that are
kept, stars, and placeholders with or without a kind. The tokens are read back
from the text (`cut_written`), in whatever order they stand and however many of
them touch: only a placeholder has an opening brace, and it is read as a whole,
while a closing brace or a colon in a text opens nothing.

So the expansion of a template is told token by token (`expand_written`): it is
refused for the first kind that there is not, and otherwise it is the texts and
the grammars of the placeholders in their order.

Key definitions: `Template.Word`, `Template.Verbatim`, `Template.Token`,
`Template.written`, `Token.unknown?`, `Token.grammar`.
Key theorems: `Template.cut_token`, `Template.cut_written`,
`Template.expandAll_append`, `Template.expand_written`,
`Template.expansion_of_written`.
-/
import Signpost.Proofs.Template.Single

namespace Signpost
namespace Template

/-- The name of a placeholder, or of a kind. -/
structure Word where
  chars : List Char
  isWord : IsWord chars

/-- A text that is kept: nothing in it begins a placeholder. -/
structure Verbatim where
  chars : List Char
  plain : ∀ c ∈ chars, c ≠ '{' ∧ c ≠ '*'

/-- What a template is made of: a text, a `*`, a placeholder `{name}`, or a
placeholder `{kind:name}`. -/
inductive Token where
  | text (kept : Verbatim)
  | star
  | named (name : Word)
  | typed (kind name : Word)

/-- The name as a text. -/
def Word.text (w : Word) : String := String.ofList w.chars

@[simp] theorem Word.toList_text (w : Word) : w.text.toList = w.chars := String.toList_ofList

namespace Token

/-- A token as it is written. -/
def written : Token → List Char
  | text kept => kept.chars
  | star => ['*']
  | named name => '{' :: (name.chars ++ ['}'])
  | typed kind name => '{' :: (kind.chars ++ ':' :: (name.chars ++ ['}']))

/-- The pieces that a token is read as. -/
def pieces : Token → List Piece
  | text kept => kept.chars.map .text
  | star => [.placeholder none "wild"]
  | named name => [.placeholder none name.text]
  | typed kind name => [.placeholder (some kind.text) name.text]

end Token

/-- A template that is written as the given tokens. -/
def written (ts : List Token) : List Char := ts.flatMap Token.written

/-! ### The tokens are read back -/

theorem spellWild_append (cs ds : List Char) :
    spellWild (cs ++ ds) = spellWild cs ++ spellWild ds := List.flatMap_append

theorem star_not_mem_word (w : Word) : '*' ∉ w.chars := fun hmem =>
  absurd (w.isWord.2 '*' hmem) (by decide)

/-- Only a `*` is spelled in another way than it is written. -/
theorem spellWild_written (t : Token) :
    spellWild t.written =
      match t with
      | .star => "\x7bwild\x7d".toList
      | t => t.written := by
  cases t with
  | text kept => exact spellWild_eq fun hmem => (kept.plain '*' hmem).2 rfl
  | star => rfl
  | named name =>
    apply spellWild_eq
    simp [Token.written, star_not_mem_word]
  | typed kind name =>
    apply spellWild_eq
    simp [Token.written, star_not_mem_word]

theorem cut_text : ∀ {cs : List Char}, (∀ c ∈ cs, c ≠ '{') → ∀ (fuel : Nat) (rest : List Char),
    cut (cs.length + fuel) (cs ++ rest) = cs.map .text ++ cut fuel rest
  | [], _, fuel, rest => by simp
  | c :: cs, h, fuel, rest => by
    have hc : c ≠ '{' := h c List.mem_cons_self
    have ih := cut_text (fun d hd => h d (List.mem_cons_of_mem c hd)) fuel rest
    have hlength : (c :: cs).length + fuel = cs.length + fuel + 1 := by
      rw [List.length_cons]
      omega
    rw [hlength, List.cons_append, cut, if_neg hc]
    dsimp only
    rw [ih, List.map_cons, List.cons_append]

/-- A placeholder is cut off as a whole. It is longer than the one unit of fuel that
it takes. -/
theorem cut_placeholder {cs rest : List Char} {piece : Piece} {fuel : Nat}
    (h : takePlaceholder (cs ++ rest) = some (piece, rest))
    (hfuel : ('{' :: cs).length + rest.length ≤ fuel) :
    ∃ left, rest.length ≤ left ∧ cut fuel ('{' :: cs ++ rest) = [piece] ++ cut left rest := by
  rw [List.length_cons] at hfuel
  obtain ⟨left, rfl⟩ : ∃ left, fuel = left + 1 := ⟨fuel - 1, by omega⟩
  refine ⟨left, by omega, ?_⟩
  rw [List.cons_append, cut, if_pos rfl, h]
  rfl

/-- **One token.** Where a token is spelled out it is cut off, and what is left of
the fuel is enough for the rest. -/
theorem cut_token (t : Token) (rest : List Char) {fuel : Nat}
    (hfuel : (spellWild t.written ++ rest).length ≤ fuel) :
    ∃ left, rest.length ≤ left ∧
      cut fuel (spellWild t.written ++ rest) = t.pieces ++ cut left rest := by
  rw [List.length_append, spellWild_written] at hfuel
  rw [spellWild_written]
  cases t with
  | text kept =>
    obtain ⟨left, rfl⟩ := Nat.exists_eq_add_of_le (Nat.le_of_add_right_le hfuel)
    refine ⟨left, Nat.le_of_add_le_add_left hfuel, ?_⟩
    exact cut_text (fun c hc => (kept.plain c hc).1) left rest
  | star =>
    have hwild : IsWord "wild".toList := isWord_of_all (by decide) rfl
    exact cut_placeholder (takePlaceholder_name hwild) hfuel
  | named name =>
    refine cut_placeholder ?_ hfuel
    rw [List.append_assoc]
    exact takePlaceholder_name name.isWord
  | typed kind name =>
    refine cut_placeholder ?_ hfuel
    rw [List.append_assoc, List.cons_append, List.append_assoc]
    exact takePlaceholder_kind kind.isWord name.isWord

/-- **All tokens.** A template is cut into the pieces of its tokens. -/
theorem cut_written : ∀ (ts : List Token) {fuel : Nat},
    (spellWild (written ts)).length ≤ fuel →
    cut fuel (spellWild (written ts)) = ts.flatMap Token.pieces
  | [], fuel, _ => by
    cases fuel <;> rfl
  | t :: ts, fuel, hfuel => by
    have hsplit : spellWild (written (t :: ts)) =
        spellWild t.written ++ spellWild (written ts) := by
      rw [written, List.flatMap_cons, spellWild_append]
      rfl
    rw [hsplit] at hfuel ⊢
    obtain ⟨left, hleft, hcut⟩ := cut_token t (spellWild (written ts)) hfuel
    rw [hcut, cut_written ts hleft, List.flatMap_cons]

theorem pieces_written (ts : List Token) : pieces (written ts) = ts.flatMap Token.pieces :=
  cut_written ts (Nat.le_refl _)

/-! ### The tokens are expanded -/

/-- The kinds of placeholders that there are. -/
def kinds : List String := ["word", "uint", "int", "float", "hex", "uuid", "date", "geo"]

theorem ofKind?_eq_none_iff (kind : String) :
    Placeholder.ofKind? (some kind) = none ↔ kind ∉ kinds := by
  unfold Placeholder.ofKind?
  split <;> simp_all [kinds]

namespace Token

/-- The kind that a token names, if there is no such kind. -/
def unknown? : Token → Option String
  | typed kind _ => if kind.text ∈ kinds then none else some kind.text
  | _ => none

/-- The expression that a token stands for: a text for itself, a `*` for the
placeholder `{wild}`, and a placeholder for the grammar of its kind. -/
def grammar : Token → List Char
  | text kept => kept.chars
  | star => Placeholder.catchAll.grammar "wild".toList
  | named name => Placeholder.catchAll.grammar name.chars
  | typed kind name => ((Placeholder.ofKind? (some kind.text)).map (·.grammar name.chars)).getD []

end Token

/-- The expressions of some pieces, put together. -/
def expandAll (ps : List Piece) : Except String (List Char) :=
  (ps.mapM Piece.expand).map List.flatten

theorem expandAll_append (ps qs : List Piece) :
    expandAll (ps ++ qs) = (expandAll ps).bind fun cs => (expandAll qs).map (cs ++ ·) := by
  unfold expandAll
  rw [List.mapM_append]
  cases ps.mapM Piece.expand with
  | error kind => rfl
  | ok as =>
    cases qs.mapM Piece.expand with
    | error kind => rfl
    | ok bs =>
      show Except.ok (as ++ bs).flatten = Except.ok (as.flatten ++ bs.flatten)
      rw [List.flatten_append]

theorem expandAll_text (cs : List Char) : expandAll (cs.map .text) = .ok cs := by
  induction cs with
  | nil => rfl
  | cons c cs ih =>
    rw [List.map_cons, ← List.singleton_append, expandAll_append, ih]
    rfl

theorem expandAll_placeholder (kind : Option String) (name : String) :
    expandAll [.placeholder kind name] =
      match Placeholder.ofKind? kind with
      | some found => .ok (found.grammar name.toList)
      | none => .error (kind.getD "") := by
  unfold expandAll
  rw [List.mapM_cons, List.mapM_nil, Piece.expand]
  cases Placeholder.ofKind? kind with
  | none => rfl
  | some found =>
    show Except.ok [found.grammar name.toList].flatten = Except.ok (found.grammar name.toList)
    rw [List.flatten_singleton]

/-- **One token.** It stands for its grammar, unless its kind does not exist. -/
theorem expandAll_pieces (t : Token) :
    expandAll t.pieces =
      match t.unknown? with
      | some kind => .error kind
      | none => .ok t.grammar := by
  cases t with
  | text kept => exact expandAll_text kept.chars
  | star => rfl
  | named name =>
    rw [Token.pieces, expandAll_placeholder, Word.toList_text]
    rfl
  | typed kind name =>
    rw [Token.pieces, expandAll_placeholder, Word.toList_text, Token.unknown?]
    cases hfound : Placeholder.ofKind? (some kind.text) with
    | none =>
      rw [if_neg ((ofKind?_eq_none_iff _).mp hfound)]
      rfl
    | some found =>
      have hkind : kind.text ∈ kinds := by
        by_contra hnot
        rw [(ofKind?_eq_none_iff _).mpr hnot] at hfound
        cases hfound
      rw [if_pos hkind, Token.grammar, hfound]
      rfl

/-- **All tokens.** They stand for their grammars in order, unless the kind of one
does not exist; the first such kind is the error. -/
theorem expandAll_tokens : ∀ ts : List Token,
    expandAll (ts.flatMap Token.pieces) =
      match ts.findSome? Token.unknown? with
      | some kind => .error kind
      | none => .ok (ts.flatMap Token.grammar)
  | [] => rfl
  | t :: ts => by
    rw [List.flatMap_cons, expandAll_append, expandAll_pieces, expandAll_tokens ts,
      List.findSome?_cons]
    cases t.unknown? with
    | some kind => rfl
    | none =>
      cases ts.findSome? Token.unknown? with
      | some kind => rfl
      | none => rfl

/-! ### The expansion of a template -/

/-- A template is one expression of its own just if it begins with `{re:` and
ends with a closing brace. -/
theorem custom?_eq_none {cs : List Char}
    (h : ¬ ("\x7bre:".toList <+: cs ∧ cs.getLast? = some '}')) : custom? cs = none := by
  unfold custom?
  split
  case h_1 rest =>
    rw [if_neg]
    intro hlast
    have hend : ("\x7bre:".toList ++ rest).getLast? = some '}' := by
      rw [List.getLast?_append, hlast, Option.some_or]
    exact h ⟨⟨rest, rfl⟩, hend⟩
  case h_2 => rfl

/-- The body of such an expression is what stands after `{re:` and before the
last brace, whatever it is. -/
theorem custom?_body (body : List Char) :
    custom? ("\x7bre:".toList ++ body ++ ['}']) = some body := by
  show (if (body ++ ['}']).getLast? = some '}' then some (body ++ ['}']).dropLast else none) = _
  rw [List.getLast?_concat, if_pos rfl, List.dropLast_concat]

theorem expand_written {ts : List Token}
    (h : ¬ ("\x7bre:".toList <+: written ts ∧ (written ts).getLast? = some '}')) :
    expand (written ts) =
      match ts.findSome? Token.unknown? with
      | some kind => .error kind
      | none => .ok (ts.flatMap Token.grammar) := by
  rw [← expandAll_tokens, ← pieces_written, expand, custom?_eq_none h, expandAll]

theorem isSome_unknown?_iff (t : Token) :
    t.unknown?.isSome = true ↔ ∃ kind name, t = .typed kind name ∧ kind.text ∉ kinds := by
  cases t with
  | typed kind name =>
    by_cases hkind : kind.text ∈ kinds <;> simp [Token.unknown?, hkind]
  | _ => simp [Token.unknown?]

/-- **The expansion of a template.** Let a template be written as some tokens, but
not as one expression of its own. It is refused just if a placeholder names a
kind that does not exist; the error tells the template and the first such kind.
Otherwise the template stands for its texts, as they are, and the grammars of
its placeholders, where a `*` is the placeholder `{wild}`, in their order. And
one expression of its own stands for its body, whatever that is. -/
theorem expansion_of_written (ts : List Token)
    (h : ¬ ("\x7bre:".toList <+: written ts ∧ (written ts).getLast? = some '}')) :
    let template := String.ofList (written ts)
    ((∃ kind, expand (written ts) = .error kind) ↔
      ∃ kind name, .typed kind name ∈ ts ∧ kind.text ∉ kinds) ∧
    (match ts.findSome? Token.unknown? with
      | some kind =>
        expand (written ts) = .error kind ∧
          source template = .error (.unknownKind template kind) ∧
          compile template = .error (.unknownKind template kind)
      | none => expand (written ts) = .ok (ts.flatMap Token.grammar)) ∧
    ∀ body : List Char, expand ("\x7bre:".toList ++ body ++ ['}']) = .ok body := by
  intro template
  have hexpand := expand_written h
  refine ⟨?_, ?_, ?_⟩
  · have hunknown : (ts.findSome? Token.unknown?).isSome = true ↔
        ∃ kind name, .typed kind name ∈ ts ∧ kind.text ∉ kinds := by
      rw [List.findSome?_isSome_iff]
      simp only [isSome_unknown?_iff]
      constructor
      · rintro ⟨t, ht, kind, name, rfl, hkind⟩
        exact ⟨kind, name, ht, hkind⟩
      · rintro ⟨kind, name, ht, hkind⟩
        exact ⟨_, ht, kind, name, rfl, hkind⟩
    rw [← hunknown, hexpand]
    cases ts.findSome? Token.unknown? with
    | some kind => simp
    | none => simp
  · cases hfirst : ts.findSome? Token.unknown? with
    | some kind =>
      rw [hfirst] at hexpand
      have hsource : source template = .error (.unknownKind template kind) := by
        rw [source, String.toList_ofList, hexpand]
      refine ⟨hexpand, hsource, ?_⟩
      rw [compile, hsource]
      rfl
    | none =>
      rw [hfirst] at hexpand
      exact hexpand
  · intro body
    rw [expand, custom?_body]

/-- A text with a closing brace and a colon, a `*` and three placeholders, with
nothing between them; two of them name a kind that does not exist. -/
def touching : List Token :=
  [.text ⟨"a\x7d:".toList, by simp⟩, .star,
    .typed ⟨"uint".toList, isWord_of_all (by decide) rfl⟩ ⟨"id".toList, isWord_of_all (by decide) rfl⟩,
    .typed ⟨"age".toList, isWord_of_all (by decide) rfl⟩ ⟨"n".toList, isWord_of_all (by decide) rfl⟩,
    .typed ⟨"re".toList, isWord_of_all (by decide) rfl⟩ ⟨"x".toList, isWord_of_all (by decide) rfl⟩,
    .text ⟨"!".toList, by simp⟩]

/-- `touching` is refused for the first of the two kinds. -/
theorem expansion_of_written_touching :
    ¬ ("\x7bre:".toList <+: written touching ∧ (written touching).getLast? = some '}') ∧
      written touching = "a\x7d:*\x7buint:id\x7d\x7bage:n\x7d\x7bre:x\x7d!".toList ∧
      compile (String.ofList (written touching)) =
        .error (.unknownKind (String.ofList (written touching)) "age") ∧
      expand "\x7bre:*\x7bx\x7d\x7d".toList = .ok "*\x7bx\x7d".toList := by
  have h : ¬ ("\x7bre:".toList <+: written touching ∧ (written touching).getLast? = some '}') := by
    decide
  obtain ⟨-, hfirst, hbody⟩ := expansion_of_written touching h
  exact ⟨h, by decide, hfirst.2.2, hbody "*\x7bx\x7d".toList⟩

end Template
end Signpost
