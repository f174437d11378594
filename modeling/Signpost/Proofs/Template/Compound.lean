/-
# Compound segments

A compound segment is words with separators between them, and a template for such
segments has a placeholder for each word and the separators between these
(`Compound.template`). A separator has no meaning of its own in an expression, and it
is in no word. So the template is read as the groups of the words with the separators
between them, and a segment that it matches can be taken apart in one way only
(`Compound.text_injective`): the groups hold just the words (`compile_compound`).

Key definitions: `Delimiter`, `Compound`, `Compound.template`, `Compound.phrase`,
`Compound.exprs`, `Compound.held`.
Key theorems: `Compound.text_injective`, `Compound.source_template`,
`Compound.renders_exprs`, `compile_compound`.
-/
import Signpost.Proofs.Extra
import Signpost.Proofs.Template.Accepted

namespace Signpost

/-- Where all groups have different names, they hold what is told under the names. -/
theorem Regex.groups_of_held? {r : Regex} {text : String} {found : Match}
    (hfound : r.captures? text = some found) {names values : List String}
    (hnames : r.groupNames = names.map some) (hdistinct : names.Nodup)
    (hheld : (names.map fun name => r.held? found name) = values.map fun value => some (some value)) :
    found.groups = values.map some := by
  have hkeys : ((r.groupNames.zip found.groups).map (·.1)).Nodup := by
    rw [List.map_fst_zip (Nat.le_of_eq (length_groups hfound).symm), hnames]
    exact hdistinct.map (Option.some_injective String)
  have hkeyed : ∀ f : Option String → Option (Option String),
      r.groupNames.map f = names.map fun name => f (some name) := fun f => by
    rw [hnames, List.map_map]
    rfl
  refine List.map_injective_iff.mpr (Option.some_injective _) ?_
  calc found.groups.map some
      = r.groupNames.map fun key => (r.groupNames.zip found.groups).lookup key :=
        (List.map_lookup_eq hkeys (length_groups hfound) fun _ hp => hp).symm
    _ = names.map fun name => r.held? found name := hkeyed _
    _ = (values.map some).map some := by
        rw [hheld, List.map_map]
        rfl

namespace Template

open Regex
open Placeholder (scalarExpr depthBound)

/-! ### Words and separators -/

theorem Word.chars_injective : Function.Injective Word.chars := by
  rintro ⟨cs, _⟩ ⟨_, _⟩ rfl
  rfl

/-- A word as a run of characters. -/
def Word.run (w : Word) : Run isNameChar 1 none where
  chars := w.chars
  all := w.isWord.2
  least_le := List.length_pos_iff.mpr w.isWord.1
  le_most := by simp

theorem Word.run_injective : Function.Injective Word.run := fun _ _ h =>
  Word.chars_injective (congrArg Run.chars h)

theorem Word.run_surjective : Function.Surjective Word.run := fun run =>
  ⟨⟨run.chars, List.length_pos_iff.mp run.least_le, run.all⟩, rfl⟩

theorem renders_word : Renders (scalarExpr .word).Yields Word.chars noneHeld := by
  have hrun : Renders (scalarExpr .word).Yields (Run.chars : Run isNameChar 1 none → List Char)
      noneHeld := renders_run contains_word (by simp)
  exact hrun.map Word.run Word.run_surjective (fun _ => rfl) fun _ => rfl

/-- A word ends where a character follows that is in none. -/
theorem readable_word : Readable Word.chars (Stops isNameChar) :=
  readable_run.of_injective Word.run Word.run_injective fun _ => rfl

/-- What may stand between two words. -/
abbrev Delimiter : Type := Among ['@', '-', ',', ';', ':', '=', '~']

/-- A separator is in no word, and has no meaning of its own. -/
theorem Delimiter.plain (s : Delimiter) : isNameChar s.1 = false ∧ s.1 ∉ specials := by
  have hall : ∀ c ∈ ['@', '-', ',', ';', ':', '=', '~'], isNameChar c = false ∧ c ∉ specials :=
    List.forall_iff_forall_mem.mp (by decide)
  exact hall s.1 s.2

/-- A separator as a text that is kept. -/
def Delimiter.kept (s : Delimiter) : Verbatim where
  chars := [s.1]
  plain c hc := by
    rw [List.mem_singleton.mp hc]
    exact ⟨fun h => s.plain.2 (h ▸ by decide), fun h => s.plain.2 (h ▸ by decide)⟩

/-! ### Compounds -/

/-- One word or more, with a separator between each and the next. -/
inductive Compound where
  | one (word : Word)
  | more (word : Word) (separator : Delimiter) (rest : Compound)

namespace Compound

/-- The words in their order. -/
def words : Compound → List Word
  | one word => [word]
  | more word _ rest => word :: rest.words

/-- The separators in their order. -/
def separators : Compound → List Delimiter
  | one _ => []
  | more _ separator rest => separator :: rest.separators

/-- A compound with each word written in a certain way. -/
def spelled (spell : Word → List Char) : Compound → List Char
  | one word => spell word
  | more word separator rest => spell word ++ separator.1 :: rest.spelled spell

/-- A compound as it stands in a segment. -/
def text : Compound → List Char := spelled Word.chars

/-- The template with a placeholder for each word, that has the word for its name. -/
def template (c : Compound) : String :=
  String.ofList (c.spelled fun name => (single .word name.text).toList)

/-- **A compound is told from its text**, for the separators are in no word. -/
theorem text_injective : Function.Injective text
  | one word, one word', h => congrArg one (Word.chars_injective h)
  | one word, more word' s rest, h => by
    have heq : word.chars ++ [] = word'.chars ++ (s.1 :: rest.text) := by
      rw [List.append_nil]
      exact h
    cases (readable_word _ _ _ _ (stops_nil _) (stops_cons.mpr s.plain.1) heq).2
  | more word s rest, one word', h => by
    have heq : word.chars ++ (s.1 :: rest.text) = word'.chars ++ [] := by
      rw [List.append_nil]
      exact h
    cases (readable_word _ _ _ _ (stops_cons.mpr s.plain.1) (stops_nil _) heq).2
  | more word s rest, more word' s' rest', h => by
    obtain ⟨rfl, hrest⟩ := readable_word _ _ _ _ (stops_cons.mpr s.plain.1)
      (stops_cons.mpr s'.plain.1) h
    obtain ⟨hs, hrest⟩ := List.cons.inj hrest
    obtain rfl := text_injective hrest
    rw [Subtype.ext hs]

/-! ### What the template is read as -/

theorem isWord_wordKind : IsWord "word".toList := isWord_of_all (by decide) rfl

/-- The kind of the placeholders. -/
def wordKind : Word := ⟨"word".toList, isWord_wordKind⟩

/-- The template as the tokens that it is written as. -/
def tokens : Compound → List Token
  | one name => [.typed wordKind name]
  | more name s rest => .typed wordKind name :: .text s.kept :: rest.tokens

/-- The phrase of the template. -/
def phrase : Compound → Phrase
  | one name => Placeholder.word.phrase name.chars
  | more name s rest =>
    .beside (Placeholder.word.phrase name.chars) (.beside (.literal s.1) rest.phrase)

/-- The expressions that it means, if `count` groups were opened before it. -/
def exprs : Compound → Nat → List Expr
  | one name, count => Placeholder.word.exprs name.chars count
  | more name s rest, count =>
    Placeholder.word.exprs name.chars count ++ .char s.1 :: rest.exprs (count + 1)

theorem written_typed (name : Word) :
    (Token.typed wordKind name).written = (single .word name.text).toList := by
  rw [single, String.toList_ofList, Word.toList_text]
  simp [Token.written, inside, Placeholder.kindName, wordKind]

theorem written_tokens : ∀ c : Compound,
    written c.tokens = c.spelled fun name => (single .word name.text).toList
  | one name => by
    rw [tokens, written, List.flatMap_singleton, written_typed]
    rfl
  | more name s rest => by
    have ih : rest.tokens.flatMap Token.written = _ := written_tokens rest
    rw [tokens, written, List.flatMap_cons, List.flatMap_cons, ih, written_typed]
    rfl

theorem text_phrase : ∀ c : Compound, c.phrase.text = c.tokens.flatMap Token.grammar
  | one name => by
    rw [tokens, List.flatMap_singleton]
    exact Placeholder.text_phrase .word name.chars
  | more name s rest => by
    rw [tokens, List.flatMap_cons, List.flatMap_cons, ← text_phrase rest]
    exact congrArg (· ++ s.1 :: rest.phrase.text) (Placeholder.text_phrase .word name.chars)

theorem sound_phrase : ∀ c : Compound, c.phrase.Sound
  | one name => Placeholder.sound_phrase (close_not_mem name.isWord.2) .word
  | more name s rest => (Placeholder.sound_phrase (close_not_mem name.isWord.2) .word).beside
    ((Phrase.sound_literal s.plain.2).beside rest.sound_phrase)

theorem groups_phrase : ∀ c : Compound, c.phrase.groups = c.words.map fun name => some name.chars
  | one _ => rfl
  | more name _ rest => congrArg (some name.chars :: ·) rest.groups_phrase

theorem names_phrase (c : Compound) : c.phrase.names = c.words.map Word.chars := by
  rw [Phrase.names, groups_phrase, List.filterMap_map]
  exact congrFun (List.filterMap_eq_map (f := Word.chars)) c.words

theorem means_phrase : ∀ (c : Compound) (count : Nat),
    c.phrase.Means count (c.exprs count) depthBound
  | one name, count => Placeholder.means_phrase .word name.chars count
  | more name s rest, count =>
    (Placeholder.means_phrase .word name.chars count).beside
      ((Phrase.means_literal s.1).beside (rest.means_phrase (count + 1)))

theorem isFree_exprs : ∀ (c : Compound) (count : Nat), ∀ e ∈ c.exprs count, e.isFree = true
  | one _, _, e, hmem => by
    rw [List.mem_singleton.mp hmem]
    rfl
  | more _ _ rest, count, e, hmem => by
    rcases List.mem_cons.mp hmem with rfl | hmem
    · rfl
    · rcases List.mem_cons.mp hmem with rfl | hmem
      · rfl
      · exact isFree_exprs rest (count + 1) e hmem

/-- The template begins with a placeholder of a kind, so it is no expression of its own. -/
theorem not_custom (c : Compound) : ¬ "\x7bre:".toList <+: written c.tokens := by
  have hfirst : ∀ (name : Word) (ts : List Token),
      ¬ "\x7bre:".toList <+: written (.typed wordKind name :: ts) := fun name ts h =>
    absurd (List.cons_prefix_cons.mp (List.cons_prefix_cons.mp h).2).1 (by decide)
  cases c with
  | one name => exact hfirst name []
  | more name s rest => exact hfirst name _

theorem unknown?_tokens : ∀ c : Compound, c.tokens.findSome? Token.unknown? = none := by
  have hkind : wordKind.text ∈ kinds := by decide
  have htyped : ∀ name, (Token.typed wordKind name).unknown? = none := by
    intro name
    rw [Token.unknown?, if_pos hkind]
  intro c
  induction c with
  | one name => rw [tokens, List.findSome?_singleton, htyped]
  | more name s rest ih =>
    rw [tokens, List.findSome?_cons, htyped]
    exact ih

/-- The text of the expression that the template stands for. -/
theorem source_template (c : Compound) : source c.template = .ok c.phrase.anchored.text := by
  have hexpand := expand_written fun hcustom => c.not_custom hcustom.1
  rw [unknown?_tokens] at hexpand
  rw [source, template, ← written_tokens, String.toList_ofList, hexpand, Phrase.text_anchored,
    text_phrase]

/-! ### What it yields -/

/-- What the groups hold of a segment: the first group its first word, and so on. -/
def held (c segment : Compound) : Held :=
  ((c.words.map Word.text).zip (segment.words.map Word.chars)).reverse

/-- **What the expressions yield**: the compounds with the same separators. -/
theorem renders_exprs : ∀ (c : Compound) (count : Nat),
    Renders (Expr.YieldsAll (c.exprs count))
      (fun segment : { segment : Compound // segment.separators = c.separators } => segment.1.text)
      (fun segment => c.held segment.1)
  | one name, count => by
    have hword : Renders (Expr.YieldsAll [.group (count + 1) (some name.text) (scalarExpr .word)])
        Word.chars (fun word => [(name.text, word.chars)]) := renders_word.named.last
    refine hword.made (fun word => ⟨one word, rfl⟩) ?_ (fun _ => rfl) fun _ => rfl
    rintro ⟨segment, hsegment⟩
    cases segment with
    | one word => exact ⟨word, rfl⟩
    | more word s rest => cases hsegment
  | more name s rest, count => by
    have ih := renders_exprs rest (count + 1)
    have hword : Renders (Expr.group (count + 1) (some name.text) (scalarExpr .word)).Yields
        Word.chars (fun word => [(name.text, word.chars)]) := renders_word.named
    have hboth := hword.cons ((renders_char s.1).after ih)
    refine hboth.made (fun x => ⟨more x.1 s x.2.1, congrArg (s :: ·) x.2.2⟩) ?_ (fun _ => rfl) ?_
    · rintro ⟨segment, hsegment⟩
      cases segment with
      | one word => cases hsegment
      | more word s' segment =>
        obtain ⟨rfl, hrest⟩ := List.cons.inj hsegment
        exact ⟨(word, ⟨segment, hrest⟩), rfl⟩
    · rintro ⟨word, segment⟩
      exact List.reverse_cons

theorem length_words (c : Compound) : c.words.length = c.separators.length + 1 := by
  induction c with
  | one word => rfl
  | more word s rest ih => exact congrArg (· + 1) ih

/-- What the groups hold, by their names: the words in their order. -/
theorem map_lookup_held {c segment : Compound} (hdistinct : (c.words.map Word.text).Nodup)
    (hlike : segment.separators = c.separators) :
    ((c.words.map Word.text).map fun name => (c.held segment).lookup name) =
      (segment.words.map Word.chars).map some := by
  have hlength : (segment.words.map Word.chars).length = (c.words.map Word.text).length := by
    rw [List.length_map, List.length_map, length_words, length_words, hlike]
  have hnodup : ((c.held segment).map (·.1)).Nodup := by
    rw [held, List.map_reverse, List.nodup_reverse, List.map_fst_zip (Nat.le_of_eq hlength.symm)]
    exact hdistinct
  exact List.map_lookup_eq hnodup hlength fun p hp => List.mem_reverse.mpr hp

/-- **The template compiles** to the groups of the words with the separators between
them, if it is not too large. -/
theorem compile_template (c : Compound) (hbegins : ∀ name ∈ c.words, BeginsWell name.chars)
    (hdistinct : (c.words.map Word.text).Nodup)
    (hsize : ∀ text, source c.template = .ok text → Regex.compile text ≠ .error .tooLarge) :
    ∃ r, compile c.template = .ok r ∧ Framed r (.branch (c.exprs 0)) c.phrase.groups := by
  have hnames : Admits [] c.phrase.names := by
    rw [admits_iff, names_phrase, List.forall_mem_map, List.map_map]
    exact ⟨fun name hname => (isGroupName_iff name.isWord).mpr (hbegins name hname), hdistinct,
      fun _ _ => List.not_mem_nil⟩
  have hread := Phrase.read_anchored c.sound_phrase.legible hnames (c.means_phrase 0).body (by decide)
  obtain ⟨r, hr, hexpr⟩ := compile_of_fits c.source_template hread (hsize _ c.source_template)
  have hgroups : (Expr.branch (c.exprs 0)).groups = numbered 0 c.phrase.groups := by
    rw [Expr.groups_branch, (c.means_phrase 0).2]
  exact ⟨r, hr, hexpr, Expr.isFree_branch (c.isFree_exprs 0), hgroups,
    (admits_iff.mp hnames).2.1.of_map String.ofList⟩

end Compound

/-- **Compound segments.** Let a template be one placeholder for words or more, with a
separator between each and the next, and let its expression not be too large. If the
names are distinct and begin well, it compiles, and its groups have these names, in
their order. It matches a segment just if this is as many words with the same
separators between them. There is one way only to take the segment apart, and each
group then holds the word in its place. -/
theorem compile_compound (c : Compound) (hbegins : ∀ name ∈ c.words, BeginsWell name.chars)
    (hdistinct : (c.words.map Word.text).Nodup)
    (hsize : ∀ text, source c.template = .ok text → Regex.compile text ≠ .error .tooLarge) :
    ∃ r, compile c.template = .ok r ∧ r.groupNames = c.words.map (fun name => some name.text) ∧
      (∀ segment : String, r.isMatch segment = true ↔
        ∃ taken : Compound, taken.separators = c.separators ∧ segment.toList = taken.text) ∧
      ∀ (segment : String) (taken : Compound), taken.separators = c.separators →
        segment.toList = taken.text →
        (∀ taken' : Compound, segment.toList = taken'.text → taken' = taken) ∧
        ∃ found, r.captures? segment = some found ∧ found.whole = segment ∧
          found.groups = taken.words.map fun word => some word.text := by
  obtain ⟨r, hr, hframed⟩ := c.compile_template hbegins hdistinct hsize
  have hgroupNames : r.groupNames = c.words.map fun name => some name.text := by
    rw [hframed.groupNames_eq, Compound.groups_phrase, List.map_map]
    rfl
  have hinj : Function.Injective fun taken :
      { taken : Compound // taken.separators = c.separators } => taken.1.text := fun _ _ h =>
    Subtype.ext (Compound.text_injective h)
  obtain ⟨hmatch, hheld⟩ := hframed.accepts (c.renders_exprs 0) hinj
  refine ⟨r, hr, hgroupNames, fun segment => ?_, fun segment taken hlike htext =>
    ⟨fun taken' htext' => Compound.text_injective (htext'.symm.trans htext), ?_⟩⟩
  · rw [hmatch]
    exact ⟨fun ⟨⟨taken, hlike⟩, htext⟩ => ⟨taken, hlike, htext⟩,
      fun ⟨taken, hlike, htext⟩ => ⟨⟨taken, hlike⟩, htext⟩⟩
  · obtain ⟨found, hfound, hwhole, hholds⟩ := hheld segment ⟨taken, hlike⟩ htext
    refine ⟨found, hfound, hwhole, ?_⟩
    have hwords : ∀ name ∈ c.words, r.held? found name.text =
        some (((c.held taken).lookup name.text).map String.ofList) := by
      intro name hmem
      refine hholds name.chars ?_
      rw [Compound.groups_phrase]
      exact List.mem_map_of_mem hmem
    have hnames : r.groupNames = (c.words.map Word.text).map some := by
      rw [hgroupNames, List.map_map]
      rfl
    have hall : ((c.words.map Word.text).map fun name => r.held? found name) =
        (taken.words.map Word.text).map fun value => some (some value) := by
      calc ((c.words.map Word.text).map fun name => r.held? found name)
          = c.words.map fun name =>
              some (((c.held taken).lookup name.text).map String.ofList) := by
            rw [List.map_map]
            exact List.map_congr_left hwords
        _ = ((c.words.map Word.text).map fun name => (c.held taken).lookup name).map
              fun value => some (value.map String.ofList) := by
            rw [List.map_map, List.map_map]
            rfl
        _ = (taken.words.map Word.text).map fun value => some (some value) := by
            rw [Compound.map_lookup_held hdistinct hlike, List.map_map, List.map_map, List.map_map]
            rfl
    rw [groups_of_held? hfound hnames hdistinct hall, List.map_map]
    rfl

/-- The words `a` and `b` with a hyphen between them. -/
def hyphened : Compound :=
  .more ⟨['a'], isWord_of_all (by decide) rfl⟩ ⟨'-', by decide⟩
    (.one ⟨['b'], isWord_of_all (by decide) rfl⟩)

/-- The segment `x` and `y` with a given separator between them. -/
def pair (s : Delimiter) : Compound :=
  .more ⟨['x'], isWord_of_all (by decide) rfl⟩ s (.one ⟨['y'], isWord_of_all (by decide) rfl⟩)

/-- The template takes the words on both sides of a hyphen, and no other separator. -/
theorem compile_compound_hyphened :
    hyphened.template = "\x7bword:a\x7d-\x7bword:b\x7d" ∧
      (∀ name ∈ hyphened.words, BeginsWell name.chars) ∧ (hyphened.words.map Word.text).Nodup ∧
      ∃ r, compile hyphened.template = .ok r ∧ r.groupNames = [some "a", some "b"] ∧
        r.isMatch "x,y" = false ∧
        ∃ found, r.captures? "x-y" = some found ∧ found.groups = [some "x", some "y"] := by
  have hbegins : ∀ name ∈ hyphened.words, BeginsWell name.chars := by
    simp only [hyphened, Compound.words, List.forall_mem_cons]
    decide
  have hdistinct : (hyphened.words.map Word.text).Nodup := by decide
  have hfits : ((source hyphened.template).toOption.map fun text =>
      (Regex.compile text).toOption.isSome) = some true := by decide +kernel
  obtain ⟨r, hr, hnames, hmatch, hgroups⟩ := compile_compound hyphened hbegins hdistinct
    fun text htext hlarge => by
      rw [htext] at hfits
      simp only [Except.toOption, Option.map_some, hlarge] at hfits
      cases hfits
  have hlike : (pair ⟨'-', by decide⟩).separators = hyphened.separators := rfl
  obtain ⟨-, found, hfound, -, hheld⟩ := hgroups "x-y" (pair ⟨'-', by decide⟩) hlike rfl
  refine ⟨by decide, hbegins, hdistinct, r, hr, hnames, ?_, found, hfound, hheld⟩
  rw [Bool.eq_false_iff]
  intro hcomma
  obtain ⟨taken, hsame, htext⟩ := (hmatch "x,y").mp hcomma
  have htext' : (pair ⟨',', by decide⟩).text = taken.text := htext
  rw [← Compound.text_injective htext'] at hsame
  exact absurd hsame (by decide)

end Template
end Signpost
