/-
# Expressions as they are written

A phrase is the tree of a text. The reader makes of the text what can be told
from the tree (`readItems_text`): items are pushed on those of the current
branch, a bar begins the next branch, a repetition takes the latest item, and a
group is read for itself. The numbers of the groups depend only on how many are
opened before the phrase.

Whether a phrase is read at all depends only on the names of its groups and
those given before it (`Admits`). If one of them may not stand there, the reader
stops at it (`exists_readItems_error`).

Key definitions: `Draft`, `Phrase`, `Phrase.text`, `Phrase.draft`,
`Phrase.Legible`, `Admits`.
Key theorems: `admits_append`, `admits_iff`, `Phrase.readItems_text`,
`Phrase.exists_readItems_error`, `Phrase.read_text`,
`Phrase.exists_read_error`.
-/
import Signpost.Proofs.Regex.Reading

namespace Signpost
namespace Regex

/-! ### Names -/

/-- The names may be given one after the other, if the ones in `given` are taken. -/
def Admits (given : List String) : List (List Char) → Prop
  | [] => True
  | n :: ns =>
    isGroupName n = true ∧ String.ofList n ∉ given ∧ Admits (String.ofList n :: given) ns

theorem admits_append {ms : List (List Char)} : ∀ {given : List String} {ns : List (List Char)},
    Admits given (ns ++ ms) ↔
      Admits given ns ∧ Admits ((ns.map String.ofList).reverse ++ given) ms
  | given, [] => by simp [Admits]
  | given, n :: ns => by
    rw [List.cons_append, Admits, Admits, admits_append]
    simp [and_assoc]

/-- What that comes to: all of them are names of groups, they are distinct, and
none of them is taken. -/
theorem admits_iff : ∀ {given : List String} {ns : List (List Char)},
    Admits given ns ↔ (∀ n ∈ ns, isGroupName n = true) ∧ (ns.map String.ofList).Nodup ∧
      ∀ n ∈ ns, String.ofList n ∉ given
  | given, [] => by simp [Admits]
  | given, n :: ns => by
    rw [Admits, admits_iff, List.forall_mem_cons, List.forall_mem_cons, List.map_cons,
      List.nodup_cons, List.mem_map]
    simp only [List.mem_cons]
    constructor
    · rintro ⟨hname, hnew, hnames, hdistinct, hfree⟩
      refine ⟨⟨hname, hnames⟩, ⟨?_, hdistinct⟩, hnew, fun m hm hmem => hfree m hm (Or.inr hmem)⟩
      rintro ⟨m, hm, heq⟩
      exact hfree m hm (Or.inl heq)
    · rintro ⟨⟨hname, hnames⟩, ⟨hfirst, hdistinct⟩, hnew, hfree⟩
      refine ⟨hname, hnew, hnames, hdistinct, fun m hm hmem => ?_⟩
      rcases hmem with heq | hmem
      · exact hfirst ⟨m, hm, heq⟩
      · exact hfree m hm hmem

/-! ### Phrases -/

/-- What has been read of a group: the finished branches, and the items of the
current one, the latest first. -/
structure Draft where
  done : List Item := []
  items : List Item := []

namespace Draft

/-- One more item. -/
def push (d : Draft) (item : Item) : Draft := { d with items := item :: d.items }

/-- The next branch. -/
def nextBranch (d : Draft) : Draft := ⟨Item.ofBranch d.items :: d.done, []⟩

/-- The latest item repeated. -/
def repeatLatest (d : Draft) (least : Nat) (most : Option Nat) : Draft :=
  match d.items with
  | [] => d
  | item :: items => { d with items := item.repeated least most :: items }

/-- The item of a group that ends here. -/
def item (d : Draft) : Item := Item.ofBranches (Item.ofBranch d.items :: d.done)

end Draft

/-- An expression as it is written: a text that is read as one item, the bar
between two branches, a phrase with a mark behind it that repeats it, a group
without a number, a group with a number and perhaps a name, and two phrases side
by side. -/
inductive Phrase where
  | nothing
  | atom (text : List Char) (item : Item)
  | bar
  | repeated (body : Phrase) (mark : List Char) (least : Nat) (most : Option Nat)
  | plain (body : Phrase)
  | group (name : Option (List Char)) (body : Phrase)
  | beside (first second : Phrase)

namespace Phrase

/-- The text of a phrase. -/
def text : Phrase → List Char
  | nothing => []
  | atom text _ => text
  | bar => ['|']
  | repeated body mark _ _ => body.text ++ mark
  | plain body => '(' :: '?' :: ':' :: (body.text ++ [')'])
  | group none body => '(' :: (body.text ++ [')'])
  | group (some name) body => '(' :: '?' :: 'P' :: '<' :: (name ++ '>' :: (body.text ++ [')']))
  | beside p q => p.text ++ q.text

/-- The groups with a number in the order in which they are opened, with their
names. -/
def groups : Phrase → List (Option (List Char))
  | nothing => []
  | atom _ _ => []
  | bar => []
  | repeated body _ _ _ => body.groups
  | plain body => body.groups
  | group name body => name :: body.groups
  | beside p q => p.groups ++ q.groups

/-- The names that are given. -/
def names (p : Phrase) : List (List Char) := p.groups.filterMap id

/-- What the draft of a group becomes by a phrase, if `count` groups were opened
before it. -/
def draft : Phrase → Nat → Draft → Draft
  | nothing, _, d => d
  | atom _ item, _, d => d.push item
  | bar, _, d => d.nextBranch
  | repeated body _ least most, count, d => (body.draft count d).repeatLatest least most
  | plain body, count, d =>
    let item := (body.draft count {}).item
    d.push { expr := item.expr, depth := item.depth + 1 }
  | group name body, count, d =>
    let item := (body.draft (count + 1) {}).item
    d.push
      { expr := .group (count + 1) (name.map String.ofList) item.expr, depth := item.depth + 1 }
  | beside p q, count, d => q.draft (count + p.groups.length) (p.draft count d)

/-- True if the phrase is one item that can be repeated. -/
def isUnit : Phrase → Bool
  | atom _ _ => true
  | plain _ => true
  | group _ _ => true
  | _ => false

/-- True if a question mark behind the phrase could be taken for a part of it. -/
def endsOpen : Phrase → Bool
  | repeated _ _ _ _ => true
  | beside p q => p.endsOpen || q.endsOpen
  | _ => false

end Phrase

/-- A text that repeats the item before it, unless a question mark follows. -/
def Repeats (mark : List Char) (least : Nat) (most : Option Nat) : Prop :=
  ∀ (names : Names) (done : List Item) (item : Item) (items : List Item) (rest : List Char)
    (fuel : Nat), item.repeatable = true → rest.head? ≠ some '?' → (mark ++ rest).length < fuel →
    ∃ fuel', rest.length < fuel' ∧
      readItems fuel {} names done (item :: items) (mark ++ rest) =
        readItems fuel' {} names done (item.repeated least most :: items) rest

/-- A text that repeats the item before it, in one step of the reader. -/
theorem repeats_of_step {c : Char} {q : List Char} {least : Nat} {most : Option Nat}
    (h : ∀ (names : Names) (done : List Item) (item : Item) (items : List Item) (rest : List Char)
      (fuel : Nat), readItems (fuel + 1) {} names done (item :: items) (c :: (q ++ rest)) =
        (repeatLatest {} (least, most) (takeLazy rest).1 (item :: items) >>= fun items =>
          readItems fuel {} names done items (takeLazy rest).2)) :
    Repeats (c :: q) least most := by
  intro names done item items rest fuel hrepeatable hrest hfuel
  rw [List.cons_append, List.length_cons, List.length_append] at hfuel
  obtain ⟨k, rfl⟩ : ∃ k, fuel = k + 1 := ⟨fuel - 1, by omega⟩
  refine ⟨k, by omega, ?_⟩
  rw [List.cons_append, h, takeLazy_of_ne hrest, repeatLatest_ok hrepeatable]
  rfl

theorem repeats_question : Repeats ['?'] 0 (some 1) := repeats_of_step fun _ _ _ _ _ _ => rfl

theorem repeats_plus : Repeats ['+'] 1 none := repeats_of_step fun _ _ _ _ _ _ => rfl

theorem repeats_counted {q : List Char} {counts : Counts}
    (h : ∀ rest, readCount {} (q ++ rest) = .ok (counts, rest)) :
    Repeats ('\x7b' :: q) counts.1 counts.2 := by
  refine repeats_of_step fun names done item items rest fuel => ?_
  have hstep : readItems (fuel + 1) {} names done (item :: items) ('\x7b' :: (q ++ rest)) =
      readCount {} (q ++ rest) >>= fun r =>
        repeatLatest {} r.1 (takeLazy r.2).1 (item :: items) >>= fun items =>
          readItems fuel {} names done items (takeLazy r.2).2 := rfl
  rw [hstep, h]
  rfl

namespace Phrase

/-- The text of a phrase can be read, but perhaps for its names. -/
def Legible : Phrase → Prop
  | nothing => True
  | atom text item => item.repeatable = true ∧ ∀ names, ReadsItem names names text item
  | bar => True
  | repeated body mark least most =>
    body.Legible ∧ body.isUnit = true ∧ Repeats mark least most
  | plain body => body.Legible
  | group none body => body.Legible ∧ body.text.head? ≠ some '?'
  | group (some name) body => body.Legible ∧ '>' ∉ name
  | beside p q => p.Legible ∧ q.Legible ∧ q.text.head? ≠ some '?'

theorem names_group (name : Option (List Char)) (body : Phrase) :
    (group name body).names = name.toList ++ body.names := by
  cases name <;> rfl

theorem names_beside (p q : Phrase) : (beside p q).names = p.names ++ q.names :=
  List.filterMap_append

end Phrase

/-- The groups opened after those of a phrase. -/
def Names.after (names : Names) (p : Phrase) : Names :=
  ⟨names.count + p.groups.length, (p.names.map String.ofList).reverse ++ names.given⟩

namespace Phrase

variable {p : Phrase} {names : Names}

/-- A unit is an item that can be repeated. -/
theorem exists_draft_of_isUnit (hlegible : p.Legible) (hunit : p.isUnit = true) (count : Nat)
    (d : Draft) : ∃ item, item.repeatable = true ∧ p.draft count d = d.push item := by
  cases p with
  | atom text item => exact ⟨item, hlegible.1, rfl⟩
  | plain body => exact ⟨_, rfl, rfl⟩
  | group name body => exact ⟨_, rfl, rfl⟩
  | _ => cases hunit

theorem endsOpen_of_isUnit (hunit : p.isUnit = true) : p.endsOpen = false := by
  cases p <;> first | rfl | cases hunit

/-- **A phrase is read as its tree says**, if its names may be given. -/
theorem readItems_text : ∀ {p : Phrase} (names : Names), p.Legible → Admits names.given p.names →
    ∀ (d : Draft) (rest : List Char) (fuel : Nat),
      (p.endsOpen = true → rest.head? ≠ some '?') → (p.text ++ rest).length < fuel →
      ∃ fuel', rest.length < fuel' ∧
        readItems fuel {} names d.done d.items (p.text ++ rest) =
          readItems fuel' {} (names.after p) (p.draft names.count d).done
            (p.draft names.count d).items rest
  | nothing, names, _, _, d, rest, fuel, _, hfuel => ⟨fuel, hfuel, rfl⟩
  | atom text item, names, hlegible, _, d, rest, fuel, _, hfuel =>
    hlegible.2 names d.done d.items rest fuel hfuel
  | bar, names, _, _, d, rest, fuel, _, hfuel => by
    change rest.length + 1 < fuel at hfuel
    obtain ⟨k, rfl⟩ : ∃ k, fuel = k + 1 := ⟨fuel - 1, by omega⟩
    exact ⟨k, by omega, rfl⟩
  | repeated body mark least most, names, ⟨hbody, hunit, hmark⟩, hnames, d, rest, fuel, hrest,
      hfuel => by
    have hlength : (body.text ++ (mark ++ rest)).length < fuel := by
      rwa [← List.append_assoc]
    obtain ⟨k, hk, hread⟩ := readItems_text names hbody hnames d (mark ++ rest) fuel
      (fun h => by rw [endsOpen_of_isUnit hunit] at h; cases h) hlength
    obtain ⟨item, hrepeatable, hdraft⟩ := exists_draft_of_isUnit hbody hunit names.count d
    rw [hdraft] at hread
    obtain ⟨l, hl, hrepeat⟩ :=
      hmark (names.after body) d.done item d.items rest k hrepeatable (hrest rfl) hk
    refine ⟨l, hl, ?_⟩
    show readItems fuel {} names d.done d.items (body.text ++ mark ++ rest) =
      readItems l {} (names.after body) ((body.draft names.count d).repeatLatest least most).done
        ((body.draft names.count d).repeatLatest least most).items rest
    rw [List.append_assoc, hread, hdraft]
    exact hrepeat
  | plain body, names, hlegible, hnames, d, rest, fuel, _, hfuel => by
    have htext : (plain body).text ++ rest = '(' :: '?' :: ':' :: (body.text ++ ')' :: rest) := by
      simp [text]
    rw [htext] at hfuel ⊢
    simp only [List.length_cons] at hfuel
    obtain ⟨k, rfl⟩ : ∃ k, fuel = k + 1 := ⟨fuel - 1, by omega⟩
    obtain ⟨l, hl, hread⟩ := readItems_text (p := body) names hlegible hnames {} (')' :: rest) k
      (fun _ => by simp) (by omega)
    obtain ⟨m, rfl⟩ : ∃ m, l = m + 1 := ⟨l - 1, by omega⟩
    refine ⟨k, ?_, readItems_plain rfl hread⟩
    rw [List.length_append, List.length_cons] at hfuel
    omega
  | group none body, names, ⟨hbody, hhead⟩, hnames, d, rest, fuel, _, hfuel => by
    have htext : (group none body).text ++ rest = '(' :: (body.text ++ ')' :: rest) := by
      simp [text]
    rw [htext] at hfuel ⊢
    rw [List.length_cons] at hfuel
    obtain ⟨k, rfl⟩ : ∃ k, fuel = k + 1 := ⟨fuel - 1, by omega⟩
    obtain ⟨l, hl, hread⟩ := readItems_text (p := body) (names.more 1) hbody hnames {}
      (')' :: rest) k (fun _ => by simp) (by omega)
    obtain ⟨m, rfl⟩ : ∃ m, l = m + 1 := ⟨l - 1, by omega⟩
    have hstart := readGroupStart_unnamed names
      (List.head?_append_ne hhead (show (')' :: rest).head? ≠ some '?' by simp))
    have hafter : (names.more 1).after body = names.after (group none body) := by
      simp only [Names.after, Names.more, groups, names_group, List.length_cons, Option.toList_none,
        List.nil_append, Names.mk.injEq, and_true]
      omega
    refine ⟨k, ?_, ?_⟩
    · rw [List.length_append, List.length_cons] at hfuel
      omega
    · rw [← hafter]
      exact readItems_capture hstart hread
  | group (some name) body, names, ⟨hbody, hclose⟩, hnames, d, rest, fuel, _, hfuel => by
    have htext : (group (some name) body).text ++ rest =
        '(' :: '?' :: 'P' :: '<' :: (name ++ '>' :: (body.text ++ ')' :: rest)) := by
      simp [text]
    rw [htext] at hfuel ⊢
    simp only [List.length_cons, List.length_append] at hfuel
    obtain ⟨k, rfl⟩ : ∃ k, fuel = k + 1 := ⟨fuel - 1, by omega⟩
    rw [names_group] at hnames
    obtain ⟨hname, hnew, hnames⟩ : isGroupName name = true ∧ String.ofList name ∉ names.given ∧
      Admits (String.ofList name :: names.given) body.names := hnames
    obtain ⟨l, hl, hread⟩ := readItems_text (p := body) (names.push name) hbody hnames {}
      (')' :: rest) k (fun _ => by simp) (by simp only [List.length_cons, List.length_append]; omega)
    obtain ⟨m, rfl⟩ : ∃ m, l = m + 1 := ⟨l - 1, by omega⟩
    have hstart := readGroupStart_named hname hclose hnew (body.text ++ ')' :: rest)
    have hafter : (names.push name).after body = names.after (group (some name) body) := by
      simp only [Names.after, Names.push, groups, names_group, List.length_cons, Option.toList_some,
        List.singleton_append, List.map_cons, List.reverse_cons, List.append_assoc, Names.mk.injEq,
        and_true]
      omega
    refine ⟨k, by omega, ?_⟩
    rw [← hafter]
    exact readItems_capture hstart hread
  | beside p q, names, ⟨hp, hq, hhead⟩, hnames, d, rest, fuel, hrest, hfuel => by
    rw [names_beside, admits_append] at hnames
    have hopen : p.endsOpen = true → (q.text ++ rest).head? ≠ some '?' := fun h =>
      List.head?_append_ne hhead (hrest (by simp [endsOpen, h]))
    have hlength : (p.text ++ (q.text ++ rest)).length < fuel := by
      rwa [← List.append_assoc]
    obtain ⟨k, hk, hread⟩ := readItems_text names hp hnames.1 d (q.text ++ rest) fuel hopen hlength
    obtain ⟨l, hl, hread'⟩ := readItems_text (names.after p) hq hnames.2
      (p.draft names.count d) rest k (fun h => hrest (by simp [endsOpen, h])) hk
    have hafter : (names.after p).after q = names.after (beside p q) := by
      simp [Names.after, groups, names_beside, Nat.add_assoc]
    refine ⟨l, hl, ?_⟩
    rw [← hafter]
    show readItems fuel {} names d.done d.items (p.text ++ q.text ++ rest) = _
    rw [List.append_assoc, hread]
    exact hread'

/-- What stops the reader inside of a group stops it. -/
theorem readItems_open_error {inside cs : List Char} {done items : List Item} {fuel : Nat}
    {name : Option String} {fault : Fault}
    (hstart : readGroupStart {} names cs = .ok (.capture name, inside))
    (hbody : readItems fuel {} ⟨names.count + 1, name.toList ++ names.given⟩ [] [] inside =
      .error fault) :
    readItems (fuel + 1) {} names done items ('(' :: cs) = .error fault := by
  rw [readItems_open, hstart]
  show (readItems fuel {} ⟨names.count + 1, name.toList ++ names.given⟩ [] [] inside >>= _) = _
  rw [hbody]
  rfl

/-- **A phrase is not read** if one of its names may not be given. -/
theorem exists_readItems_error : ∀ {p : Phrase} (names : Names), p.Legible →
    ¬ Admits names.given p.names →
    ∀ (d : Draft) (rest : List Char) (fuel : Nat),
      (p.endsOpen = true → rest.head? ≠ some '?') → (p.text ++ rest).length < fuel →
      ∃ fault, readItems fuel {} names d.done d.items (p.text ++ rest) = .error fault
  | nothing, _, _, hnames, _, _, _, _, _ => absurd trivial hnames
  | atom _ _, _, _, hnames, _, _, _, _, _ => absurd trivial hnames
  | bar, _, _, hnames, _, _, _, _, _ => absurd trivial hnames
  | repeated body mark least most, names, ⟨hbody, hunit, _⟩, hnames, d, rest, fuel, _, hfuel => by
    have hlength : (body.text ++ (mark ++ rest)).length < fuel := by
      rwa [← List.append_assoc]
    obtain ⟨fault, hread⟩ := exists_readItems_error names hbody hnames d (mark ++ rest) fuel
      (fun h => by rw [endsOpen_of_isUnit hunit] at h; cases h) hlength
    exact ⟨fault, by rw [text, List.append_assoc, hread]⟩
  | plain body, names, hlegible, hnames, d, rest, fuel, _, hfuel => by
    have htext : (plain body).text ++ rest = '(' :: '?' :: ':' :: (body.text ++ ')' :: rest) := by
      simp [text]
    rw [htext] at hfuel ⊢
    simp only [List.length_cons] at hfuel
    obtain ⟨k, rfl⟩ : ∃ k, fuel = k + 1 := ⟨fuel - 1, by omega⟩
    obtain ⟨fault, hread⟩ := exists_readItems_error (p := body) names hlegible hnames {}
      (')' :: rest) k (fun _ => by simp) (by omega)
    refine ⟨fault, ?_⟩
    rw [readItems_open]
    show (readItems k {} names [] [] (body.text ++ ')' :: rest) >>= _) = _
    rw [hread]
    rfl
  | group none body, names, ⟨hbody, hhead⟩, hnames, d, rest, fuel, _, hfuel => by
    have htext : (group none body).text ++ rest = '(' :: (body.text ++ ')' :: rest) := by
      simp [text]
    rw [htext] at hfuel ⊢
    rw [List.length_cons] at hfuel
    obtain ⟨k, rfl⟩ : ∃ k, fuel = k + 1 := ⟨fuel - 1, by omega⟩
    have hstart := readGroupStart_unnamed names
      (List.head?_append_ne hhead (show (')' :: rest).head? ≠ some '?' by simp))
    obtain ⟨fault, hread⟩ := exists_readItems_error (p := body) (names.more 1) hbody hnames {}
      (')' :: rest) k (fun _ => by simp) (by omega)
    exact ⟨fault, readItems_open_error hstart hread⟩
  | group (some name) body, names, ⟨hbody, hclose⟩, hnames, d, rest, fuel, _, hfuel => by
    have htext : (group (some name) body).text ++ rest =
        '(' :: '?' :: 'P' :: '<' :: (name ++ '>' :: (body.text ++ ')' :: rest)) := by
      simp [text]
    rw [htext] at hfuel ⊢
    simp only [List.length_cons, List.length_append] at hfuel
    obtain ⟨k, rfl⟩ : ∃ k, fuel = k + 1 := ⟨fuel - 1, by omega⟩
    rw [names_group] at hnames
    by_cases hname : isGroupName name = true
    case neg => exact ⟨_, readItems_badGroupName (Bool.eq_false_iff.mpr hname) hclose⟩
    by_cases hnew : String.ofList name ∈ names.given
    case pos =>
      refine ⟨.repeatedGroupName (String.ofList name), ?_⟩
      rw [readItems_open]
      show ((readGroupName names (name ++ '>' :: (body.text ++ ')' :: rest))).map _ >>= _) = _
      rw [readGroupName_repeated hname hclose hnew]
      rfl
    have hnames' : ¬ Admits (names.push name).given body.names := fun h => hnames ⟨hname, hnew, h⟩
    have hstart := readGroupStart_named hname hclose hnew (body.text ++ ')' :: rest)
    obtain ⟨fault, hread⟩ := exists_readItems_error (p := body) (names.push name) hbody hnames' {}
      (')' :: rest) k (fun _ => by simp) (by simp only [List.length_cons, List.length_append]; omega)
    exact ⟨fault, readItems_open_error hstart hread⟩
  | beside p q, names, ⟨hp, hq, hhead⟩, hnames, d, rest, fuel, hrest, hfuel => by
    rw [names_beside, admits_append] at hnames
    have hopen : p.endsOpen = true → (q.text ++ rest).head? ≠ some '?' := fun h =>
      List.head?_append_ne hhead (hrest (by simp [endsOpen, h]))
    have hlength : (p.text ++ (q.text ++ rest)).length < fuel := by
      rwa [← List.append_assoc]
    rw [text, List.append_assoc]
    -- the reader stops in the first phrase, or else comes to the second
    by_cases hfirst : Admits names.given p.names
    · obtain ⟨k, hk, hread⟩ := readItems_text names hp hfirst d (q.text ++ rest) fuel hopen hlength
      rw [hread]
      exact exists_readItems_error (names.after p) hq (fun h => hnames ⟨hfirst, h⟩) _ rest k
        (fun h => hrest (by simp [endsOpen, h])) hk
    · exact exists_readItems_error names hp hfirst d (q.text ++ rest) fuel hopen hlength

/-! ### A whole expression -/

/-- A phrase whose names may be given is an expression, unless it nests too
deeply. -/
theorem read_text (hlegible : p.Legible) (hnames : Admits [] p.names) :
    read p.text = if depthLimit < (p.draft 0 {}).item.depth then .error .nestedTooDeep
      else .ok (p.draft 0 {}).item.expr := by
  obtain ⟨k, hk, hread⟩ := readItems_text {} hlegible hnames {} [] (p.text.length + 1)
    (fun _ => by simp) (by simp)
  obtain ⟨l, rfl⟩ : ∃ l, k = l + 1 := ⟨k - 1, by simp at hk; omega⟩
  rw [List.append_nil] at hread
  unfold read
  rw [hread]
  rfl

/-- A phrase with a name that may not be given is no expression. -/
theorem exists_read_error (hlegible : p.Legible) (hnames : ¬ Admits [] p.names) :
    ∃ fault, read p.text = .error fault := by
  obtain ⟨fault, hread⟩ := exists_readItems_error {} hlegible hnames {} [] (p.text.length + 1)
    (fun _ => by simp) (by simp)
  rw [List.append_nil] at hread
  refine ⟨fault, ?_⟩
  unfold read
  rw [hread]
  rfl

/-! ### Common phrases -/

/-- A character that stands for itself. -/
def literal (c : Char) : Phrase := atom [c] { expr := ({} : Flags).literal c }

/-- A class in brackets, with its text after the first of them. -/
def ofClass (text : List Char) (s : CharSet) (depth : Nat) : Phrase :=
  atom ('[' :: text) { expr := .set .unicode s, depth := depth }

/-- A phrase that may be left out. -/
def perhaps (body : Phrase) : Phrase := repeated body ['?'] 0 (some 1)

/-- A phrase once or more. -/
def several (body : Phrase) : Phrase := repeated body ['+'] 1 none

/-- A phrase a number of times, with the text of the counts after the brace. -/
def times (body : Phrase) (counts : List Char) (least most : Nat) : Phrase :=
  repeated body ('\x7b' :: counts) least (some most)

/-- Phrases side by side. -/
def row : List Phrase → Phrase
  | [] => nothing
  | [p] => p
  | p :: ps => beside p (row ps)

/-- The phrase is legible, and begins with a character that is no question mark. So
it can stand anywhere. -/
structure Sound (p : Phrase) : Prop where
  legible : p.Legible
  begins : ∃ c cs, p.text = c :: cs ∧ c ≠ '?'

namespace Sound

variable {body q : Phrase}

theorem head?_ne (h : p.Sound) : p.text.head? ≠ some '?' := by
  obtain ⟨c, cs, htext, hc⟩ := h.begins
  rw [htext]
  simpa using hc

theorem beside (h : p.Sound) (h' : q.Sound) : (beside p q).Sound := by
  obtain ⟨c, cs, htext, hc⟩ := h.begins
  exact ⟨⟨h.legible, h'.legible, h'.head?_ne⟩, c, cs ++ q.text, by simp [text, htext], hc⟩

theorem repeated {mark : List Char} {least : Nat} {most : Option Nat} (h : body.Sound)
    (hunit : body.isUnit = true) (hmark : Repeats mark least most) :
    (repeated body mark least most).Sound := by
  obtain ⟨c, cs, htext, hc⟩ := h.begins
  exact ⟨⟨h.legible, hunit, hmark⟩, c, cs ++ mark, by simp [text, htext], hc⟩

theorem perhaps (h : body.Sound) (hunit : body.isUnit = true) : (perhaps body).Sound :=
  h.repeated hunit repeats_question

theorem several (h : body.Sound) (hunit : body.isUnit = true) : (several body).Sound :=
  h.repeated hunit repeats_plus

theorem times {counts : List Char} {least most : Nat} (h : body.Sound)
    (hunit : body.isUnit = true)
    (hcounts : ∀ rest, readCount {} (counts ++ rest) = .ok ((least, some most), rest)) :
    (times body counts least most).Sound := h.repeated hunit (repeats_counted hcounts)

theorem plain (h : body.Sound) : (plain body).Sound := ⟨h.legible, '(', _, rfl, by decide⟩

theorem unnamed (h : body.Sound) : (group none body).Sound :=
  ⟨⟨h.legible, h.head?_ne⟩, '(', _, rfl, by decide⟩

theorem named {name : List Char} (h : body.Sound) (hclose : '>' ∉ name) :
    (group (some name) body).Sound := ⟨⟨h.legible, hclose⟩, '(', _, rfl, by decide⟩

end Sound

theorem sound_bar : bar.Sound := ⟨trivial, '|', [], rfl, by decide⟩

theorem sound_literal {c : Char} (hc : c ∉ specials) : (literal c).Sound :=
  ⟨⟨rfl, fun _ => readsItem_literal hc⟩, c, [], rfl, fun he => hc (he ▸ by decide)⟩

theorem sound_ofClass {text : List Char} {s : CharSet} {depth : Nat}
    (h : ∀ rest, readClass {} (text ++ rest) = .ok (s, depth, rest))
    (hset : Expr.ofSet .unicode s = .set .unicode s) : (ofClass text s depth).Sound := by
  refine ⟨⟨rfl, fun names => ?_⟩, '[', text, rfl, by decide⟩
  have hread : ReadsItem names names ('[' :: text)
      { expr := Expr.ofSet .unicode s, depth := depth } := readsItem_class h
  rwa [hset] at hread

/-! ### Characters that stand for themselves -/

/-- A text is the phrase of characters that stand for themselves. -/
theorem text_literals : ∀ cs : List Char, (row (cs.map literal)).text = cs
  | [] => rfl
  | [_] => rfl
  | c :: d :: cs => congrArg (c :: ·) (text_literals (d :: cs))

/-- Such a phrase can be read, if none of the characters has a meaning of its own. -/
theorem legible_literals : ∀ {cs : List Char}, (∀ c ∈ cs, c ∉ specials) →
    (row (cs.map literal)).Legible
  | [], _ => trivial
  | [c], h => (sound_literal (h c List.mem_cons_self)).legible
  | c :: d :: cs, h => by
    have hrest : ∀ e ∈ d :: cs, e ∉ specials := fun e he => h e (List.mem_cons_of_mem c he)
    refine ⟨(sound_literal (h c List.mem_cons_self)).legible, legible_literals hrest, ?_⟩
    have htext : (row ((d :: cs).map literal)).text = d :: cs := text_literals _
    show (row ((d :: cs).map literal)).text.head? ≠ some '?'
    rw [htext]
    intro heq
    exact hrest d List.mem_cons_self (Option.some.inj heq ▸ by decide)

theorem groups_literals : ∀ cs : List Char,
    (row (cs.map literal)).groups = []
  | [] => rfl
  | [_] => rfl
  | _ :: d :: cs => groups_literals (d :: cs)

end Phrase
end Regex
end Signpost
