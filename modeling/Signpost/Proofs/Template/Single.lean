/-
# Templates that are one placeholder

A template may be one placeholder as a whole, `{name}` or `{kind:name}`. Then
it stands for the grammar of its kind, and if it compiles, the expression
is its group between the two anchors: the first group, which has the name of
the placeholder (`expr_of_compile_single`).

Key definitions: `Placeholder.kindName`, `Template.single`, `Template.IsWord`.
Key theorems: `Template.expand_single`, `Template.admits_of_compile_single`,
`Template.expr_of_compile_single`.
-/
import Signpost.Proofs.Template.Shape
import Signpost.Template.Compile

namespace Signpost

/-- How a placeholder asks for its kind; the one that catches all does not. -/
def Placeholder.kindName : Placeholder → Option String
  | catchAll => none
  | word => some "word"
  | uint => some "uint"
  | int => some "int"
  | float => some "float"
  | hex => some "hex"
  | uuid => some "uuid"
  | date => some "date"
  | geo => some "geo"

theorem Placeholder.ofKind?_kindName (kind : Placeholder) : ofKind? kind.kindName = some kind := by
  cases kind <;> rfl

namespace Template

open Regex

/-- The text between the braces of a placeholder. -/
def inside (kind : Placeholder) (name : List Char) : List Char :=
  match kind.kindName with
  | none => name
  | some k => k.toList ++ ':' :: name

/-- The template that is one placeholder, of the given kind and name. -/
def single (kind : Placeholder) (name : String) : String :=
  String.ofList ('\x7b' :: (inside kind name.toList ++ ['\x7d']))

/-- A name as placeholders have them. -/
def IsWord (name : List Char) : Prop := name ≠ [] ∧ ∀ c ∈ name, Template.isNameChar c = true

theorem isWord_of_all {name : List Char} (hne : name ≠ [])
    (hall : name.all Template.isNameChar = true) : IsWord name :=
  ⟨hne, List.all_eq_true.mp hall⟩

theorem takeName_append {name rest : List Char} (hword : ∀ c ∈ name, Template.isNameChar c = true)
    (hrest : ∀ c ∈ rest.head?, Template.isNameChar c = false) :
    takeName (name ++ rest) = (String.ofList name, rest) := by
  unfold takeName
  rw [List.takeWhile_append_of_pos hword, List.dropWhile_append_of_pos hword]
  cases rest with
  | nil => rw [List.takeWhile_nil, List.dropWhile_nil, List.append_nil]
  | cons c cs =>
    have hc := hrest c rfl
    rw [List.takeWhile_cons_of_neg (by simp [hc]), List.dropWhile_cons_of_neg (by simp [hc]),
      List.append_nil]

/-- The placeholder without a kind. -/
theorem takePlaceholder_name {name rest : List Char} (h : IsWord name) :
    takePlaceholder (name ++ '\x7d' :: rest) =
      some (.placeholder none (String.ofList name), rest) := by
  have hname : takeName (name ++ '\x7d' :: rest) = (String.ofList name, '\x7d' :: rest) :=
    takeName_append h.2 (by simp; decide)
  have hne := mt String.ofList_eq_empty_iff.mp h.1
  unfold takePlaceholder
  rw [hname]
  split
  case h_1 heq => exact absurd (congrArg Prod.fst heq) hne
  case h_2 heq =>
    cases heq
    rfl
  case h_3 heq => cases heq
  case h_4 hnot _ => exact absurd rfl (hnot _ _)

theorem takePlaceholder_kind {kind name rest : List Char} (hkind : IsWord kind) (h : IsWord name) :
    takePlaceholder (kind ++ ':' :: (name ++ '\x7d' :: rest)) =
      some (.placeholder (some (String.ofList kind)) (String.ofList name), rest) := by
  have hname : takeName (name ++ '\x7d' :: rest) = (String.ofList name, '\x7d' :: rest) :=
    takeName_append h.2 (by simp; decide)
  have hkind' : takeName (kind ++ ':' :: (name ++ '\x7d' :: rest)) =
      (String.ofList kind, ':' :: (name ++ '\x7d' :: rest)) :=
    takeName_append hkind.2 (by simp; decide)
  have hne := mt String.ofList_eq_empty_iff.mp h.1
  have hne' := mt String.ofList_eq_empty_iff.mp hkind.1
  unfold takePlaceholder
  rw [hkind']
  split
  case h_1 heq => exact absurd (congrArg Prod.fst heq) hne'
  case h_2 heq => cases heq
  case h_3 heq =>
    cases heq
    rw [hname]
    split
    case h_1 heq => exact absurd (congrArg Prod.fst heq) hne
    case h_2 heq =>
      cases heq
      rfl
    case h_3 hnot => exact absurd rfl (hnot _ _)
  case h_4 hnot => exact absurd rfl (hnot _ _)

/-- What stands between the braces is read as the placeholder. -/
theorem takePlaceholder_inside (kind : Placeholder) {name : List Char} (h : IsWord name) :
    takePlaceholder (inside kind name ++ ['\x7d']) =
      some (.placeholder kind.kindName (String.ofList name), []) := by
  have hkind : ∀ k : String, IsWord k.toList →
      takePlaceholder (k.toList ++ ':' :: name ++ ['\x7d']) =
        some (.placeholder (some k) (String.ofList name), []) := by
    intro k hk
    rw [List.append_assoc, List.cons_append, takePlaceholder_kind hk h, String.ofList_toList]
  cases kind with
  | catchAll => exact takePlaceholder_name h
  | word => exact hkind "word" (isWord_of_all (by decide) rfl)
  | uint => exact hkind "uint" (isWord_of_all (by decide) rfl)
  | int => exact hkind "int" (isWord_of_all (by decide) rfl)
  | float => exact hkind "float" (isWord_of_all (by decide) rfl)
  | hex => exact hkind "hex" (isWord_of_all (by decide) rfl)
  | uuid => exact hkind "uuid" (isWord_of_all (by decide) rfl)
  | date => exact hkind "date" (isWord_of_all (by decide) rfl)
  | geo => exact hkind "geo" (isWord_of_all (by decide) rfl)

theorem custom?_inside (kind : Placeholder) {name : List Char} (h : IsWord name) :
    custom? ('\x7b' :: (inside kind name ++ ['\x7d'])) = none := by
  have hcolon : ∀ (rest : List Char), inside kind name ++ ['\x7d'] ≠ 'r' :: 'e' :: ':' :: rest := by
    intro rest heq
    cases kind with
    | catchAll =>
      have hmem : ':' ∈ name ++ ['\x7d'] := by
        have heq' : name ++ ['\x7d'] = _ := heq
        rw [heq']
        simp
      rcases List.mem_append.mp hmem with hmem | hmem
      · exact absurd (h.2 ':' hmem) (by decide)
      · exact absurd (List.mem_singleton.mp hmem) (by decide)
    | word => cases heq
    | uint => cases heq
    | int => cases heq
    | float => cases heq
    | hex => cases heq
    | uuid => cases heq
    | date => cases heq
    | geo => cases heq
  unfold custom?
  split
  case h_1 heq => exact absurd (List.cons.inj heq).2 (hcolon _)
  case h_2 => rfl

theorem star_not_mem_inside (kind : Placeholder) {name : List Char} (h : IsWord name) :
    '*' ∉ inside kind name := by
  have hname : '*' ∉ name := fun hmem => absurd (h.2 '*' hmem) (by decide)
  have hkind : ∀ k : String, '*' ∉ k.toList → '*' ∉ k.toList ++ ':' :: name := by
    intro k hk hmem
    rcases List.mem_append.mp hmem with hmem | hmem
    · exact hk hmem
    · rcases List.mem_cons.mp hmem with heq | hmem
      · exact absurd heq (by decide)
      · exact hname hmem
  cases kind with
  | catchAll => exact hname
  | word => exact hkind "word" (by decide)
  | uint => exact hkind "uint" (by decide)
  | int => exact hkind "int" (by decide)
  | float => exact hkind "float" (by decide)
  | hex => exact hkind "hex" (by decide)
  | uuid => exact hkind "uuid" (by decide)
  | date => exact hkind "date" (by decide)
  | geo => exact hkind "geo" (by decide)

theorem spellWild_eq : ∀ {cs : List Char}, '*' ∉ cs → spellWild cs = cs
  | [], _ => rfl
  | c :: cs, h => by
    have hc : c ≠ '*' := fun he => h (he ▸ List.mem_cons_self)
    have ih : spellWild cs = cs := spellWild_eq fun hmem => h (List.mem_cons_of_mem _ hmem)
    unfold spellWild at ih ⊢
    rw [List.flatMap_cons, ih, if_neg hc]
    rfl

theorem pieces_single (kind : Placeholder) {name : List Char} (h : IsWord name) :
    pieces ('\x7b' :: (inside kind name ++ ['\x7d'])) =
      [.placeholder kind.kindName (String.ofList name)] := by
  have hstar : '*' ∉ '\x7b' :: (inside kind name ++ ['\x7d']) := by
    intro hmem
    rcases List.mem_cons.mp hmem with heq | hmem
    · exact absurd heq (by decide)
    · rcases List.mem_append.mp hmem with hmem | hmem
      · exact star_not_mem_inside kind h hmem
      · exact absurd (List.mem_singleton.mp hmem) (by decide)
  have hpieces : pieces ('\x7b' :: (inside kind name ++ ['\x7d'])) =
      cut ((inside kind name ++ ['\x7d']).length + 1) ('\x7b' :: (inside kind name ++ ['\x7d'])) := by
    show cut (spellWild _).length (spellWild _) = _
    rw [spellWild_eq hstar, List.length_cons]
  rw [hpieces]
  unfold cut
  rw [if_pos rfl, takePlaceholder_inside kind h]
  show Piece.placeholder _ _ :: cut _ [] = _
  cases (inside kind name ++ ['\x7d']).length <;> rfl

theorem expand_single (kind : Placeholder) {name : String} (h : IsWord name.toList) :
    expand (single kind name).toList = .ok (kind.grammar name.toList) := by
  unfold expand single
  rw [String.toList_ofList, custom?_inside kind h, pieces_single kind h, String.ofList_toList]
  have hpiece : (Piece.placeholder kind.kindName name).expand = .ok (kind.grammar name.toList) := by
    unfold Piece.expand
    dsimp only
    rw [kind.ofKind?_kindName]
  show Except.map List.flatten ([Piece.placeholder kind.kindName name].mapM Piece.expand) = _
  rw [List.mapM_cons, hpiece]
  simp [Except.map]

theorem source_single (kind : Placeholder) {name : String} (h : IsWord name.toList) :
    source (single kind name) =
      .ok ("^(?:".toList ++ kind.grammar name.toList ++ ")$".toList) := by
  unfold source
  rw [expand_single kind h]

theorem read_of_compile {template : String} {r : Regex} {text : List Char}
    (hsource : source template = .ok text) (h : compile template = .ok r) :
    read text = .ok r.expr := by
  obtain ⟨text', htext, hcompile⟩ := Except.bind_eq_ok_iff.mp h
  cases hsource.symm.trans htext
  cases hc : Regex.compile text with
  | error fault =>
    rw [hc] at hcompile
    cases hcompile
  | ok regex =>
    rw [hc] at hcompile
    cases hcompile
    obtain ⟨e, hread, hsize⟩ := Except.bind_eq_ok_iff.mp hc
    split at hsize
    · cases hsize
    · cases hsize
      exact hread

theorem compile_of_read {template : String} {text : List Char} {e : Expr}
    (hsource : source template = .ok text) (hread : Regex.read text = .ok e)
    (hsize : e.isTooLarge = false) : ∃ r, compile template = .ok r ∧ r.expr = e := by
  refine ⟨⟨text, e, e.program, rfl⟩, ?_, rfl⟩
  have hcompile : Regex.compile text = .ok ⟨text, e, e.program, rfl⟩ := by
    unfold Regex.compile
    rw [hread]
    show (if e.isTooLarge = true then _ else _) = _
    rw [hsize]
    rfl
  unfold compile
  rw [hsource]
  simp only [bind, Except.bind, hcompile]

theorem compile_of_fits {template : String} {text : List Char} {e : Expr}
    (hsource : source template = .ok text) (hread : Regex.read text = .ok e)
    (hfits : Regex.compile text ≠ .error .tooLarge) :
    ∃ r, compile template = .ok r ∧ r.expr = e := by
  refine compile_of_read hsource hread (Bool.eq_false_iff.mpr fun hlarge => hfits ?_)
  unfold Regex.compile
  rw [hread]
  exact if_pos hlarge

theorem compile_of_read_error {template : String} {text : List Char} {fault : Fault}
    (hsource : source template = .ok text) (hread : Regex.read text = .error fault) :
    compile template = .error (.badExpression template fault.message) := by
  have hcompile : Regex.compile text = .error fault := by
    unfold Regex.compile
    rw [hread]
    rfl
  unfold compile
  rw [hsource]
  simp only [bind, Except.bind, hcompile]

/-! ### One placeholder -/

/-- The expression of a template that is one placeholder. -/
def singleExpr (kind : Placeholder) (name : List Char) : Expr :=
  .sequence [.assertion .textStart, .branch (kind.exprs name 0), .assertion .textEnd]

theorem source_eq_anchored (kind : Placeholder) {name : String} (h : IsWord name.toList) :
    source (single kind name) = .ok (kind.phrase name.toList).anchored.text := by
  rw [source_single kind h, Phrase.text_anchored, Placeholder.text_phrase]

/-- If the names may be given, the placeholder is read. -/
theorem read_single (kind : Placeholder) {name : List Char} (h : IsWord name)
    (hnames : Admits [] (kind.captureNames name)) :
    Regex.read (kind.phrase name).anchored.text = .ok (singleExpr kind name) := by
  have hsound := Placeholder.sound_phrase (close_not_mem h.2) kind
  rw [← Placeholder.names_phrase] at hnames
  exact Phrase.read_anchored hsound.legible hnames (kind.means_phrase name 0).body (by decide)

/-- **What a placeholder compiles to.** If a template that is one placeholder
compiles, its names may be given to groups, and it is the expressions of the
placeholder between the two anchors. -/
theorem admits_of_compile_single {kind : Placeholder} {name : String} {r : Regex}
    (hword : IsWord name.toList) (h : compile (single kind name) = .ok r) :
    Admits [] (kind.captureNames name.toList) ∧ r.expr = singleExpr kind name.toList := by
  have hread := read_of_compile (source_eq_anchored kind hword) h
  by_cases hnames : Admits [] (kind.captureNames name.toList)
  · rw [read_single kind hword hnames] at hread
    exact ⟨hnames, (Except.ok.inj hread).symm⟩
  · have hsound := Placeholder.sound_phrase (close_not_mem hword.2) kind
    rw [← Placeholder.names_phrase] at hnames
    obtain ⟨fault, herror⟩ := Phrase.exists_read_anchored_error hsound.legible hnames
    rw [herror] at hread
    cases hread

/-- A template that is one placeholder, of any kind but `geo`, is its first group,
between the two anchors. -/
theorem expr_of_compile_single {kind : Placeholder} {name : String} {r : Regex}
    (hkind : kind ≠ .geo) (hword : IsWord name.toList) (h : compile (single kind name) = .ok r) :
    ∃ e, r.expr = .sequence [.assertion .textStart, .group 1 (some name) e, .assertion .textEnd] := by
  obtain ⟨-, hexpr⟩ := admits_of_compile_single hword h
  obtain ⟨e, he⟩ : ∃ e, singleExpr kind name.toList = .sequence [.assertion .textStart,
      .group 1 (some (String.ofList name.toList)) e, .assertion .textEnd] := by
    cases kind with
    | geo => exact absurd rfl hkind
    | _ => exact ⟨_, rfl⟩
  rw [String.ofList_toList] at he
  exact ⟨e, hexpr.trans he⟩

end Template
end Signpost
