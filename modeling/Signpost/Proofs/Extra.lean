/-
# Outcomes, characters and lists

Lemmas about types of the standard library, for use by both the router and the
expressions. Each is in the namespace of its type.

Key theorems: `Except.bind_eq_ok_iff`, `List.eraseDups_concat`,
`List.find?_eraseDups`, `List.findSome?_findIdxs`, `List.map_lookup_eq`,
`List.getElem?_flatMap_iff`, `List.not_mem_of_mem_splitOn`.
-/
import Mathlib.Algebra.GroupWithZero.Nat
import Mathlib.Data.List.Induction
import Mathlib.Data.List.Nodup
import Mathlib.Data.List.TakeDrop

/-! ### Outcomes -/

namespace Except

variable {ε α β : Type*} {x : Except ε α} {b : β}

theorem bind_eq_ok_iff {f : α → Except ε β} :
    x.bind f = .ok b ↔ ∃ a, x = .ok a ∧ f a = .ok b := by
  cases x with
  | error e => exact iff_of_false nofun (by simp)
  | ok a => simp [Except.bind]

theorem map_eq_ok_iff {f : α → β} : x.map f = .ok b ↔ ∃ a, x = .ok a ∧ f a = b := by
  cases x with
  | error e => exact iff_of_false nofun (by simp)
  | ok a => simp [Except.map]

end Except

/-! ### Characters and texts -/

namespace Char

variable {c d : Char}

theorem toNat_le_toNat (h : c ≤ d) : c.toNat ≤ d.toNat := UInt32.le_iff_toNat_le.mp h

theorem isUpper_iff_toNat : c.isUpper = true ↔ 0x41 ≤ c.toNat ∧ c.toNat ≤ 0x5A :=
  calc c.isUpper = true ↔ 'A'.val ≤ c.val ∧ c.val ≤ 'Z'.val := decide_eq_true_iff
    _ ↔ 0x41 ≤ c.toNat ∧ c.toNat ≤ 0x5A :=
      and_congr UInt32.le_iff_toNat_le UInt32.le_iff_toNat_le

theorem isLower_iff_toNat : c.isLower = true ↔ 0x61 ≤ c.toNat ∧ c.toNat ≤ 0x7A :=
  calc c.isLower = true ↔ 'a'.val ≤ c.val ∧ c.val ≤ 'z'.val :=
      Bool.and_eq_true_iff.trans (and_congr decide_eq_true_iff decide_eq_true_iff)
    _ ↔ 0x61 ≤ c.toNat ∧ c.toNat ≤ 0x7A :=
      and_congr UInt32.le_iff_toNat_le UInt32.le_iff_toNat_le

theorem toNat_of_isDigit (h : c.isDigit = true) : 0x30 ≤ c.toNat ∧ c.toNat ≤ 0x39 :=
  isDigit_iff_toNat.mp h

theorem toNat_lt_of_isDigit (h : c.isDigit = true) : c.toNat < 128 :=
  Nat.lt_of_le_of_lt (toNat_of_isDigit h).2 (by decide)

end Char

theorem String.getLast?_intercalate_concat (sep : String) (before : List String) {last : String}
    (h : last.toList ≠ []) :
    (sep.intercalate (before ++ [last])).toList.getLast? = last.toList.getLast? := by
  cases before with
  | nil => rw [List.nil_append, String.intercalate_singleton]
  | cons first others =>
    rw [String.intercalate_append_of_ne_nil (List.cons_ne_nil first others)
      (List.cons_ne_nil last []), String.intercalate_singleton, String.toList_append,
      List.getLast?_append_of_ne_nil _ h]

theorem Nat.digitChar_inj {k l : Nat} (hk : k < 10) (hl : l < 10)
    (h : Nat.digitChar k = Nat.digitChar l) : k = l := by
  have hnat := congrArg Char.toNat h
  rw [Nat.toNat_digitChar_of_lt_ten hk, Nat.toNat_digitChar_of_lt_ten hl] at hnat
  omega

namespace List

variable {α β : Type*}

/-! ### Distinct items -/

section Distinct

variable [BEq α] [LawfulBEq α]

/-- One more item is a new one or was met before. -/
theorem eraseDups_concat (l : List α) (a : α) :
    (l ++ [a]).eraseDups = if a ∈ l then l.eraseDups else l.eraseDups ++ [a] := by
  rw [eraseDups_append]
  split
  case isTrue hmem => simp [removeAll, hmem]
  case isFalse hnot => simp [removeAll, eraseDups_cons, hnot]

theorem nodup_eraseDups (l : List α) : l.eraseDups.Nodup := by
  induction l using List.reverseRecOn with
  | nil => simp
  | append_singleton l a ih =>
    rw [eraseDups_concat]
    split
    case isTrue => exact ih
    case isFalse hnot =>
      rw [← concat_eq_append]
      exact ih.concat (mt mem_eraseDups.mp hnot)

theorem find?_eraseDups (p : α → Bool) (l : List α) : l.eraseDups.find? p = l.find? p := by
  induction l using List.reverseRecOn with
  | nil => rfl
  | append_singleton l a ih =>
    rw [eraseDups_concat, find?_append]
    split
    case isTrue hmem =>
      rw [ih]
      cases hfound : l.find? p with
      | some b => rfl
      | none => simp [find?_eq_none.mp hfound a hmem]
    case isFalse => rw [find?_append, ih]

end Distinct

/-! ### Searching -/

/-- What is found first is still found first where it is found among fewer. -/
theorem find?_eq_some_of_imp {p q : α → Bool} {l : List α} {a : α} (h : l.find? p = some a)
    (hq : q a = true) (hpq : ∀ b, q b = true → p b = true) : l.find? q = some a := by
  obtain ⟨-, before, later, hl, hbefore⟩ := find?_eq_some_iff_append.mp h
  refine find?_eq_some_iff_append.mpr ⟨hq, before, later, hl, fun b hb => ?_⟩
  have hb' := hbefore b hb
  rw [Bool.not_eq_true', Bool.eq_false_iff] at hb' ⊢
  exact fun hqb => hb' (hpq b hqb)

theorem find?_beq_eq_some_iff [BEq α] [LawfulBEq α] {l : List α} {a b : α} :
    l.find? (· == a) = some b ↔ b = a ∧ a ∈ l := by
  constructor
  · intro h
    have hb : b = a := eq_of_beq (find?_some (p := (· == a)) h)
    exact ⟨hb, hb ▸ mem_of_find?_eq_some h⟩
  · rintro ⟨rfl, hmem⟩
    cases h : l.find? (· == b) with
    | none => exact absurd (beq_self_eq_true b) (find?_eq_none.mp h b hmem)
    | some c => rw [eq_of_beq (find?_some (p := (· == b)) h)]

/-- Items that cannot be what is sought may be left out. -/
theorem find?_filterMap_filter {f : α → Option β} {p : β → Bool} {q : α → Bool}
    (h : ∀ a b, f a = some b → p b = true → q a = true) (l : List α) :
    ((l.filter q).filterMap f).find? p = (l.filterMap f).find? p := by
  have hkept : ∀ a, (q a = true ∧ (f a).any p = true) ↔ (f a).any p = true := by
    intro a
    refine and_iff_right_of_imp fun hsought => ?_
    obtain ⟨b, hb, hp⟩ := (Option.any_eq_true _ _).mp hsought
    exact h a b hb hp
  rw [find?_filterMap, find?_filterMap, find?_filter]
  simp only [hkept, Bool.decide_eq_true]

/-- The first result read at the positions of the members with a property is
the first one among these members. -/
theorem findSome?_findIdxs (p : α → Bool) (g : α → Option β) : ∀ before l : List α,
    ((l.findIdxs p before.length).findSome? fun i => ((before ++ l)[i]?).bind g) =
      (l.filter p).findSome? g
  | _, [] => rfl
  | before, a :: l => by
    have ih := findSome?_findIdxs p g (before ++ [a]) l
    rw [length_append, length_singleton, append_assoc, singleton_append] at ih
    have ha : (before ++ a :: l)[before.length]? = some a := by simp
    rw [findIdxs_cons]
    by_cases hp : p a = true
    · rw [if_pos hp, filter_cons_of_pos hp, findSome?_cons, findSome?_cons, ih, ha]
      rfl
    · rw [if_neg hp, filter_cons_of_neg hp, ih]

/-- The first result among the members with a property `p`, where `q` tells
which of these have a result. -/
theorem findSome?_filter_eq {p q : α → Bool} {g : α → Option β} : ∀ {l : List α},
    (∀ a ∈ l, p a = true → (g a).isSome = q a) →
    (l.filter p).findSome? g = (l.find? fun a => p a && q a).bind g
  | [], _ => rfl
  | a :: l, h => by
    have ih := findSome?_filter_eq fun b hb => h b (mem_cons_of_mem a hb)
    by_cases hp : p a = true
    · have hq := h a mem_cons_self hp
      rw [filter_cons_of_pos hp]
      cases hqa : q a with
      | true =>
        rw [hqa] at hq
        rw [findSome?_cons_of_isSome hq, find?_cons_of_pos (by simp [hp, hqa])]
        rfl
      | false =>
        rw [hqa] at hq
        rw [findSome?_cons_of_isNone (by simpa using hq), ih, find?_cons_of_neg (by simp [hqa])]
    · rw [filter_cons_of_neg hp, ih, find?_cons_of_neg (by simp [hp])]

/-! ### Tables -/

section Tables

variable [BEq α] [LawfulBEq α]

/-- In a table that has no key twice, a key is looked up where it stands. -/
theorem lookup_eq_some_of_mem {key : α} {value : β} : ∀ {table : List (α × β)},
    (table.map (·.1)).Nodup → (key, value) ∈ table → table.lookup key = some value
  | (k, v) :: table, hnodup, hmem => by
    obtain ⟨hnew, hrest⟩ := nodup_cons.mp hnodup
    rcases mem_cons.mp hmem with heq | htail
    · cases heq
      exact lookup_cons_self
    · have hne : key ≠ k := fun heq => hnew (mem_map.mpr ⟨(key, value), htail, heq⟩)
      rw [lookup_cons, beq_eq_false_iff_ne.mpr hne]
      exact lookup_eq_some_of_mem hrest htail

theorem map_lookup_eq {table : List (α × β)} (hnodup : (table.map (·.1)).Nodup) :
    ∀ {keys : List α} {values : List β}, values.length = keys.length →
      (∀ p ∈ keys.zip values, p ∈ table) →
      (keys.map fun key => table.lookup key) = values.map some
  | [], [], _, _ => rfl
  | key :: keys, value :: values, hlength, hmem => by
    rw [zip_cons_cons, forall_mem_cons] at hmem
    rw [map_cons, map_cons, lookup_eq_some_of_mem hnodup hmem.1,
      map_lookup_eq hnodup (Nat.succ.inj hlength) hmem.2]

end Tables

/-! ### Items at their places -/

theorem modify_eq_set_of_getElem? (f : α → α) {l : List α} {i : Nat} {a : α} (h : l[i]? = some a) :
    l.modify i f = l.set i (f a) := by
  rw [modify_eq_set_getElem?, h]
  rfl

/-- A change that a map turns into another one can be made before or after the
map. -/
theorem map_modify {f : α → β} {change : α → α} {change' : β → β}
    (h : ∀ a, f (change a) = change' (f a)) (l : List α) (i : Nat) :
    (l.modify i change).map f = (l.map f).modify i change' := by
  apply ext_getElem?
  intro j
  simp only [getElem?_map, getElem?_modify]
  cases l[j]? with
  | none => rfl
  | some a => by_cases hi : i = j <;> simp [hi, h]

/-- Another item in the place of one that yields the same. -/
theorem flatMap_set_of_eq {f : α → List β} : ∀ {l : List α} {i : Nat} {a b : α},
    l[i]? = some a → f b = f a → (l.set i b).flatMap f = l.flatMap f
  | c :: l, 0, a, b, h, hf => by
    cases h
    rw [set_cons_zero, flatMap_cons, flatMap_cons, hf]
  | c :: l, i + 1, a, b, h, hf => by
    rw [set_cons_succ, flatMap_cons, flatMap_cons,
      flatMap_set_of_eq (getElem?_cons_succ ▸ h) hf]

/-- An item of one of some lists put together, by the list that has it and its
place there. -/
theorem getElem?_flatMap_iff (f : α → List β) : ∀ (l : List α) (i : Nat) (b : β),
    (l.flatMap f)[i]? = some b ↔ ∃ j g a, l[j]? = some a ∧ (f a)[g]? = some b ∧
      i = ((l.take j).map fun a => (f a).length).sum + g
  | [], i, b => by simp
  | x :: xs, i, b => by
    rw [flatMap_cons]
    rcases Nat.lt_or_ge i (f x).length with hlt | hge
    · rw [getElem?_append_left hlt]
      constructor
      · intro h
        exact ⟨0, i, x, rfl, h, by simp⟩
      · rintro ⟨j, g, a, ha, hb, rfl⟩
        cases j with
        | zero =>
          cases ha
          simpa using hb
        | succ j =>
          simp only [take_succ_cons, map_cons, sum_cons] at hlt
          omega
    · rw [getElem?_append_right hge, getElem?_flatMap_iff f xs]
      constructor
      · rintro ⟨j, g, a, ha, hb, hi⟩
        refine ⟨j + 1, g, a, ha, hb, ?_⟩
        simp only [take_succ_cons, map_cons, sum_cons]
        omega
      · rintro ⟨j, g, a, ha, hb, rfl⟩
        cases j with
        | zero =>
          cases ha
          have hg := (getElem?_eq_some_iff.mp hb).1
          simp only [take_zero, map_nil, sum_nil] at hge
          omega
        | succ j =>
          refine ⟨j, g, a, ha, hb, ?_⟩
          simp only [take_succ_cons, map_cons, sum_cons]
          omega

/-! ### Beginnings and ends -/

theorem cons_prefix_drop_iff {a : α} {as l : List α} {i : Nat} :
    a :: as <+: l.drop i ↔ l[i]? = some a ∧ as <+: l.drop (i + 1) := by
  rw [← head?_drop, ← tail_drop]
  cases l.drop i with
  | nil => simp
  | cons b bs => rw [cons_prefix_cons, head?_cons, tail_cons, Option.some.injEq, eq_comm]

theorem append_prefix_drop {as bs l : List α} {i : Nat} (h : as ++ bs <+: l.drop i) :
    as <+: l.drop i ∧ bs <+: l.drop (i + as.length) := by
  obtain ⟨rest, hrest⟩ := h
  rw [append_assoc] at hrest
  refine ⟨⟨_, hrest⟩, rest, ?_⟩
  rw [← drop_drop, ← hrest, drop_left]

theorem head?_append_ne {as bs : List α} {a : α} (has : as.head? ≠ some a)
    (hbs : bs.head? ≠ some a) : (as ++ bs).head? ≠ some a := by
  cases as with
  | nil => exact hbs
  | cons b as => exact has

/-! ### The greatest of some numbers -/

theorem foldl_max_le {bound : Nat} : ∀ {l : List Nat} {m : Nat}, (∀ n ∈ l, n ≤ bound) →
    m ≤ bound → l.foldl max m ≤ bound
  | [], _, _, hm => hm
  | n :: l, m, h, hm => by
    rw [foldl_cons]
    exact foldl_max_le (fun k hk => h k (mem_cons_of_mem n hk))
      (Nat.max_le.mpr ⟨hm, h n mem_cons_self⟩)

/-! ### Taking a list apart at an item -/

section Separator

variable [BEq α] [LawfulBEq α] {a : α}

theorem bne_of_not_mem {l : List α} (h : a ∉ l) : ∀ b ∈ l, (b != a) = true := by
  intro b hb
  rw [bne_iff_ne]
  rintro rfl
  exact h hb

theorem takeWhile_append_cons {l : List α} (h : a ∉ l) (rest : List α) :
    (l ++ a :: rest).takeWhile (· != a) = l ∧
      (l ++ a :: rest).dropWhile (· != a) = a :: rest := by
  have hall := bne_of_not_mem h
  rw [takeWhile_append_of_pos hall, dropWhile_append_of_pos hall]
  simp

theorem span_append_cons {l : List α} (h : a ∉ l) (rest : List α) :
    (l ++ a :: rest).span (· != a) = (l, a :: rest) := by
  obtain ⟨htake, hdrop⟩ := takeWhile_append_cons h rest
  rw [span_eq_takeWhile_dropWhile, htake, hdrop]

/-- What a list is split at is in none of its parts. -/
theorem not_mem_of_mem_splitOn : ∀ {l part : List α}, part ∈ l.splitOn a → a ∉ part
  | [], part, h => by
    rw [splitOn_nil, mem_singleton] at h
    simp [h]
  | b :: l, part, h => by
    rw [splitOn_eq_splitOnP, splitOnP_cons_eq_if_modifyHead, ← splitOn_eq_splitOnP] at h
    by_cases hb : (b == a) = true
    · rw [if_pos hb] at h
      rcases mem_cons.mp h with rfl | h
      · exact not_mem_nil
      · exact not_mem_of_mem_splitOn h
    · rw [if_neg hb] at h
      have hne : a ≠ b := fun he => hb (by rw [he, beq_self_eq_true])
      -- the first part of what is left is the one that goes on
      cases hparts : l.splitOn a with
      | nil => exact absurd hparts (splitOn_ne_nil a l)
      | cons first others =>
        have hall : ∀ p ∈ first :: others, a ∉ p := fun p hp =>
          not_mem_of_mem_splitOn (hparts ▸ hp)
        rw [hparts, modifyHead_cons] at h
        rcases mem_cons.mp h with rfl | h
        · exact not_mem_cons_of_ne_of_not_mem hne (hall first mem_cons_self)
        · exact hall part (mem_cons_of_mem _ h)

end Separator

end List
