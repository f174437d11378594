/-
# Renderings

What an expression yields can be told by the things that it is the notation of:
every text that is yielded is the rendering of a thing, and every rendering is
yielded, and the thing tells what the groups hold (`Renders`). Renderings are put
together as expressions are: one after the other, one of two, left out or not.

Whether a thing can be told from its rendering depends on what may follow it
(`Readable`): a number of digits that is not fixed ends where no digit follows.

Key definitions: `Renders`, `Run`, `Among`, `Readable`, `Stops`.
Key theorems: `Renders.cons`, `Renders.map`, `Renders.option`, `Framed.accepts`,
`renders_run`, `Readable.both`, `Readable.option`, `readable_run`.
-/
import Signpost.Proofs.Regex.GroupName
import Signpost.Proofs.Regex.Yield

namespace Signpost
namespace Regex

variable {α β : Type} {L M : Yield} {text : α → List Char} {text' : β → List Char}
  {held : α → Held} {held' : β → Held}

/-- The language has just the renderings of the members of a type, and they tell what
the groups hold. -/
def Renders (L : Yield) (text : α → List Char) (held : α → Held) : Prop :=
  ∀ w hs, L w hs ↔ ∃ a, w = text a ∧ hs = held a

/-- No group holds anything. -/
def noneHeld (_ : α) : Held := []

/-- The rendering of what may be left out. -/
def optionText (text : α → List Char) : Option α → List Char
  | none => []
  | some a => text a

/-- What the groups hold of what may be left out. -/
def optionHeld (held : α → Held) : Option α → Held
  | none => []
  | some a => held a

namespace Renders

theorem congr (h : Renders L text held) (hLM : ∀ w hs, M w hs ↔ L w hs) : Renders M text held :=
  fun w hs => (hLM w hs).trans (h w hs)

/-- The things may be told in another way. -/
theorem map (h : Renders L text held) (f : β → α) (hf : Function.Surjective f)
    (htext : ∀ b, text' b = text (f b)) (hheld : ∀ b, held' b = held (f b)) :
    Renders L text' held' := by
  intro w hs
  rw [h]
  constructor
  · rintro ⟨a, hw, hh⟩
    obtain ⟨b, rfl⟩ := hf a
    exact ⟨b, hw.trans (htext b).symm, hh.trans (hheld b).symm⟩
  · rintro ⟨b, hw, hh⟩
    exact ⟨f b, hw.trans (htext b), hh.trans (hheld b)⟩

/-- The things may be told by others that they are made of. -/
theorem made (h : Renders L text held) (f : α → β) (hf : Function.Surjective f)
    (htext : ∀ a, text' (f a) = text a) (hheld : ∀ a, held' (f a) = held a) :
    Renders L text' held' := by
  intro w hs
  rw [h]
  constructor
  · rintro ⟨a, hw, hh⟩
    exact ⟨f a, hw.trans (htext a).symm, hh.trans (hheld a).symm⟩
  · rintro ⟨b, hw, hh⟩
    obtain ⟨a, rfl⟩ := hf b
    exact ⟨a, hw.trans (htext a), hh.trans (hheld a)⟩

/-- The renderings themselves, where no group holds anything. -/
theorem image {P : List Char → Prop} (h : Renders L text noneHeld)
    (hP : ∀ w, P w ↔ ∃ a, w = text a) :
    Renders L (Subtype.val : { w // P w } → List Char) noneHeld := by
  intro w hs
  rw [h]
  constructor
  · rintro ⟨a, hw, hh⟩
    exact ⟨⟨w, (hP w).mpr ⟨a, hw⟩⟩, rfl, hh⟩
  · rintro ⟨⟨w, hw⟩, rfl, hh⟩
    obtain ⟨a, ha⟩ := (hP w).mp hw
    exact ⟨a, ha, hh⟩

theorem both (h : Renders L text held) (h' : Renders M text' held') :
    Renders (Then L M) (fun x : α × β => text x.1 ++ text' x.2)
      (fun x => held' x.2 ++ held x.1) := by
  intro w hs
  constructor
  · rintro ⟨w₁, hs₁, w₂, hs₂, rfl, rfl, hL, hM⟩
    obtain ⟨a, rfl, rfl⟩ := (h _ _).mp hL
    obtain ⟨b, rfl, rfl⟩ := (h' _ _).mp hM
    exact ⟨(a, b), rfl, rfl⟩
  · rintro ⟨⟨a, b⟩, rfl, rfl⟩
    exact ⟨_, _, _, _, rfl, rfl, (h _ _).mpr ⟨a, rfl, rfl⟩, (h' _ _).mpr ⟨b, rfl, rfl⟩⟩

theorem last {e : Expr} (h : Renders e.Yields text held) :
    Renders (Expr.YieldsAll [e]) text held :=
  h.congr fun _ _ => then_nil

theorem cons {e : Expr} {es : List Expr} (h : Renders e.Yields text held)
    (h' : Renders (Expr.YieldsAll es) text' held') :
    Renders (Expr.YieldsAll (e :: es)) (fun x : α × β => text x.1 ++ text' x.2)
      (fun x => held' x.2 ++ held x.1) :=
  h.both h'

theorem sequence {es : List Expr} (h : Renders (Expr.YieldsAll es) text held) :
    Renders (Expr.sequence es).Yields text held :=
  h.congr fun _ _ => Expr.yields_sequence

/-- What may be left out. -/
theorem option {e : Expr} {greedy : Bool} (h : Renders e.Yields text held) :
    Renders (Expr.rep e 0 (some 1) greedy).Yields (optionText text) (optionHeld held) := by
  intro w hs
  constructor
  · rintro ⟨n, -, hmost, hyields⟩
    have hn : n ≤ 1 := hmost 1 rfl
    obtain rfl | rfl : n = 0 ∨ n = 1 := by omega
    · obtain ⟨rfl, rfl⟩ := hyields
      exact ⟨none, rfl, rfl⟩
    · obtain ⟨a, rfl, rfl⟩ := (h _ _).mp (then_nil.mp hyields)
      exact ⟨some a, rfl, rfl⟩
  · rintro ⟨a, rfl, rfl⟩
    cases a with
    | none => exact ⟨0, Nat.le_refl 0, fun _ _ => Nat.zero_le _, rfl, rfl⟩
    | some a =>
      refine ⟨1, Nat.zero_le 1, fun m hm => ?_, then_nil.mpr ((h _ _).mpr ⟨a, rfl, rfl⟩)⟩
      cases hm
      exact Nat.le_refl 1

theorem option_noneHeld {e : Expr} {greedy : Bool} (h : Renders e.Yields text noneHeld) :
    Renders (Expr.rep e 0 (some 1) greedy).Yields (optionText text) noneHeld :=
  h.option.map id Function.surjective_id (fun _ => rfl) fun a => by cases a <;> rfl

/-- What may be left out and may be empty. -/
theorem option_of_empty {e : Expr} {greedy : Bool} (h : Renders e.Yields text held) (a : α)
    (htext : text a = []) (hheld : held a = []) :
    Renders (Expr.rep e 0 (some 1) greedy).Yields text held := by
  intro w hs
  rw [h.option w hs]
  constructor
  · rintro ⟨b, rfl, rfl⟩
    cases b with
    | none => exact ⟨a, htext.symm, hheld.symm⟩
    | some b => exact ⟨b, rfl, rfl⟩
  · rintro ⟨b, rfl, rfl⟩
    exact ⟨some b, rfl, rfl⟩

theorem unnamed {e : Expr} {number : Nat} (h : Renders e.Yields text held) :
    Renders (Expr.group number none e).Yields text held := by
  refine h.congr fun w hs => ?_
  constructor
  · rintro ⟨hs', h, rfl⟩
    exact h
  · intro h
    exact ⟨hs, h, rfl⟩

theorem named {e : Expr} {number : Nat} {name : String} (h : Renders e.Yields text held) :
    Renders (Expr.group number (some name) e).Yields text (fun a => (name, text a) :: held a) := by
  intro w hs
  constructor
  · rintro ⟨hs', hyields, rfl⟩
    obtain ⟨a, rfl, rfl⟩ := (h _ _).mp hyields
    exact ⟨a, rfl, rfl⟩
  · rintro ⟨a, rfl, rfl⟩
    exact ⟨held a, (h _ _).mpr ⟨a, rfl, rfl⟩, rfl⟩

end Renders

/-- **What a framed expression accepts.** If the expressions between the anchors have
renderings, one for each thing, just these match, and the groups hold what the thing
tells. -/
theorem Framed.accepts {r : Regex} {es : List Expr} {names : List (Option (List Char))}
    (hframed : Framed r (.branch es) names) (h : Renders (Expr.YieldsAll es) text held)
    (hinj : Function.Injective text) :
    (∀ segment : String, r.isMatch segment = true ↔ ∃ a, segment.toList = text a) ∧
      ∀ (segment : String) (a : α), segment.toList = text a →
        ∃ found, r.captures? segment = some found ∧ found.whole = segment ∧
          ∀ name, some name ∈ names → r.held? found (String.ofList name) =
            some (((held a).lookup (String.ofList name)).map String.ofList) := by
  have hmatch : ∀ segment : String, r.isMatch segment = true ↔ ∃ a, segment.toList = text a := by
    intro segment
    rw [hframed.isMatch_iff]
    constructor
    · rintro ⟨hs, hyields⟩
      obtain ⟨a, htext, -⟩ := (h _ _).mp (Expr.yields_branch.mp hyields)
      exact ⟨a, htext⟩
    · rintro ⟨a, htext⟩
      exact ⟨held a, Expr.yields_branch.mpr ((h _ _).mpr ⟨a, htext, rfl⟩)⟩
  refine ⟨hmatch, fun segment a htext => ?_⟩
  have hsome : (r.captures? segment).isSome = true :=
    (r.isSome_captures? segment).trans ((hmatch segment).mpr ⟨a, htext⟩)
  obtain ⟨found, hfound⟩ := Option.isSome_iff_exists.mp hsome
  obtain ⟨hwhole, hs, hyield, hheld⟩ := hframed.held?_of_captures? hfound
  obtain ⟨a', htext', rfl⟩ := (h _ _).mp (Expr.yields_branch.mp hyield)
  obtain rfl : a = a' := hinj (htext.symm.trans htext')
  exact ⟨found, hfound, hwhole, hheld⟩

/-! ### Characters -/

/-- One of the listed characters. -/
abbrev Among (cs : List Char) : Type := { c : Char // c ∈ cs }

/-- Some characters, all of one sort, and as many of them as is admitted. -/
@[ext]
structure Run (p : Char → Bool) (least : Nat) (most : Option Nat) where
  chars : List Char
  all : ∀ c ∈ chars, p c = true
  least_le : least ≤ chars.length
  le_most : ∀ m, most = some m → chars.length ≤ m

/-- A set and a predicate that agree on ASCII and have no other members. -/
theorem contains_eq {s : CharSet} {p : Char → Bool}
    (hsmall : ∀ n < 128, s.contains (Char.ofNat n) = p (Char.ofNat n))
    (hs : ∀ r ∈ s.ranges, r.2 < 128) (hp : ∀ c, p c = true → c.toNat < 128) (c : Char) :
    s.contains c = p c := by
  by_cases hc : c.toNat < 128
  · have h := hsmall c.toNat hc
    rwa [Char.ofNat_toNat] at h
  · have hno : s.contains c = false := by
      rw [Bool.eq_false_iff]
      intro hcontains
      obtain ⟨r, hr, hin⟩ := List.any_eq_true.mp hcontains
      have hle := of_decide_eq_true (Bool.and_eq_true_iff.mp hin).2
      have hlt := hs r hr
      omega
    rw [hno, eq_comm, Bool.eq_false_iff]
    exact fun h => hc (hp c h)

theorem renders_among {s : CharSet} {cs : List Char} (h : ∀ c, s.contains c = decide (c ∈ cs)) :
    Renders (Expr.set .unicode s).Yields (fun c : Among cs => [c.1]) noneHeld := by
  intro w hs
  constructor
  · rintro ⟨c, hc, rfl, rfl⟩
    exact ⟨⟨c, of_decide_eq_true ((h c).symm.trans hc)⟩, rfl, rfl⟩
  · rintro ⟨⟨c, hc⟩, rfl, rfl⟩
    exact ⟨c, (h c).trans (decide_eq_true hc), rfl, rfl⟩

/-- A number of characters of a set. -/
theorem times_set {s : CharSet} : ∀ {n : Nat} {w : List Char} {hs : Held},
    Times (Expr.set .unicode s).Yields n w hs ↔
      w.length = n ∧ (∀ c ∈ w, s.contains c = true) ∧ hs = []
  | 0, w, hs => by
    constructor
    · rintro ⟨rfl, rfl⟩
      exact ⟨rfl, by simp, rfl⟩
    · rintro ⟨hw, -, rfl⟩
      exact ⟨List.length_eq_zero_iff.mp hw, rfl⟩
  | n + 1, w, hs => by
    constructor
    · rintro ⟨_, _, w', hs', rfl, rfl, ⟨c, hc, rfl, rfl⟩, hrest⟩
      obtain ⟨rfl, hall, rfl⟩ := times_set.mp hrest
      exact ⟨rfl, by simpa [hc] using hall, rfl⟩
    · rintro ⟨hlen, hall, rfl⟩
      obtain ⟨c, w', rfl⟩ := List.exists_cons_of_length_eq_add_one hlen
      rw [List.forall_mem_cons] at hall
      exact ⟨[c], [], w', [], rfl, rfl, ⟨c, hall.1, rfl, rfl⟩,
        times_set.mpr ⟨Nat.succ.inj hlen, hall.2, rfl⟩⟩

theorem renders_run {s : CharSet} {p : Char → Bool} {least : Nat} {most : Option Nat}
    {greedy : Bool} (h : ∀ c, s.contains c = p c)
    (hle : ∀ m, most = some m → least ≤ m) :
    Renders (Expr.rep (.set .unicode s) least most greedy).Yields
      (Run.chars : Run p least most → List Char) noneHeld := by
  intro w hs
  constructor
  · rintro ⟨n, hleast, hmost, hyields⟩
    obtain ⟨rfl, hall, rfl⟩ := times_set.mp hyields
    refine ⟨⟨w, fun c hc => (h c).symm.trans (hall c hc), hleast, fun m hm => ?_⟩, rfl, rfl⟩
    have hn := hmost m hm
    rwa [Nat.max_eq_right (hle m hm)] at hn
  · rintro ⟨run, rfl, rfl⟩
    refine ⟨run.chars.length, run.least_le, fun m hm => ?_,
      times_set.mpr ⟨rfl, fun c hc => (h c).trans (run.all c hc), rfl⟩⟩
    exact Nat.le_trans (run.le_most m hm) (Nat.le_max_right _ _)

theorem contains_single (c d : Char) : (CharSet.single c).contains d = decide (d ∈ [c]) := by
  have hiff : c.toNat ≤ d.toNat ∧ d.toNat ≤ c.toNat ↔ d = c :=
    ⟨fun h => Char.toNat_inj.mp (Nat.le_antisymm h.2 h.1), fun h => by rw [h]; exact ⟨le_rfl, le_rfl⟩⟩
  show (decide (c.toNat ≤ d.toNat) && decide (d.toNat ≤ c.toNat) || false) = _
  rw [Bool.or_false, ← Bool.decide_and, decide_eq_decide, hiff, List.mem_singleton]

/-- Characters that stand for themselves render nothing but themselves. -/
theorem renders_chars : ∀ cs : List Char,
    Renders (Expr.YieldsAll (cs.map .char)) (fun _ : Unit => cs) noneHeld
  | [] => fun w hs => by
    constructor
    · rintro ⟨rfl, rfl⟩
      exact ⟨(), rfl, rfl⟩
    · rintro ⟨-, rfl, rfl⟩
      exact ⟨rfl, rfl⟩
  | c :: cs =>
    ((renders_among (contains_single c)).cons (renders_chars cs)).map
      (fun _ => (⟨c, List.mem_singleton.mpr rfl⟩, ()))
      (fun x => ⟨(), Prod.ext (Subtype.ext (List.mem_singleton.mp x.1.2).symm) rfl⟩)
      (fun _ => rfl) fun _ => rfl

theorem renders_char (c : Char) : Renders (Expr.char c).Yields (fun _ : Unit => [c]) noneHeld :=
  (renders_chars [c]).congr fun _ _ => then_nil.symm

theorem Renders.after {e : Expr} {es : List Expr} {cs : List Char}
    (h : Renders e.Yields (fun _ : Unit => cs) noneHeld)
    (h' : Renders (Expr.YieldsAll es) text held) :
    Renders (Expr.YieldsAll (e :: es)) (fun a => cs ++ text a) held :=
  (h.cons h').map (fun a => ((), a)) (fun x => ⟨x.2, rfl⟩) (fun _ => rfl)
    fun a => (List.append_nil (held a)).symm

/-- A fixed text that is there or is left out. -/
def markText (cs : List Char) (there : Bool) : List Char := if there then cs else []

theorem Renders.mark {e : Expr} {cs : List Char} {greedy : Bool}
    (h : Renders e.Yields (fun _ : Unit => cs) noneHeld) :
    Renders (Expr.rep e 0 (some 1) greedy).Yields (markText cs) noneHeld := by
  have hsurj : Function.Surjective fun there : Bool => if there then some () else none
    | none => ⟨false, rfl⟩
    | some () => ⟨true, rfl⟩
  exact h.option.map _ hsurj (fun there => by cases there <;> rfl)
    fun there => by cases there <;> rfl

/-! ### Reading a rendering back -/

/-- A thing can be told from its rendering, whatever it is that follows, if that is as
admitted. -/
def Readable (text : α → List Char) (admitted : List Char → Prop) : Prop :=
  ∀ a b rest rest', admitted rest → admitted rest' → text a ++ rest = text b ++ rest' →
    a = b ∧ rest = rest'

/-- No character of the given sort comes first. -/
def Stops (p : Char → Bool) (rest : List Char) : Prop := ∀ c ∈ rest.head?, p c = false

/-- Nothing comes. -/
abbrev Exhausted : List Char → Prop := Stops fun _ => true

theorem stops_nil (p : Char → Bool) : Stops p [] := by simp [Stops]

theorem stops_cons {p : Char → Bool} {c : Char} {cs : List Char} : Stops p (c :: cs) ↔ p c = false := by
  simp [Stops]

theorem Stops.mono {p q : Char → Bool} {rest : List Char} (h : Stops p rest)
    (hqp : ∀ c, q c = true → p c = true) : Stops q rest := by
  intro c hc
  rw [Bool.eq_false_iff]
  intro hq
  have hp := h c hc
  rw [hqp c hq] at hp
  cases hp

namespace Readable

variable {P Q : List Char → Prop}

theorem mono (h : Readable text Q) (hPQ : ∀ rest, P rest → Q rest) : Readable text P :=
  fun a b rest rest' hrest hrest' => h a b rest rest' (hPQ rest hrest) (hPQ rest' hrest')

/-- With nothing behind it. -/
theorem injective (h : Readable text P) (hnil : P []) : Function.Injective text := by
  intro a b hab
  exact (h a b [] [] hnil hnil (by rw [hab])).1

theorem both (h : Readable text Q) (h' : Readable text' P)
    (hQ : ∀ b rest, P rest → Q (text' b ++ rest)) :
    Readable (fun x : α × β => text x.1 ++ text' x.2) P := by
  intro x y rest rest' hrest hrest' heq
  rw [List.append_assoc, List.append_assoc] at heq
  obtain ⟨hfirst, heq⟩ := h _ _ _ _ (hQ _ _ hrest) (hQ _ _ hrest') heq
  obtain ⟨hsecond, heq⟩ := h' _ _ _ _ hrest hrest' heq
  exact ⟨Prod.ext hfirst hsecond, heq⟩

theorem after (h : Readable text P) (cs : List Char) : Readable (fun a => cs ++ text a) P := by
  intro a b rest rest' hrest hrest' heq
  rw [List.append_assoc, List.append_assoc] at heq
  exact h a b rest rest' hrest hrest' (List.append_cancel_left heq)

/-- A thing that is told by another. -/
theorem of_injective (h : Readable text P) (f : β → α) (hf : Function.Injective f)
    (htext : ∀ b, text' b = text (f b)) : Readable text' P := by
  intro a b rest rest' hrest hrest' heq
  rw [htext, htext] at heq
  obtain ⟨hab, heq⟩ := h _ _ _ _ hrest hrest' heq
  exact ⟨hf hab, heq⟩

/-- A thing that may be left out, if what follows does not begin like it. -/
theorem option (h : Readable text P) (hstart : ∀ a rest rest', P rest' → text a ++ rest ≠ rest') :
    Readable (optionText text) P := by
  intro a b rest rest' hrest hrest' heq
  cases a with
  | none =>
    cases b with
    | none => exact ⟨rfl, heq⟩
    | some b => exact absurd heq.symm (hstart b rest' rest hrest)
  | some a =>
    cases b with
    | none => exact absurd heq (hstart a rest rest' hrest')
    | some b =>
      obtain ⟨hab, hrests⟩ := h a b rest rest' hrest hrest' heq
      exact ⟨congrArg some hab, hrests⟩

/-- The same where it can be told from the first character. -/
theorem option_of_stops {p : Char → Bool} (h : Readable text P)
    (hstart : ∀ a, ∃ c cs, text a = c :: cs ∧ p c = true) (hP : ∀ rest, P rest → Stops p rest) :
    Readable (optionText text) P := by
  refine h.option fun a rest rest' hrest' heq => ?_
  obtain ⟨c, cs, htext, hc⟩ := hstart a
  have hstops := hP rest' hrest'
  rw [← heq, htext, List.cons_append, stops_cons, hc] at hstops
  cases hstops

end Readable

theorem readable_among {cs : List Char} {P : List Char → Prop} :
    Readable (fun c : Among cs => [c.1]) P := by
  intro a b rest rest' _ _ heq
  obtain ⟨hab, heq⟩ := List.cons.inj heq
  exact ⟨Subtype.ext hab, heq⟩

theorem readable_option_among {cs : List Char} :
    Readable (optionText fun c : Among cs => [c.1]) (Stops fun c => decide (c ∈ cs)) :=
  readable_among.option_of_stops (fun c => ⟨c.1, [], rfl, decide_eq_true c.2⟩) fun _ h => h

theorem readable_mark (c : Char) : Readable (markText [c]) (Stops fun d => decide (d ∈ [c])) := by
  intro a b rest rest' hrest hrest' heq
  cases a with
  | false =>
    cases b with
    | false => exact ⟨rfl, heq⟩
    | true =>
      rw [show rest = c :: rest' from heq, stops_cons] at hrest
      simp at hrest
  | true =>
    cases b with
    | false =>
      rw [← show c :: rest = rest' from heq, stops_cons] at hrest'
      simp at hrest'
    | true => exact ⟨rfl, (List.cons.inj heq).2⟩

/-- Characters end where another sort follows. -/
theorem readable_run {p : Char → Bool} {least : Nat} {most : Option Nat} :
    Readable (Run.chars : Run p least most → List Char) (Stops p) := by
  have htake : ∀ (run : Run p least most) (rest : List Char), Stops p rest →
      (run.chars ++ rest).takeWhile p = run.chars := by
    intro run rest hrest
    rw [List.takeWhile_append_of_pos run.all]
    cases rest with
    | nil => simp
    | cons c cs => rw [List.takeWhile_cons_of_neg (by simpa using stops_cons.mp hrest), List.append_nil]
  intro a b rest rest' hrest hrest' heq
  have hab : a.chars = b.chars := by rw [← htake a rest hrest, heq, htake b rest' hrest']
  rw [hab] at heq
  exact ⟨Run.ext hab, List.append_cancel_left heq⟩

theorem readable_run_fixed {p : Char → Bool} {count : Nat} {P : List Char → Prop} :
    Readable (Run.chars : Run p count (some count) → List Char) P := by
  intro a b rest rest' _ _ heq
  have hlen : ∀ run : Run p count (some count), run.chars.length = count := fun run =>
    Nat.le_antisymm (run.le_most count rfl) run.least_le
  obtain ⟨hab, heq⟩ := List.append_inj heq ((hlen a).trans (hlen b).symm)
  exact ⟨Run.ext hab, heq⟩

end Regex
end Signpost
