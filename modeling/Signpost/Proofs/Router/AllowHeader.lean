/-
# Where the Allow header fails

A text is the value of a header unless one of its bytes in UTF-8 is a control byte
other than the tab (`HeaderValue.ofText?_eq_error_iff`). The bytes of a joined text
are those of its parts and of what stands between them (`utf8_append`), so a control
byte of the joined text is one of a part (`controlled_intercalate_iff`). `HEAD` and
what is put between the methods have none. So the header of a path fails just if one
of the methods that lead to a handler for the path has a control byte
(`Router.allowHeader_eq_error_iff`); a method that leads to none does not matter
(`Router.allowHeader_without`).

Key definitions: `utf8`, `IsControl`, `Controlled`, `Router.LeadsToHandler`,
`Router.without`.
Key theorems: `controlled_intercalate_iff`, `HeaderValue.ofText?_eq_error_iff`,
`Router.allowHeader_eq_error_iff`, `Router.allowHeader_without`,
`Router.allowHeader_of_methods`.
-/
import Signpost.Proofs.Router.Methods
import Signpost.Router.Allow

namespace Signpost

variable {H : Type}

/-! ### Control bytes -/

/-- The bytes of a text in UTF-8. -/
def utf8 (text : String) : List UInt8 := text.toUTF8.data.toList

/-- A control byte, other than the tab. -/
def IsControl (b : UInt8) : Prop := b = 127 ∨ b < 32 ∧ b ≠ 9

instance (b : UInt8) : Decidable (IsControl b) :=
  inferInstanceAs (Decidable (b = 127 ∨ b < 32 ∧ b ≠ 9))

/-- A text that has a control byte. -/
def Controlled (text : String) : Prop := ∃ b ∈ utf8 text, IsControl b

instance (text : String) : Decidable (Controlled text) :=
  inferInstanceAs (Decidable (∃ b ∈ utf8 text, IsControl b))

theorem utf8_append (before after : String) :
    utf8 (before ++ after) = utf8 before ++ utf8 after := by
  simp [utf8]

theorem controlled_append_iff {before after : String} :
    Controlled (before ++ after) ↔ Controlled before ∨ Controlled after := by
  simp only [Controlled, utf8_append, List.mem_append, or_and_right, exists_or]

/-- A control byte of a joined text is one of a part, if there is none in what stands
between the parts. -/
theorem controlled_intercalate_iff {separator : String} (hs : ¬ Controlled separator) :
    ∀ texts : List String,
      Controlled (separator.intercalate texts) ↔ ∃ text ∈ texts, Controlled text
  | [] => by
    rw [String.intercalate_nil]
    exact iff_of_false (by decide) (by simp)
  | [text] => by simp
  | text :: next :: rest => by
    rw [String.intercalate_cons_cons, controlled_append_iff, controlled_append_iff,
      controlled_intercalate_iff hs (next :: rest), or_iff_left hs,
      List.exists_mem_cons_iff Controlled text (next :: rest)]

theorem not_isHeaderByte_iff {b : UInt8} : ¬ isHeaderByte b = true ↔ IsControl b := by
  simp only [isHeaderByte, Bool.and_eq_true, Bool.or_eq_true, decide_eq_true_eq, beq_iff_eq,
    bne_iff_ne, not_and_or, not_or, UInt8.not_le, not_not]
  exact or_comm

namespace HeaderValue

theorem ofText?_eq (text : String) :
    ofText? text = if (utf8 text).all isHeaderByte then .ok ⟨text⟩ else .error .badByte := rfl

theorem all_isHeaderByte_iff {text : String} :
    (utf8 text).all isHeaderByte = true ↔ ¬ Controlled text := by
  simp only [List.all_eq_true, Controlled, not_exists, not_and, ← not_isHeaderByte_iff, not_not]

/-- **Which texts are refused** as the value of a header. -/
theorem ofText?_eq_error_iff {text : String} :
    ofText? text = .error .badByte ↔ Controlled text := by
  rw [ofText?_eq]
  split
  case isTrue h => exact iff_of_false nofun (all_isHeaderByte_iff.mp h)
  case isFalse h => exact iff_of_true rfl (not_not.mp (mt all_isHeaderByte_iff.mpr h))

theorem bytes_of_ofText? {text : String} (h : ¬ Controlled text) :
    ∃ value, ofText? text = .ok value ∧ value.bytes = utf8 text :=
  ⟨⟨text⟩, by rw [ofText?_eq, if_pos (all_isHeaderByte_iff.mpr h)], rfl⟩

end HeaderValue

/-! ### The methods of a path -/

namespace Router

/-- A method leads to a handler for a path: its walk, in which `HEAD` is not read as
`GET`, ends at a node with a handler. -/
def LeadsToHandler (r : Router H) (path method : String) : Prop :=
  ∃ n, (r.locate method path none).1 = .ok n ∧ n.handler.isSome = true

/-- The router without a method; its routes stay. -/
def without (r : Router H) (method : String) : Router H :=
  { r with methods := r.methods.filter (· ≠ method) }

theorem resolves_iff_leadsToHandler {r : Router H} {path method : String} :
    r.resolves path method = true ↔ r.LeadsToHandler path method := by
  unfold resolves LeadsToHandler
  cases (r.locate method path none).1 <;> simp

instance (r : Router H) (path method : String) : Decidable (r.LeadsToHandler path method) :=
  decidable_of_iff _ resolves_iff_leadsToHandler

/-- **Where the header fails.** -/
theorem allowHeader_eq_error_iff (r : Router H) (path : String) :
    r.allowHeader path = .error .badByte ↔
      ∃ method ∈ r.methods, r.LeadsToHandler path method ∧ Controlled method := by
  have hcomma : ¬ Controlled ", " := by decide +kernel
  have hhead : ¬ Controlled "HEAD" := by decide +kernel
  rw [allowHeader, HeaderValue.ofText?_eq_error_iff, pathMethods_eq_intercalate,
    controlled_intercalate_iff hcomma, List.exists_mem_cons_iff, or_iff_right hhead]
  simp only [mem_resolving, resolves_iff_leadsToHandler, and_assoc]

/-- A method that leads to no handler is not told, whether the router has it or
not. -/
theorem allowHeader_without {r : Router H} {path method : String}
    (h : ¬ r.LeadsToHandler path method) :
    (r.without method).allowHeader path = r.allowHeader path := by
  have hresolving : (r.without method).resolving path = r.resolving path := by
    have hsame : (r.without method).resolves path = r.resolves path := rfl
    rw [resolving, resolving, hsame, without, List.filter_filter]
    refine List.filter_congr fun other _ => ?_
    cases hother : r.resolves path other with
    | false => rfl
    | true =>
      have hne : other ≠ method := by
        rintro rfl
        exact h (resolves_iff_leadsToHandler.mp hother)
      simp [hne]
  rw [allowHeader, allowHeader, pathMethods_eq_intercalate, pathMethods_eq_intercalate, hresolving]

theorem mem_methods_after {ds : List (RouteDefinition H)} {method : String} :
    method ∈ (after ds Router.empty).methods ↔
      ∃ d ∈ accepted ds Router.empty, d.method = method := by
  rw [methods_after, List.mem_eraseDups, List.mem_map]

/-- **The Allow header fails only for a method that is told.** Whatever was
registered, the header of a path fails just if a definition was taken whose method
leads to a handler for the path and has a byte in UTF-8 that is 127 or is below 32 and
not a tab. Otherwise its bytes are those of the methods of the path, as they are told.
And a method that leads to no handler for the path does not matter: without it, the
header is the same. -/
theorem allowHeader_of_methods (ds : List (RouteDefinition H)) (path : String) :
    let r := after ds Router.empty
    let fails := ∃ d ∈ accepted ds Router.empty, r.LeadsToHandler path d.method ∧
      ∃ b ∈ utf8 d.method, b = 127 ∨ b < 32 ∧ b ≠ 9
    (r.allowHeader path = .error .badByte ↔ fails) ∧
      (¬ fails → ∃ value, r.allowHeader path = .ok value ∧
        value.bytes = utf8 (r.pathMethods path)) ∧
      ∀ method, ¬ r.LeadsToHandler path method →
        (r.without method).allowHeader path = r.allowHeader path := by
  intro r fails
  have hiff : r.allowHeader path = .error .badByte ↔ fails := by
    rw [allowHeader_eq_error_iff]
    simp only [r, mem_methods_after, exists_exists_and_eq_and]
    rfl
  refine ⟨hiff, fun hnot => ?_, fun method => allowHeader_without⟩
  exact HeaderValue.bytes_of_ofText? (mt HeaderValue.ofText?_eq_error_iff.mpr (mt hiff.mp hnot))

/-- Three methods: one is plain, one ends with a line feed, and one has a letter of two
bytes and a tab. -/
def spelledMethods : List (RouteDefinition Nat) :=
  [⟨"GET", "/a", 1⟩, ⟨"PUT\n", "/b", 2⟩, ⟨"\u00d6\t", "/a", 3⟩]

/-- The line feed makes the header of the path fail that its method leads to, and does
not matter for the other path. -/
theorem allowHeader_of_methods_spelled :
    let r := after spelledMethods Router.empty
    r.LeadsToHandler "/b" "PUT\n" ∧ r.allowHeader "/b" = .error .badByte ∧
      ¬ r.LeadsToHandler "/a" "PUT\n" ∧ (r.without "PUT\n").allowHeader "/a" = r.allowHeader "/a" ∧
      ∃ value, r.allowHeader "/a" = .ok value ∧
        value.bytes = utf8 "HEAD, GET, \u00d6\t" ∧ value.bytes.length = 14 := by
  intro r
  obtain ⟨hfails, -, -⟩ := allowHeader_of_methods spelledMethods "/b"
  obtain ⟨-, hmade, hwithout⟩ := allowHeader_of_methods spelledMethods "/a"
  have hleads : r.LeadsToHandler "/b" "PUT\n" := by decide +kernel
  have hnot : ¬ r.LeadsToHandler "/a" "PUT\n" := by decide +kernel
  have htaken : ⟨"PUT\n", "/b", 2⟩ ∈ accepted spelledMethods Router.empty := by decide +kernel
  have htold : r.pathMethods "/a" = "HEAD, GET, \u00d6\t" := by decide +kernel
  obtain ⟨value, hvalue, hbytes⟩ := hmade (by decide +kernel)
  have htext : value.bytes = utf8 "HEAD, GET, \u00d6\t" := hbytes.trans (congrArg utf8 htold)
  refine ⟨hleads, hfails.mpr ⟨_, htaken, hleads, 10, by decide +kernel, by decide⟩, hnot,
    hwithout _ hnot, value, hvalue, htext, ?_⟩
  rw [htext]
  decide +kernel

end Router
end Signpost
