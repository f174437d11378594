/-
# What a placeholder captures

Where a template is one placeholder, every match has a text for its first
group, which is named like the placeholder (`groups_of_captures?_single`). A
placeholder that catches all accepts every text of one line, so it matches its
own template (`isMatch_catchAll_single`).

Key theorems: `Template.groups_of_captures?_single`,
`Template.isMatch_catchAll_single`.
-/
import Signpost.Proofs.Template.CatchAll

namespace Signpost
namespace Template

open Regex

/-- **What a placeholder captures.** A match of a template that is one
placeholder has a text for its first group, which has the placeholder's
name. -/
theorem groups_of_captures?_single {kind : Placeholder} {name : String} {r : Regex}
    (hkind : kind ≠ .geo) (hword : IsWord name.toList) (h : compile (single kind name) = .ok r)
    {text : String} {found : Match} (hfound : r.captures? text = some found) :
    ∃ names value values, r.groupNames = some name :: names ∧
      found.groups = some value :: values := by
  obtain ⟨e, he⟩ := expr_of_compile_single hkind hword h
  have hgroups : r.expr.groups = (1, some name) :: (e.groups ++ []) := by
    rw [he]
    rfl
  exact groups_of_captures? he (List.mem_cons_of_mem _ List.mem_cons_self) hgroups hfound

theorem isMatch_catchAll_single {name : String} {r : Regex} (hword : IsWord name.toList)
    (h : compile (single .catchAll name) = .ok r) : r.isMatch (single .catchAll name) = true := by
  have hexpr := (admits_of_compile_single hword h).2
  have hne : single .catchAll name ≠ "" := mt String.ofList_eq_empty_iff.mp (List.cons_ne_nil _ _)
  refine (accepts_line hexpr _).1.mpr ⟨hne, fun hmem => ?_⟩
  rw [single, String.toList_ofList] at hmem
  rcases List.mem_cons.mp hmem with heq | hmem
  · exact absurd heq (by decide)
  · rcases List.mem_append.mp hmem with hmem | hmem
    · exact absurd (hword.2 '\n' hmem) (by decide)
    · exact absurd (List.mem_singleton.mp hmem) (by decide)

end Template
end Signpost
