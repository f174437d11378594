/-
# The methods of a path

A router keeps the methods of the routes that were taken, each once, in the order
in which they were first met (`Router.methods_after`). The methods of a path are
told from this list: each is tried with a walk of its own, without captures,
while a lookup reads `HEAD` as `GET` and may capture. For any other method the
two go the same way, for captures do not steer a walk (`walk_agree`), so a method
is told just if a lookup for it is answered with a handler
(`resolves_iff`, `pathMethods_agree`).

Key definitions: `Router.resolving`.
Key theorems: `Router.methods_add`, `Router.methods_after`, `Router.walk_agree`,
`Router.resolves_iff`, `Router.pathMethods_agree`.
-/
import Signpost.Proofs.Router.Agreement
import Signpost.Proofs.Router.Rejections
import Signpost.Proofs.Router.RouteTable

namespace Signpost

variable {H : Type}

namespace Router

/-! ### The methods of a router -/

/-- **One definition.** If it is taken, its method is met; nothing else is. -/
theorem methods_add {r : Router H} (hs : r.store.Faithful) (d : RouteDefinition H) :
    (r.add d).methods =
      if d.fault? = none ∧ d.method ∉ r.methods then r.methods ++ [d.method] else r.methods := by
  have htaken := outcome_register_eq_ok_iff hs d
  rw [add]
  cases ho : (r.store.obtainAll d.key.segments).outcome with
  | error e =>
    rw [register_of_error ho] at htaken ⊢
    have hfault : d.fault? ≠ none := by
      rw [ne_eq, ← htaken]
      exact nofun
    rw [if_neg fun h => hfault h.1]
  | ok keys =>
    rw [register_eq_of_ok ho] at htaken ⊢
    have hfault : d.fault? = none := htaken.mp rfl
    simp only [hfault, true_and, List.contains_iff_mem, ite_not]

/-- **All definitions.** Those that are taken bring in their methods, in the order
in which they are first met. -/
theorem methods_after_of : ∀ (ds : List (RouteDefinition H)) (seen : List String) {r : Router H},
    r.store.Faithful → r.methods = seen.eraseDups →
    (after ds r).methods = (seen ++ (accepted ds r).map (·.method)).eraseDups
  | [], seen, r, _, h => by
    rw [after_nil, accepted, List.map_nil, List.append_nil]
    exact h
  | d :: ds, seen, r, hs, h => by
    have hs' := faithful_add hs d
    have hmethods := methods_add hs d
    rw [h] at hmethods
    simp only [List.mem_eraseDups] at hmethods
    rw [after_cons_add, accepted_eq_filter _ hs, List.filter_cons, ← accepted_eq_filter ds hs']
    cases hf : d.fault? with
    | some cause =>
      rw [hf] at hmethods
      exact methods_after_of ds seen hs' hmethods
    | none =>
      have hseen : (r.add d).methods = (seen ++ [d.method]).eraseDups := by
        rw [hmethods, List.eraseDups_concat]
        simp only [hf, true_and, ite_not]
      rw [methods_after_of ds (seen ++ [d.method]) hs' hseen, List.append_assoc]
      rfl

theorem methods_after (ds : List (RouteDefinition H)) :
    (after ds Router.empty).methods = ((accepted ds Router.empty).map (·.method)).eraseDups :=
  methods_after_of ds [] MatcherStore.faithful_empty rfl

/-! ### The methods that resolve a path -/

/-- The methods of a router that lead to a handler for a path. -/
def resolving (r : Router H) (path : String) : List String := r.methods.filter (r.resolves path)

theorem pathMethods_eq_intercalate (r : Router H) (path : String) :
    r.pathMethods path = ", ".intercalate ("HEAD" :: r.resolving path) := rfl

theorem mem_resolving {r : Router H} {path method : String} :
    method ∈ r.resolving path ↔ method ∈ r.methods ∧ r.resolves path method = true :=
  List.mem_filter

theorem nodup_resolving (ds : List (RouteDefinition H)) (path : String) :
    ((after ds Router.empty).resolving path).Nodup := by
  have hnodup : (after ds (Router.empty : Router H)).methods.Nodup := by
    rw [methods_after]
    exact List.nodup_eraseDups _
  exact hnodup.filter _

theorem walk_agree (r : Router H) (method path : String) (captures captures' : Option Captures) :
    (r.walk method path captures).1 = (r.walk method path captures').1 := by
  have hlen : (initialWalk method path captures).segments =
      (initialWalk method path captures').segments := rfl
  exact (Node.descend_agree (RouteKey.ofRoute method path).segments 0 r.root hlen).2

theorem answering_of_ne {method : String} (h : method ≠ "HEAD") : answering method = method :=
  if_neg h

theorem resolves_iff {r : Router H} {path method : String} (h : method ≠ "HEAD")
    (captures : Option Captures) :
    r.resolves path method = true ↔
      ∃ handler, (r.lookup method path captures).outcome = .ok handler := by
  have houtcome : (r.lookup method path captures).outcome =
      (r.walk method path captures).1.answer := by
    rw [lookup_eq, answering_of_ne h]
    rfl
  rw [resolves_eq, walk_agree r method path none captures, houtcome]
  cases (r.walk method path captures).1.answer <;> simp [Except.toBool]

/-- **The methods of a path agree with the lookups.** Whatever was registered, the
methods of a path are told as `HEAD` and then some methods of the router, in
their order and each once. Among these is a method of the router other than
`HEAD` just if a lookup for it is answered with a handler, whether captures are
wanted or not. And the methods of the router are those of the definitions that
were taken, each once, in the order in which they were first met. -/
theorem pathMethods_agree (ds : List (RouteDefinition H)) (path : String) :
    let r := after ds Router.empty
    r.pathMethods path = ", ".intercalate ("HEAD" :: r.resolving path) ∧
      (r.resolving path).Sublist r.methods ∧ (r.resolving path).Nodup ∧
      (∀ method ∈ r.methods, method ≠ "HEAD" → ∀ captures : Option Captures,
        (method ∈ r.resolving path ↔
          ∃ handler, (r.lookup method path captures).outcome = .ok handler)) ∧
      r.methods = ((accepted ds Router.empty).map (·.method)).eraseDups := by
  intro r
  refine ⟨pathMethods_eq_intercalate r path, List.filter_sublist, nodup_resolving ds path, ?_,
    methods_after ds⟩
  intro method hmem hne captures
  rw [mem_resolving, and_iff_right hmem]
  exact resolves_iff hne captures

/-- Of three methods, one is a template: it leads another one to its handler, and
itself by its own text. -/
theorem pathMethods_agree_template :
    let r := after [⟨"GET", "/b", 1⟩, ⟨"PUT", "/c", 2⟩, ⟨"\x7bre:P.+\x7d", "/a", 3⟩] Router.empty
    r.methods = ["GET", "PUT", "\x7bre:P.+\x7d"] ∧ r.pathMethods "/a" = "HEAD, PUT, \x7bre:P.+\x7d" ∧
      (∃ handler, (r.lookup "PUT" "/a" (some Captures.empty)).outcome = .ok handler) ∧
      ∃ handler, (r.lookup "\x7bre:P.+\x7d" "/a" none).outcome = .ok handler := by
  intro r
  have hmethods : r.methods = ["GET", "PUT", "\x7bre:P.+\x7d"] := by decide +kernel
  have hresolving : r.resolving "/a" = ["PUT", "\x7bre:P.+\x7d"] := by decide +kernel
  obtain ⟨hjoined, -, -, hagree, -⟩ :=
    pathMethods_agree [⟨"GET", "/b", 1⟩, ⟨"PUT", "/c", 2⟩, ⟨"\x7bre:P.+\x7d", "/a", 3⟩] "/a"
  have hmember : ∀ method ∈ r.resolving "/a", method ∈ r.methods := by
    rw [hresolving, hmethods]
    decide
  have hput : "PUT" ∈ r.resolving "/a" := by simp [hresolving]
  have hown : "\x7bre:P.+\x7d" ∈ r.resolving "/a" := by simp [hresolving]
  refine ⟨hmethods, ?_, (hagree "PUT" (hmember _ hput) (by decide) _).mp hput,
    (hagree "\x7bre:P.+\x7d" (hmember _ hown) (by decide) _).mp hown⟩
  rw [hjoined, hresolving]
  decide +kernel

end Router
end Signpost
