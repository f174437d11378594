/-
# Slashes at the end of a path

If the method of a route has no slash in it, the segments of its key, with a slash
between any two, are the text of the method and the path without the slashes at
its end (`RouteKey.trimmed_intercalate_segments`), and there is one such text
(`RouteKey.Trimmed.unique`). Slashes at the end of a path are not among its parts
(`RouteKey.parts_append_slashes`). Paths with the same parts have the same key for
every method, so they are registered and looked up alike, on every router: only
the log is told of each by its own text (`Router.register_of_parts_eq`,
`Router.lookup_of_parts_eq`).

Key definitions: `RouteKey.slashes`, `RouteKey.Trimmed`, `Event.withPath`,
`Registration.withPath`, `Lookup.withPath`.
Key theorems: `RouteKey.trimmed_iff`, `RouteKey.trimmed_intercalate_segments`,
`Router.register_of_parts_eq`, `Router.lookup_of_parts_eq`,
`Router.slashes_at_end_dropped`.
-/
import Signpost.Proofs.RouteKey
import Signpost.Proofs.Router.History
import Signpost.Proofs.Router.Walk

namespace Signpost

variable {H : Type}

namespace RouteKey

/-! ### Texts without the slashes at their end -/

/-- Some slashes. -/
def slashes (count : Nat) : String := String.ofList (List.replicate count '/')

/-- A text without all the slashes at its end. -/
structure Trimmed (text trimmed : String) : Prop where
  slashes_after : ∃ count, text = trimmed ++ slashes count
  last : trimmed.toList.getLast? ≠ some '/'

@[simp] theorem toList_slashes (count : Nat) :
    (slashes count).toList = List.replicate count '/' :=
  String.toList_ofList

theorem trimSlashes_append_replicate (cs : List Char) (count : Nat) :
    trimSlashes (cs ++ List.replicate count '/') = trimSlashes cs := by
  induction count with
  | zero => rw [List.replicate_zero, List.append_nil]
  | succ count ih =>
    rw [List.replicate_succ', ← List.append_assoc, trimSlashes_eq,
      List.rdropWhile_concat_pos (· == '/') _ '/' rfl, ← trimSlashes_eq, ih]

/-- What is left out at the end of a text are slashes. -/
theorem exists_eq_trimSlashes_append (cs : List Char) :
    ∃ count, cs = trimSlashes cs ++ List.replicate count '/' := by
  have hslashes : ∀ c ∈ cs.rtakeWhile (· == '/'), c = '/' := by
    intro c hc
    have hslash := List.mem_rtakeWhile_imp hc
    exact eq_of_beq hslash
  refine ⟨(cs.rtakeWhile (· == '/')).length, ?_⟩
  rw [← List.eq_replicate_iff.mpr ⟨rfl, hslashes⟩, trimSlashes_eq,
    List.rdropWhile_append_rtakeWhile]

/-- A text is trimmed in one way. -/
theorem trimmed_iff {text trimmed : String} :
    Trimmed text trimmed ↔ trimmed.toList = trimSlashes text.toList := by
  constructor
  · rintro ⟨⟨count, rfl⟩, hlast⟩
    rw [String.toList_append, toList_slashes, trimSlashes_append_replicate, eq_comm,
      trimSlashes_eq, List.rdropWhile_eq_self_iff]
    intro hne hslash
    exact hlast (by rw [List.getLast?_eq_some_getLast hne, eq_of_beq hslash])
  · intro h
    refine ⟨?_, fun hlast => ?_⟩
    · obtain ⟨count, hcount⟩ := exists_eq_trimSlashes_append text.toList
      exact ⟨count, by rw [← String.toList_inj, String.toList_append, toList_slashes, h, ← hcount]⟩
    · obtain ⟨before, hbefore⟩ := List.getLast?_eq_some_iff.mp hlast
      exact trimSlashes_ne_concat _ _ (h.symm.trans hbefore)

theorem Trimmed.unique {text trimmed trimmed' : String} (h : Trimmed text trimmed)
    (h' : Trimmed text trimmed') : trimmed = trimmed' :=
  String.toList_inj.mp ((trimmed_iff.mp h).trans (trimmed_iff.mp h').symm)

/-- A text without slashes may stand before. -/
theorem Trimmed.append_left {before text trimmed : String} (hbefore : '/' ∉ before.toList)
    (h : Trimmed text trimmed) : Trimmed (before ++ text) (before ++ trimmed) := by
  obtain ⟨⟨count, rfl⟩, hlast⟩ := h
  refine ⟨⟨count, (String.append_assoc ..).symm⟩, fun hslash => ?_⟩
  rw [String.toList_append, List.getLast?_append] at hslash
  cases htrimmed : trimmed.toList.getLast? with
  | none =>
    rw [htrimmed, Option.none_or] at hslash
    exact hbefore (List.mem_of_getLast? hslash)
  | some c =>
    rw [htrimmed, Option.some_or] at hslash
    exact hlast (htrimmed.trans hslash)

/-! ### The segments of a key, joined -/

theorem intercalate_segments (method path : String) :
    "/".intercalate (ofRoute method path).segments = method ++ "/".intercalate (parts path) := by
  obtain ⟨part, rest, hparts⟩ := List.exists_cons_of_ne_nil (parts_ne_nil path)
  rw [ofRoute_eq hparts, hparts, segments, String.intercalate_cons_append]

/-- **The segments of a key** are what is between the slashes of the method and the
path, those at the end left out. -/
theorem trimmed_intercalate_segments {method : String} (hm : '/' ∉ method.toList) (path : String) :
    Trimmed (method ++ path) ("/".intercalate (ofRoute method path).segments) := by
  have hparts : Trimmed path ("/".intercalate (parts path)) :=
    trimmed_iff.mpr (toList_intercalate_parts path)
  rw [intercalate_segments]
  exact hparts.append_left hm

theorem not_mem_segments {method : String} (hm : '/' ∉ method.toList) {path segment : String}
    (h : segment ∈ (ofRoute method path).segments) : '/' ∉ segment.toList := by
  have hclean := clean_ofRoute hm path
  rcases List.mem_cons.mp h with rfl | hrest
  · exact hclean.first
  · exact hclean.rest segment hrest

theorem parts_append_slashes (path : String) (count : Nat) :
    parts (path ++ slashes count) = parts path := by
  rw [parts, parts, String.toList_append, toList_slashes, trimSlashes_append_replicate]

theorem ofRoute_of_parts_eq {path path' : String} (h : parts path' = parts path) (method : String) :
    ofRoute method path' = ofRoute method path := by
  rw [ofRoute, ofRoute, h]

end RouteKey

/-! ### Paths with the same parts -/

/-- The same event, told with another path. -/
def Event.withPath (path : String) : Event → Event
  | routeRegistered method _ => .routeRegistered method path
  | handlerReplaced method _ => .handlerReplaced method path
  | routeRejected method _ cause => .routeRejected method path cause
  | lookupFailed method _ miss => .lookupFailed method path miss
  | routerPublished routes => .routerPublished routes

/-- The same registration, told with another path. -/
def Registration.withPath (path : String) (registration : Registration H) : Registration H :=
  { registration with events := registration.events.map (·.withPath path) }

/-- The same answer, told with another path. -/
def Lookup.withPath (path : String) (found : Lookup H) : Lookup H :=
  { found with events := found.events.map (·.withPath path) }

@[simp] theorem Registration.events_withPath (path : String) (registration : Registration H) :
    (registration.withPath path).events = registration.events.map (·.withPath path) := rfl

@[simp] theorem Lookup.outcome_withPath (path : String) (found : Lookup H) :
    (found.withPath path).outcome = found.outcome := rfl

@[simp] theorem Lookup.captures_withPath (path : String) (found : Lookup H) :
    (found.withPath path).captures = found.captures := rfl

namespace Router

open RouteKey

variable {path path' : String}

theorem register_of_parts_eq (h : parts path' = parts path) (r : Router H) (method : String)
    (handler : H) :
    r.register method path' handler = (r.register method path handler).withPath path' := by
  have hkey := ofRoute_of_parts_eq h method
  cases ho : (r.store.obtainAll (ofRoute method path).segments).outcome with
  | error e =>
    have ho' : (r.store.obtainAll (ofRoute method path').segments).outcome = .error e := by
      rw [hkey, ho]
    rw [register_of_error ho, register_of_error ho', hkey]
    rfl
  | ok keys =>
    have ho' : (r.store.obtainAll (ofRoute method path').segments).outcome = .ok keys := by
      rw [hkey, ho]
    rw [register_eq_of_ok ho, register_eq_of_ok ho', hkey]
    cases ((r.root.at? (keys.map (·.1))).bind (·.handler)).isSome <;> rfl

theorem walk_of_parts_eq (h : parts path' = parts path) (r : Router H) (method : String)
    (captures : Option Captures) : r.walk method path' captures = r.walk method path captures := by
  rw [walk, walk, initialWalk, initialWalk, ofRoute_of_parts_eq h]

theorem lookup_of_parts_eq (h : parts path' = parts path) (r : Router H) (method : String)
    (captures : Option Captures) :
    r.lookup method path' captures = (r.lookup method path captures).withPath path' := by
  rw [lookup_eq, lookup_eq, walk_of_parts_eq h]
  unfold Lookup.ofWalk Lookup.withPath
  cases (r.walk (answering method) path captures).1.answer <;> rfl

/-- **Slashes at the end of a path are dropped.** If the method of a route has no
slash in it, no segment has one; the segments with a slash between any two are the
method and the path without all the slashes at the end, and the length of the key is
their number; and if the path is empty or begins with a slash, the first segment is
the method. So on every router, however many slashes more a path ends with, a route
is registered and a request is answered as without them: with the same outcome, the
same router and the same captures. Only the path that the log is told is another. -/
theorem slashes_at_end_dropped (method : String) :
    ('/' ∉ method.toList → ∀ path : String,
      let segments := (ofRoute method path).segments
      (∀ segment ∈ segments, '/' ∉ segment.toList) ∧
      (∀ text, Trimmed (method ++ path) text ↔ "/".intercalate segments = text) ∧
      (ofRoute method path).length = segments.length ∧
      (Rooted path → segments.head? = some method)) ∧
    ∀ (r : Router H) (path path' : String) (count count' : Nat) (handler : H)
      (captures : Option Captures),
      r.register method (path ++ slashes count) handler =
        (r.register method path handler).withPath (path ++ slashes count) ∧
      r.lookup method (path' ++ slashes count') captures =
        (r.lookup method path' captures).withPath (path' ++ slashes count') := by
  constructor
  · intro hm path segments
    have htrimmed := trimmed_intercalate_segments hm path
    refine ⟨fun segment => not_mem_segments hm, fun text => ?_, rfl, fun hrooted => ?_⟩
    · exact ⟨htrimmed.unique, fun h => h ▸ htrimmed⟩
    · exact congrArg some (first_ofRoute_of_rooted hrooted method)
  · intro r path path' count count' handler captures
    exact ⟨register_of_parts_eq (parts_append_slashes path count) r method handler,
      lookup_of_parts_eq (parts_append_slashes path' count') r method captures⟩

/-- A path that does not begin with a slash, with two slashes inside, and one of
slashes alone. A number with slashes after it is captured like one without. -/
theorem slashes_at_end_dropped_relative :
    let r := after [⟨"GET", "/\x7buint:id\x7d", 1⟩] Router.empty
    '/' ∉ "GET".toList ∧ (RouteKey.ofRoute "GET" "api//x//").segments = ["GETapi", "", "x"] ∧
      Trimmed "GETapi//x//" "GETapi//x" ∧
      Rooted "///" ∧ (RouteKey.ofRoute "GET" "///").segments.head? = some "GET" ∧
      (r.lookup "GET" "/7" (some Captures.empty)).outcome = .ok 1 ∧
      (r.lookup "GET" "/7//" (some Captures.empty)).outcome = .ok 1 ∧
      ((r.lookup "GET" "/7//" (some Captures.empty)).captures.map (·.getAll "id")) = some ["7"] ∧
      (r.register "GET" "/\x7buint:id\x7d///" 2).events =
        [.handlerReplaced "GET" "/\x7buint:id\x7d///"] := by
  intro r
  obtain ⟨hsegments, hsame⟩ := slashes_at_end_dropped (H := Nat) "GET"
  have hm : '/' ∉ "GET".toList := by decide
  have hrooted : Rooted "///" := by decide
  have hinside : (RouteKey.ofRoute "GET" "api//x//").segments = ["GETapi", "", "x"] := by
    decide +kernel
  have hfound : (r.lookup "GET" "/7" (some Captures.empty)).outcome = .ok 1 := by decide +kernel
  have hheld : ((r.lookup "GET" "/7" (some Captures.empty)).captures.map (·.getAll "id")) =
      some ["7"] := by decide +kernel
  have hreplaced : (r.register "GET" "/\x7buint:id\x7d" 2).events =
      [.handlerReplaced "GET" "/\x7buint:id\x7d"] := by decide +kernel
  have hpath : "/\x7buint:id\x7d" ++ slashes 3 = "/\x7buint:id\x7d///" := by decide +kernel
  have hpath' : "/7" ++ slashes 2 = "/7//" := by decide +kernel
  obtain ⟨hregister, hlookup⟩ := hsame r "/\x7buint:id\x7d" "/7" 3 2 2 (some Captures.empty)
  rw [hpath] at hregister
  rw [hpath'] at hlookup
  refine ⟨hm, hinside, ?_, hrooted, (hsegments hm "///").2.2.2 hrooted, hfound, ?_, ?_, ?_⟩
  · refine ((hsegments hm "api//x//").2.1 "GETapi//x").mpr ?_
    rw [hinside]
    decide
  · rw [hlookup, Lookup.outcome_withPath, hfound]
  · rw [hlookup, Lookup.captures_withPath, hheld]
  · rw [hregister, Registration.events_withPath, hreplaced]
    rfl

end Router
end Signpost
