/-
# Route keys and their lines

The segments of a key have no slash in them, if the method has none, and the
last segment is not empty, unless it is the first one (`RouteKey.Clean`): the
slashes at the end of the path are left out, and the path is split at all
others. Such a key can be written as a method and a path again that have this
very key (`ofRoute_path`). In the list of routes a key is one line, the method
and the path with a space between them (`display_segments`), and from its line
it can be read back (`readLine_line`, `ofLine_line`).

If the path is empty or begins with a slash, nothing stands before its first
slash, and the first segment is the method alone (`first_ofRoute_of_rooted`).

Key definitions: `RouteKey.Clean`, `RouteKey.path`, `RouteKey.line`,
`RouteKey.readLine`, `RouteKey.ofLine`, `RouteKey.Rooted`.
Key theorems: `RouteKey.clean_ofRoute`, `RouteKey.ofRoute_path`,
`RouteKey.display_segments`, `RouteKey.readLine_line`, `RouteKey.ofLine_line`,
`RouteKey.parts_of_rooted`, `RouteKey.first_ofRoute_of_rooted`.
-/
import Mathlib.Data.List.DropRight
import Signpost.Proofs.Extra
import Signpost.RouteKey
import Signpost.Trie.Listing

namespace Signpost

namespace RouteKey

/-! ### The parts of a path -/

theorem trimSlashes_eq (cs : List Char) : trimSlashes cs = cs.rdropWhile (· == '/') := rfl

theorem map_toList_parts (path : String) :
    (parts path).map String.toList = (trimSlashes path.toList).splitOn '/' := by
  simp [parts, Function.comp_def]

theorem parts_ne_nil (path : String) : parts path ≠ [] := by
  simp [parts, List.splitOn_ne_nil]

theorem not_mem_parts {path part : String} (h : part ∈ parts path) : '/' ∉ part.toList :=
  List.not_mem_of_mem_splitOn (map_toList_parts path ▸ List.mem_map_of_mem h)

/-- The parts of a path with slashes between them are the path without the
slashes at its end. -/
theorem toList_intercalate_parts (path : String) :
    ("/".intercalate (parts path)).toList = trimSlashes path.toList := by
  rw [String.toList_intercalate, map_toList_parts]
  exact List.intercalate_splitOn '/'

theorem trimSlashes_ne_concat (cs before : List Char) : trimSlashes cs ≠ before ++ ['/'] := by
  intro h
  have hne : cs.rdropWhile (· == '/') ≠ [] := by
    rw [← trimSlashes_eq, h]
    simp
  refine List.rdropWhile_last_not (· == '/') cs hne ?_
  simp only [← trimSlashes_eq, h, List.getLast_concat, beq_self_eq_true]

theorem parts_ne_concat_empty (path : String) {before : List String} (h : before ≠ []) :
    parts path ≠ before ++ [""] := by
  intro hparts
  have hjoin := toList_intercalate_parts path
  rw [hparts, String.intercalate_append_of_ne_nil h (List.cons_ne_nil "" []),
    String.intercalate_singleton, String.append_empty, String.toList_append] at hjoin
  exact trimSlashes_ne_concat _ _ hjoin.symm

/-- Texts without slashes, of which the last is not empty, are the parts of the
path that has them after its slashes. -/
theorem parts_intercalate {texts : List String} (h : ∀ text ∈ texts, '/' ∉ text.toList)
    (hlast : ∀ before, texts ≠ before ++ [""]) (hne : texts ≠ []) :
    parts ("/".intercalate texts) = texts := by
  obtain ⟨before, last, rfl⟩ := List.eq_nil_or_concat texts |>.resolve_left hne
  simp only [List.concat_eq_append] at h hlast hne ⊢
  have hlast' : last.toList ≠ [] := by
    intro he
    exact hlast before (by rw [String.toList_eq_nil_iff.mp he])
  have hend := String.getLast?_intercalate_concat "/" before hlast'
  have htrim : trimSlashes ("/".intercalate (before ++ [last])).toList =
      ("/".intercalate (before ++ [last])).toList := by
    rw [trimSlashes_eq, List.rdropWhile_eq_self_iff]
    intro hl hslash
    have hmem : '/' ∈ last.toList := by
      rw [List.getLast?_eq_some_getLast hl, List.getLast?_eq_some_getLast hlast'] at hend
      rw [← eq_of_beq hslash, Option.some.inj hend]
      exact List.getLast_mem hlast'
    exact h last (List.mem_append_right _ List.mem_cons_self) hmem
  have hsplit : (trimSlashes ("/".intercalate (before ++ [last])).toList).splitOn '/' =
      (before ++ [last]).map String.toList := by
    rw [htrim, String.toList_intercalate]
    refine List.splitOn_intercalate '/' (fun cs hcs => ?_) (by simp)
    obtain ⟨text, htext, rfl⟩ := List.mem_map.mp hcs
    exact h text htext
  rw [parts, hsplit, List.map_map]
  simp [Function.comp_def]

/-! ### Keys -/

/-- No segment has a slash in it, and the last is not empty, unless it is the
first. -/
structure Clean (k : RouteKey) : Prop where
  first : '/' ∉ k.first.toList
  rest : ∀ segment ∈ k.rest, '/' ∉ segment.toList
  last : ∀ before, k.rest ≠ before ++ [""]

theorem ofRoute_eq {method path part : String} {rest : List String} (h : parts path = part :: rest) :
    ofRoute method path = ⟨method ++ part, rest⟩ := by
  rw [ofRoute, h]

theorem length_ofRoute (method path : String) :
    (ofRoute method path).length = (parts path).length := by
  obtain ⟨part, rest, hparts⟩ := List.exists_cons_of_ne_nil (parts_ne_nil path)
  rw [ofRoute_eq hparts, hparts]
  rfl

theorem clean_ofRoute {method : String} (hm : '/' ∉ method.toList) (path : String) :
    (ofRoute method path).Clean := by
  obtain ⟨part, rest, hparts⟩ := List.exists_cons_of_ne_nil (parts_ne_nil path)
  have hslash : ∀ segment ∈ part :: rest, '/' ∉ segment.toList := fun segment hmem =>
    not_mem_parts (hparts ▸ hmem)
  rw [ofRoute_eq hparts]
  refine ⟨?_, fun segment hmem => hslash segment (List.mem_cons_of_mem part hmem), ?_⟩
  · rw [String.toList_append, List.mem_append]
    exact not_or.mpr ⟨hm, hslash part List.mem_cons_self⟩
  · intro before hrest
    refine parts_ne_concat_empty path (List.cons_ne_nil part before) ?_
    rw [hparts, show rest = before ++ [""] from hrest, List.cons_append]

theorem first_ofRoute_ne {method : String} (hm : method ≠ "") (path : String) :
    (ofRoute method path).first ≠ "" := by
  obtain ⟨part, rest, hparts⟩ := List.exists_cons_of_ne_nil (parts_ne_nil path)
  rw [ofRoute_eq hparts]
  simp [hm]

/-- The path of a key: a slash, and slashes between the segments after the
first. -/
def path (k : RouteKey) : String := "/" ++ "/".intercalate k.rest

/-- A key is that of its first segment, taken for the method, and its path. -/
theorem ofRoute_path {k : RouteKey} (h : k.Clean) : ofRoute k.first k.path = k := by
  have hparts : parts k.path = "" :: k.rest := by
    cases hrest : k.rest with
    | nil =>
      rw [path, hrest]
      decide
    | cons segment rest =>
      have hjoin : k.path = "/".intercalate ("" :: k.rest) := by
        rw [path, hrest, String.intercalate_cons_cons, String.empty_append]
      rw [hjoin, ← hrest]
      refine parts_intercalate ?_ ?_ (List.cons_ne_nil "" k.rest)
      · intro text htext
        rcases List.mem_cons.mp htext with rfl | htext
        · exact List.not_mem_nil
        · exact h.rest text htext
      · intro before hbefore
        cases before with
        | nil => simp [hrest] at hbefore
        | cons first before => exact h.last before (List.cons.inj hbefore).2
  rw [ofRoute_eq hparts, String.append_empty]

/-! ### Lines -/

/-- The line of a key in the list of routes. -/
def line (k : RouteKey) : String := k.first ++ " " ++ k.path

theorem line_eq (k : RouteKey) : k.line = k.first ++ " /" ++ "/".intercalate k.rest := by
  have hspace : " /" = " " ++ "/" := rfl
  rw [line, path, hspace, String.append_assoc, String.append_assoc, String.append_assoc]

/-- The method and the path that a line of the list tells: it is split at its
first slash, with which the path begins, and the space before that is left
out. -/
def readLine (line : String) : String × String :=
  let cs := line.toList
  (String.ofList (cs.takeWhile (· != '/')).dropLast, String.ofList (cs.dropWhile (· != '/')))

/-- The key that a line of the list tells. -/
def ofLine (line : String) : RouteKey := ofRoute (readLine line).1 (readLine line).2

/-- **A line is read back.** -/
theorem readLine_line {k : RouteKey} (h : k.Clean) : readLine k.line = (k.first, k.path) := by
  have hchars : k.line.toList =
      (k.first.toList ++ [' ']) ++ '/' :: ("/".intercalate k.rest).toList := by
    simp [line_eq]
  have hslash : '/' ∉ k.first.toList ++ [' '] := by simp [h.first]
  obtain ⟨htake, hdrop⟩ := List.takeWhile_append_cons hslash ("/".intercalate k.rest).toList
  have hpath : k.path = String.ofList ('/' :: ("/".intercalate k.rest).toList) := by
    rw [← String.toList_inj]
    simp [path]
  rw [readLine, hchars, htake, hdrop, List.dropLast_concat, String.ofList_toList, hpath]

theorem ofLine_line {k : RouteKey} (h : k.Clean) : ofLine k.line = k := by
  rw [ofLine, readLine_line h, ofRoute_path h]

/-- Segments are joined by slashes behind the first, if that is not empty. -/
theorem foldl_extend : ∀ (rest : List String) {lead : String}, lead ≠ "" →
    rest.foldl Node.extend lead = "/".intercalate (lead :: rest)
  | [], _, _ => by rw [String.intercalate_singleton, List.foldl_nil]
  | segment :: rest, lead, h => by
    have hne : lead ++ "/" ++ segment ≠ "" := by simp
    rw [List.foldl_cons, Node.extend, if_neg h, foldl_extend rest hne,
      String.intercalate_cons_append, String.intercalate_cons_cons]

/-- **How a route is listed.** The text that leads to the node of a key is shown
as the line of the key. -/
theorem display_segments {k : RouteKey} (hfirst : k.first ≠ "") (hslash : '/' ∉ k.first.toList) :
    Node.display (k.segments.foldl Node.extend "") = k.line := by
  rw [segments, List.foldl_cons, Node.extend, if_pos rfl, foldl_extend _ hfirst, Node.display]
  cases hrest : k.rest with
  | nil =>
    have hdrop : k.first.toList.dropWhile (· != '/') = [] :=
      List.dropWhile_eq_nil_iff.mpr (List.bne_of_not_mem hslash)
    rw [String.intercalate_singleton, hdrop, line_eq, hrest, String.intercalate_nil,
      String.append_empty]
  | cons segment rest =>
    have hchars : ("/".intercalate (k.first :: segment :: rest)).toList =
        k.first.toList ++ '/' :: ("/".intercalate (segment :: rest)).toList := by
      rw [String.intercalate_cons_cons]
      simp
    obtain ⟨htake, hdrop⟩ := List.takeWhile_append_cons hslash ("/".intercalate (segment :: rest)).toList
    rw [hchars, htake, hdrop, line_eq, hrest]
    simp only [String.ofList_toList]

/-! ### Rooted paths -/

/-- A path that is empty or begins with a slash. -/
def Rooted (path : String) : Prop := path = "" ∨ path.toList.head? = some '/'

instance (path : String) : Decidable (Rooted path) :=
  inferInstanceAs (Decidable (path = "" ∨ path.toList.head? = some '/'))

/-- The first part of a path stands at its beginning. -/
theorem part_prefix {path part : String} {rest : List String} (h : parts path = part :: rest) :
    part.toList <+: path.toList := by
  have hjoin := toList_intercalate_parts path
  have htrim : trimSlashes path.toList <+: path.toList := List.rdropWhile_prefix _ _
  rw [← hjoin, h] at htrim
  refine List.IsPrefix.trans ?_ htrim
  cases rest with
  | nil => exact ⟨[], by rw [List.append_nil, String.intercalate_singleton]⟩
  | cons next rest =>
    rw [String.intercalate_cons_cons, String.append_assoc, String.toList_append]
    exact List.prefix_append _ _

/-- Nothing stands before the first slash of such a path. -/
theorem parts_of_rooted {path : String} (h : Rooted path) : ∃ rest, parts path = "" :: rest := by
  obtain ⟨part, rest, hparts⟩ := List.exists_cons_of_ne_nil (parts_ne_nil path)
  obtain ⟨after, hprefix⟩ := part_prefix hparts
  have hpart : part = "" := by
    rw [← String.toList_eq_nil_iff]
    cases hchars : part.toList with
    | nil => rfl
    | cons c cs =>
      have hslash : '/' ∉ part.toList := not_mem_parts (hparts ▸ List.mem_cons_self)
      rw [hchars, List.cons_append] at hprefix
      rcases h with rfl | hhead
      · cases hprefix
      · rw [← hprefix, List.head?_cons] at hhead
        rw [hchars, Option.some.inj hhead] at hslash
        exact absurd List.mem_cons_self hslash
  exact ⟨rest, hpart ▸ hparts⟩

theorem first_ofRoute_of_rooted {path : String} (h : Rooted path) (method : String) :
    (ofRoute method path).first = method := by
  obtain ⟨rest, hparts⟩ := parts_of_rooted h
  rw [ofRoute_eq hparts, String.append_empty]

end RouteKey
end Signpost
