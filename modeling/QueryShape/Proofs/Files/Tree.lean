import QueryShape.Files.Tree

/-!
# Files beside each other

A name without a separator, put behind the path of a folder, leads to one file of that folder.

* `Tree.routeOf_join`: where such a path leads.
* `Tree.write_eq_ok`, `Tree.file?_put`: a file that is written takes the place of the one of its
  name, and leaves the others.
-/

namespace QueryShape.Files

/-- A name that stands for itself in a path. -/
structure IsPlain (name : String) : Prop where
  whole : '/' ∉ name.toList
  proper : ¬(name = "" ∨ name = ".") ∧ name ≠ ".."

/-! ## Paths -/

theorem names_of_whole {name : String} (h : '/' ∉ name.toList) : names name = [name] := by
  unfold names
  rw [List.splitOn_eq_singleton h, List.map_singleton, String.ofList_toList]

theorem names_append {folder name : String} (h : '/' ∉ name.toList) :
    names (folder ++ "/" ++ name) = names folder ++ [name] := by
  have split : (folder ++ "/" ++ name).toList = folder.toList ++ '/' :: name.toList := by
    simp [String.toList_append]
  unfold names
  rw [split, List.splitOn_append_cons_self, List.splitOn_eq_singleton h, List.map_append,
    List.map_singleton, String.ofList_toList]

theorem isAbsolute_iff (path : String) : isAbsolute path ↔ path.toList.head? = some '/' := by
  unfold isAbsolute
  rw [String.startsWith_string_iff]
  cases path.toList <;> simp [List.cons_prefix_cons, eq_comm]

theorem exists_of_endsWith {path : String} (h : path.endsWith "/") :
    ∃ before : String, path = before ++ "/" := by
  rw [← String.endsWith_toSlice, String.Slice.endsWith_string_iff, String.copy_toSlice] at h
  obtain ⟨before, eq⟩ := h
  refine ⟨.ofList before, String.toList_inj.mp ?_⟩
  rw [String.toList_append, String.toList_ofList]
  exact eq.symm

namespace Tree

variable {t t' : Tree}

/-- One more name of a path, whatever is there. -/
def advance (route : Route) (name : String) : Route :=
  if name = "" ∨ name = "." then route
  else if name = ".." then route.dropLast
  else route ++ [name]

theorem routeOf_eq (t : Tree) (path : String) :
    t.routeOf path = (names path).foldl advance (if isAbsolute path then [] else t.here) := rfl

theorem advance_of_plain {route : Route} {name : String} (h : IsPlain name) :
    advance route name = route ++ [name] := by
  rw [advance, if_neg h.proper.1, if_neg h.proper.2]

theorem not_isAbsolute_of_whole {name : String} (h : '/' ∉ name.toList) :
    isAbsolute name = false := by
  rw [Bool.eq_false_iff, ne_eq, isAbsolute_iff]
  exact fun e => h (List.mem_of_mem_head? e)

theorem routeOf_of_plain {name : String} (h : IsPlain name) :
    t.routeOf name = t.here ++ [name] := by
  rw [routeOf_eq, names_of_whole h.whole, not_isAbsolute_of_whole h.whole]
  exact advance_of_plain h

/-- **A path with one more name leads one name further.** -/
theorem routeOf_join {folder name : String} (h : IsPlain name) :
    t.routeOf (join folder name) = t.routeOf folder ++ [name] := by
  unfold join
  split
  · next empty =>
    rw [String.isEmpty_iff.mp empty, routeOf_of_plain h]
    rfl
  · next some =>
    have absolute (rest : String) : isAbsolute (folder ++ rest) = isAbsolute folder := by
      rw [Bool.eq_iff_iff, isAbsolute_iff, isAbsolute_iff, String.toList_append]
      cases e : folder.toList with
      | nil => exact absurd (String.isEmpty_iff.mpr (String.toList_eq_nil_iff.mp e)) some
      | cons => rfl
    split
    · next ends =>
      -- the last name of the folder is empty, and leads nowhere
      obtain ⟨before, rfl⟩ := exists_of_endsWith ends
      have empty : names (before ++ "/") = names before ++ [""] := by
        have := @names_append before "" List.not_mem_nil
        rwa [String.append_empty] at this
      rw [routeOf_eq, routeOf_eq, absolute name, names_append h.whole, empty, List.foldl_append,
        List.foldl_append]
      exact advance_of_plain h
    · rw [routeOf_eq, routeOf_eq, String.append_assoc, absolute, ← String.append_assoc,
        names_append h.whole, List.foldl_append]
      exact advance_of_plain h

theorem routeOf_congr (h : t.here = t'.here) (path : String) :
    t.routeOf path = t'.routeOf path := by
  rw [routeOf_eq, routeOf_eq, h]

theorem lastName_join {folder name : String} (h : IsPlain name) :
    lastName (join folder name) = name := by
  unfold lastName join
  split
  · rw [names_of_whole h.whole]
    rfl
  · split
    · next ends =>
      obtain ⟨before, rfl⟩ := exists_of_endsWith ends
      rw [names_append h.whole, List.getLastD_concat]
    · rw [names_append h.whole, List.getLastD_concat]

/-! ## Writing -/

/-- The tree with the text of a file, in the place of what the file held before. -/
def put (t : Tree) (route : Route) (text : String) : Tree :=
  { t with files := t.files.filter (·.1 != route) ++ [(route, .text text)] }

@[simp] theorem here_put (t : Tree) (route : Route) (text : String) :
    (t.put route text).here = t.here :=
  rfl

theorem write_eq_ok {route : Route} (h : t.isFolder route = false) (text : String) :
    t.write route text = .ok (t.put route text) := by
  rw [write, h]
  rfl

/-- What is left when a file is taken out. -/
theorem lookup_filter_ne (files : List (Route × Content)) (route r : Route) :
    (files.filter (·.1 != route)).lookup r = if r = route then none else files.lookup r := by
  induction files with
  | nil => simp
  | cons f rest ih =>
    obtain ⟨path, content⟩ := f
    rw [List.filter_cons]
    by_cases own : path = route
    · subst own
      rw [if_neg (by simp), ih]
      by_cases same : r = path
      · rw [if_pos same, if_pos same]
      · rw [if_neg same, if_neg same, List.lookup_cons, beq_false_of_ne same]
    · by_cases same : r = path
      · subst same
        simp [own]
      · simp [own, ih, List.lookup_cons, beq_false_of_ne same]

/-- **A file takes the place of the one of its name**, and leaves the others. -/
theorem file?_put (t : Tree) (route r : Route) (text : String) :
    (t.put route text).file? r = if r = route then some (.text text) else t.file? r := by
  unfold file? put
  rw [List.lookup_append, lookup_filter_ne]
  by_cases same : r = route
  · simp [same]
  · simp [same, List.lookup_cons, beq_false_of_ne same]

/-- A file makes no folder of the places beside it, and leaves those that are. -/
theorem isFolder_put (t : Tree) (folder : Route) (n m text : String) :
    (t.put (folder ++ [m]) text).isFolder (folder ++ [n]) = t.isFolder (folder ++ [n]) := by
  have notBelow : ((folder ++ [n]).isPrefixOf (folder ++ [m]) && folder ++ [n] != folder ++ [m]) =
      false := by
    by_cases pre : folder ++ [n] <+: folder ++ [m]
    · simp [pre.eq_of_length (by simp)]
    · rw [← List.isPrefixOf_iff_prefix, Bool.not_eq_true] at pre
      rw [pre, Bool.false_and]
  have kept : ((t.files.filter (·.1 != folder ++ [m])).any fun f =>
      (folder ++ [n]).isPrefixOf f.1 && folder ++ [n] != f.1) =
      t.files.any fun f => (folder ++ [n]).isPrefixOf f.1 && folder ++ [n] != f.1 := by
    rw [List.any_filter]
    refine congrArg (t.files.any ·) (funext fun f => ?_)
    by_cases own : f.1 = folder ++ [m]
    · rw [own, notBelow, Bool.and_false]
    · simp [own]
  unfold isFolder put
  simp only [List.any_append, List.any_cons, List.any_nil, kept, notBelow, Bool.or_false]

end Tree

end QueryShape.Files
