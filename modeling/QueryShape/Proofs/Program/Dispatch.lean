import QueryShape.Proofs.Program.Ways

/-!
# Accessors take the first path for a type

The body of an accessor is laid out over the types that are left: a path that none of them is left
for is skipped, one that is for all of them is taken without looking at the object. This module
says which path that is without a word of types that are left.

* `mem_firstMatches`: the first matches are the paths that are the first for some possible type.
* `wayFor_of_unknown`: an object of an unknown type is refused if a possible type has no path, and
  is read along the last first match if all have one.
* `dispatch_signatures`: an accessor lists what its first matches give, each once.
* `view_reads_firstMatch`: for objects of all types, what an accessor reads, and that its signature
  admits it.
-/

namespace QueryShape.Program

open Code QueryShape.Module Record

/-! ## First matches -/

/-- No path is for objects of the type. -/
def isUncovered (paths : List Path) (name : String) : Bool := paths.all (name ∉ ·.typenames)

/-- The paths, in order, each of which is the first one for some possible type. -/
def firstMatches (possible : List String) (paths : List Path) : List Path :=
  (paths.zipIdx.filter fun numbered =>
    possible.any fun name => paths.findIdx? (name ∈ ·.typenames) == some numbered.2).map (·.1)

theorem firstMatches_none (paths : List Path) : firstMatches [] paths = [] := by
  simp [firstMatches]

/-- Behind a path, the first matches are those for the types that the path is not for. -/
theorem firstMatches_cons (possible : List String) (path : Path) (rest : List Path) :
    firstMatches possible (path :: rest) =
      (if possible.any (· ∈ path.typenames) then [path] else []) ++
        firstMatches (possible.filter (· ∉ path.typenames)) rest := by
  have atFront (name : String) : (path :: rest).findIdx? (name ∈ ·.typenames) = some 0 ↔
      name ∈ path.typenames := by
    by_cases isFor : name ∈ path.typenames <;> simp [List.findIdx?_cons, isFor]
  have behind (name : String) (i : Nat) :
      (path :: rest).findIdx? (name ∈ ·.typenames) = some (i + 1) ↔
        name ∉ path.typenames ∧ rest.findIdx? (name ∈ ·.typenames) = some i := by
    by_cases isFor : name ∈ path.typenames <;> simp [List.findIdx?_cons, isFor]
  have others : (rest.zipIdx 1).filter (fun numbered => possible.any fun name =>
        (path :: rest).findIdx? (name ∈ ·.typenames) == some numbered.2) =
      (rest.zipIdx.filter fun numbered => (possible.filter (· ∉ path.typenames)).any fun name =>
        rest.findIdx? (name ∈ ·.typenames) == some numbered.2).map fun numbered =>
          (numbered.1, numbered.2 + 1) := by
    rw [List.zipIdx_succ, List.filter_map]
    refine congrArg _ (List.filter_congr fun numbered _ => ?_)
    rw [Bool.eq_iff_iff]
    simp [behind]
  have first : (possible.any fun name =>
      (path :: rest).findIdx? (name ∈ ·.typenames) == some 0) =
        possible.any (· ∈ path.typenames) := by
    rw [Bool.eq_iff_iff]
    simp [atFront]
  unfold firstMatches
  rw [List.zipIdx_cons, List.filter_cons, first, others]
  by_cases isFirst : possible.any (· ∈ path.typenames) <;>
    simp [isFirst, Function.comp_def]

/-- **The first matches are the paths that are the first for some possible type.** -/
theorem mem_firstMatches {possible : List String} {paths : List Path} {path : Path} :
    path ∈ firstMatches possible paths ↔
      ∃ name ∈ possible, paths.find? (name ∈ ·.typenames) = some path := by
  induction paths generalizing possible with
  | nil => simp [firstMatches]
  | cons first rest ih =>
    rw [firstMatches_cons, List.mem_append, ih]
    constructor
    · rintro (isFirst | ⟨name, mem, found⟩)
      · split at isFirst
        · next some =>
          obtain ⟨name, mem, isFor⟩ := by simpa using some
          obtain rfl : path = first := by simpa using isFirst
          exact ⟨name, mem, by simp [isFor]⟩
        · cases isFirst
      · obtain ⟨mem, notFor⟩ : name ∈ possible ∧ name ∉ first.typenames := by simpa using mem
        exact ⟨name, mem, by simpa [List.find?_cons, notFor] using found⟩
    · rintro ⟨name, mem, found⟩
      by_cases isFor : name ∈ first.typenames
      · have some : possible.any (· ∈ first.typenames) := by simpa using ⟨name, mem, isFor⟩
        rw [if_pos some]
        simp only [List.find?_cons, isFor, decide_true, Option.some.injEq] at found
        exact .inl (by simp [found])
      · have notFirst : name ∈ possible.filter (· ∉ first.typenames) := by simp [mem, isFor]
        exact .inr ⟨name, notFirst, by simpa [List.find?_cons, isFor] using found⟩

/-- A type that has a path has a first match. -/
theorem firstMatches_ne_nil {possible : List String} {paths : List Path}
    (some : possible ≠ []) (covered : possible.any (isUncovered paths) = false) :
    firstMatches possible paths ≠ [] := by
  obtain ⟨name, mem⟩ := List.exists_mem_of_ne_nil possible some
  have isFor : ∃ path ∈ paths, name ∈ path.typenames := by
    simpa [isUncovered] using List.any_eq_false.mp covered name mem
  obtain ⟨path, found⟩ : ∃ path, paths.find? (name ∈ ·.typenames) = Option.some path := by
    rw [← Option.isSome_iff_exists, List.find?_isSome]
    simpa using isFor
  exact List.ne_nil_of_mem (mem_firstMatches.mpr ⟨name, mem, found⟩)

/-! ## The types that are left -/

variable {left : List String} {path : Path} {paths rest : List Path}

theorem here_isEmpty_iff : (left.filter (· ∈ path.typenames)).isEmpty = true ↔
    ∀ name ∈ left, name ∉ path.typenames := by
  simp

theorem here_length_iff : (left.filter (· ∈ path.typenames)).length = left.length ↔
    ∀ name ∈ left, name ∈ path.typenames := by
  simp [List.length_filter_eq_length_iff]

/-- A path leaves the types that it is not for. -/
theorem filter_others (left : List String) (path : Path) :
    (left.filter fun name => !(left.filter (· ∈ path.typenames)).contains name) =
      left.filter (· ∉ path.typenames) := by
  refine List.filter_congr fun name mem => ?_
  rw [Bool.eq_iff_iff]
  simp [mem]

/-- A path for none of the types leaves all. -/
theorem others_of_none (none : ∀ name ∈ left, name ∉ path.typenames) :
    left.filter (· ∉ path.typenames) = left :=
  List.filter_eq_self.mpr fun name mem => by simpa using none name mem

/-- A path for all types leaves none. -/
theorem others_of_all (all : ∀ name ∈ left, name ∈ path.typenames) :
    left.filter (· ∉ path.typenames) = [] :=
  List.filter_eq_nil_iff.mpr fun name mem => by simpa using all name mem

/-- A path for none of the types is no first match. -/
theorem firstMatches_of_none (none : ∀ name ∈ left, name ∉ path.typenames) :
    firstMatches left (path :: rest) = firstMatches left rest := by
  have noOne : left.any (· ∈ path.typenames) = false := by simpa using none
  rw [firstMatches_cons, if_neg (by simp [noOne]), others_of_none none]
  rfl

/-- A path for some of the types is the first of the first matches. -/
theorem firstMatches_of_some (some : ¬ ∀ name ∈ left, name ∉ path.typenames) :
    firstMatches left (path :: rest) =
      path :: firstMatches (left.filter (· ∉ path.typenames)) rest := by
  have isFirst : left.any (· ∈ path.typenames) = true := by simpa using some
  simp [firstMatches_cons, isFirst]

/-- The types without a path behind a path are those among the types that it leaves. -/
theorem filter_isUncovered_cons (left : List String) (path : Path) (rest : List Path) :
    left.filter (isUncovered (path :: rest)) =
      (left.filter (· ∉ path.typenames)).filter (isUncovered rest) := by
  rw [List.filter_filter]
  refine List.filter_congr fun name _ => ?_
  rw [Bool.and_comm]
  rfl

theorem any_isUncovered_cons (left : List String) (path : Path) (rest : List Path) :
    left.any (isUncovered (path :: rest)) =
      (left.filter (· ∉ path.typenames)).any (isUncovered rest) := by
  rw [List.any_filter]
  rfl

/-- In the end the types without a path are left. -/
theorem dispatch_left (left : List String) (paths : List Path) :
    (dispatch left paths).left = left.filter (isUncovered paths) := by
  induction paths generalizing left with
  | nil => exact (List.filter_eq_self.mpr fun _ _ => rfl).symm
  | cons path rest ih =>
    rw [dispatch_cons, filter_isUncovered_cons]
    dsimp only
    split
    · next none =>
      rw [ih, others_of_none (here_isEmpty_iff.mp none)]
    · split
      · next all => rw [others_of_all (here_length_iff.mp all), List.filter_nil]
      · dsimp only
        rw [filter_others, ih]

/-! ## What accessors list -/

theorem filter_eraseDups (keep : String → Bool) :
    (texts : List String) → texts.eraseDups.filter keep = (texts.filter keep).eraseDups
  | [] => rfl
  | text :: rest => by
    have ih := filter_eraseDups keep (rest.filter fun other => !other == text)
    rw [List.eraseDups_cons, List.filter_cons, ih, List.filter_cons, List.filter_filter]
    cases kept : keep text with
    | true =>
      simp only [if_true, List.eraseDups_cons, List.filter_filter, Bool.and_comm]
    | false =>
      have same : rest.filter (fun other => keep other && !other == text) = rest.filter keep := by
        refine List.filter_congr fun other _ => ?_
        by_cases eq : other = text <;> simp [eq, kept]
      simp [same]
termination_by texts => texts.length
decreasing_by
  have := List.length_filter_le (fun other => !other == text) rest
  simp only [List.length_cons]
  omega

/-- **An accessor lists what its first matches give**, each once. -/
theorem dispatch_signatures (left : List String) (paths : List Path) :
    (dispatch left paths).signatures =
      ((firstMatches left paths).map (·.signature.text)).eraseDups := by
  induction paths generalizing left with
  | nil => rfl
  | cons path rest ih =>
    rw [dispatch_cons]
    dsimp only
    split
    · next none => rw [firstMatches_of_none (here_isEmpty_iff.mp none), ih]
    · next here =>
      rw [firstMatches_of_some (here ∘ here_isEmpty_iff.mpr)]
      split
      · next all =>
        rw [others_of_all (here_length_iff.mp all), firstMatches_none]
        rfl
      · dsimp only
        rw [filter_others, ih, List.map_cons, List.eraseDups_cons, filter_eraseDups]
        refine congrArg (_ :: List.eraseDups ·) (List.filter_congr fun text _ => ?_)
        rw [Bool.eq_iff_iff]
        simp

/-! ## Unknown types -/

/-- **An object of an unknown type** is refused if a type that is left has no path, and is read
along the last first match if all have one. -/
theorem wayFor_of_unknown {typename : Except Fault Value} (left : List String)
    (paths : List Path)
    (unknown : ∀ names, (∀ name ∈ names, name ∈ left) → looksLike typename names = .ok false) :
    wayFor typename left paths =
      if left.any (isUncovered paths) then .unexpected
      else match (firstMatches left paths).getLast? with
        | some path => .along path
        | none => .nothing := by
  induction paths generalizing left with
  | nil =>
    unfold wayFor
    rw [unknown left fun _ mem => mem]
    cases left with
    | nil => rfl
    | cons name others => rfl
  | cons path rest ih =>
    unfold wayFor
    dsimp only
    rw [any_isUncovered_cons]
    split
    · next none =>
      rw [ih left unknown, firstMatches_of_none (here_isEmpty_iff.mp none),
        others_of_none (here_isEmpty_iff.mp none)]
    · next here =>
      rw [firstMatches_of_some (here ∘ here_isEmpty_iff.mpr)]
      split
      · next all =>
        rw [others_of_all (here_length_iff.mp all), firstMatches_none]
        rfl
      · next others =>
        have some : left.filter (· ∉ path.typenames) ≠ [] := fun none =>
          others (here_length_iff.mpr fun name mem => by
            simpa using List.filter_eq_nil_iff.mp none name mem)
        rw [filter_others, unknown _ fun name mem => (List.mem_filter.mp mem).1,
          ih _ fun names among => unknown names fun name mem =>
            (List.mem_filter.mp (among name mem)).1]
        dsimp only
        split
        · rfl
        · next covered =>
          have more := firstMatches_ne_nil some (by simpa using covered)
          rw [List.getLast?_cons_of_ne_nil more]

/-! ## Signatures -/

/-- A signature, as it is written, admits a value. What the parts that it is put together from
admit is `known`. -/
inductive Admits (known : String → Value → Prop) : String → Value → Prop
  | known {text : String} {v : Value} : known text v → Admits known text v
  | nothing : Admits known "None" .nothing
  /-- What is marked as such may be nothing, whatever it is otherwise. -/
  | missing (inner : String) : Admits known ("Optional[" ++ inner) .nothing
  | optional {text : String} {v : Value} :
    Admits known text v → Admits known ("Optional[" ++ text ++ "]") v
  | member {texts : List String} {text : String} {v : Value} : text ∈ texts →
    Admits known text v → Admits known ("Union[" ++ ", ".intercalate texts ++ "]") v

variable {known : String → Value → Prop} {text : String} {v : Value}

/-- The mark for nothing keeps what a signature admits. -/
theorem admits_optionalText (h : Admits known text v) : Admits known (optionalText text) v := by
  unfold optionalText
  split
  · exact h
  · exact .optional h

/-- What has the mark for nothing admits it. -/
theorem optionalText_admits_nothing (text : String) :
    Admits known (optionalText text) .nothing := by
  unfold optionalText
  split
  · next marked =>
    obtain ⟨inner, eq⟩ := String.startsWith_string_iff.mp marked
    have words : text = "Optional[" ++ .ofList inner := by
      rw [← String.ofList_toList (s := text), ← eq, String.ofList_append, String.ofList_toList]
    rw [words]
    exact .missing _
  · rw [String.append_assoc]
    exact .missing _

/-- The mark for nothing is put on where some type is left. -/
theorem admits_marked (left : List String) (h : Admits known text v) :
    Admits known (if left.isEmpty then text else optionalText text) v := by
  split
  · exact h
  · exact admits_optionalText h

/-- An accessor admits what one of its ways gives. -/
theorem admits_signature {d : Dispatch} (mem : text ∈ d.signatures) (h : Admits known text v) :
    Admits known d.signature v := by
  unfold Dispatch.signature
  split
  · next none =>
    rw [none] at mem
    cases mem
  · next only one =>
    obtain rfl : text = only := by simpa [one] using mem
    exact admits_marked d.left h
  · exact admits_marked d.left (.member mem h)

/-- An accessor admits nothing where a type has no way. -/
theorem signature_admits_nothing {d : Dispatch} (some : d.left ≠ []) :
    Admits known d.signature .nothing := by
  have isLeft : ¬ d.left.isEmpty := by simpa using some
  unfold Dispatch.signature
  split
  · exact .nothing
  · rw [if_neg isLeft]
    exact optionalText_admits_nothing _
  · dsimp only
    rw [if_neg isLeft]
    exact optionalText_admits_nothing _

/-! ## What is read -/

/-- What the statements of a path return; where there is none, that is nothing. -/
def readAlong (s : Scope) : Option Path → Except Fault (Option Value)
  | some path => runStatements s path.decoder.statements
  | none => .ok (some .nothing)

variable {s : Scope} {object t : Value} {className : String} {possible : List String}
  {accessor : Accessor}

theorem runWay_of_find (s : Scope) (object : Value) (path? : Option Path) :
    some <$> runWay s className object
        (match path? with | some path => .along path | none => .nothing) =
      readAlong s path? := by
  cases path? with
  | none => rfl
  | some path => exact (runStatements_statements s path.decoder).symm

/-- All that the way for an object depends on is which names its type is one of. -/
theorem wayFor_congr {first second : Except Fault Value}
    (same : ∀ names, looksLike first names = looksLike second names) (left : List String)
    (paths : List Path) : wayFor first left paths = wayFor second left paths := by
  induction paths generalizing left with
  | nil =>
    unfold wayFor
    rw [same]
  | cons path rest ih =>
    unfold wayFor
    dsimp only
    rw [same, ih, ih]

theorem looksLike_of_key (isKey : t.canBeKey) (names : List String) :
    looksLike (.ok t) names = .ok (t.text?.any names.contains) :=
  if_pos isKey

/-- The body of an accessor of a class reads an object in the way for it. -/
theorem runBody_view
    (complaint : s.meaning "UnexpectedTypenameError" = .ok (.thing (.tool .unexpectedTypename))) :
    runBody s object (view className possible accessor).body =
      runWay s className object (wayFor object.typename possible accessor.paths) :=
  runBody_dispatch complaint possible accessor.paths

/-- An object of a possible type is read along the first path for it. -/
theorem runBody_view_of_possible
    (complaint : s.meaning "UnexpectedTypenameError" = .ok (.thing (.tool .unexpectedTypename)))
    (typename : object.typename = .ok t) (isKey : t.canBeKey) {name : String}
    (mem : name ∈ possible) (is : t.text? = some name) :
    some <$> runBody s object (view className possible accessor).body =
      readAlong s (accessor.paths.find? (name ∈ ·.typenames)) := by
  have same (names : List String) :
      looksLike (.ok t) names = looksLike (.ok (.text name)) names := by
    rw [looksLike_of_key isKey, is]
    rfl
  rw [runBody_view complaint, typename, wayFor_congr same, wayFor_of_mem mem]
  exact runWay_of_find s object _

/-- An object of an unknown type is refused if a possible type has no path, and is read along the
last first match otherwise. -/
theorem runBody_view_of_unknown
    (complaint : s.meaning "UnexpectedTypenameError" = .ok (.thing (.tool .unexpectedTypename)))
    (typename : object.typename = .ok t) (isKey : t.canBeKey)
    (unknown : ∀ name ∈ possible, t.text? ≠ some name) :
    some <$> runBody s object (view className possible accessor).body =
      if possible.any (isUncovered accessor.paths) then
        .error (.unexpectedTypename className t.shown)
      else readAlong s (firstMatches possible accessor.paths).getLast? := by
  have noOne (names : List String) (among : ∀ name ∈ names, name ∈ possible) :
      looksLike object.typename names = .ok false := by
    rw [typename, looksLike_of_key isKey]
    cases is : t.text? with
    | none => rfl
    | some name =>
      have notIn : name ∉ names := fun mem => unknown name (among name mem) is
      simp [notIn]
  rw [runBody_view complaint, wayFor_of_unknown possible accessor.paths noOne]
  split
  · unfold runWay
    rw [typename]
    rfl
  · exact runWay_of_find s object _

/-- The signature of an accessor is put together from what its first matches give. -/
theorem view_signature (className : String) (possible : List String) (accessor : Accessor) :
    (view className possible accessor).signature =
      Dispatch.signature
        { signatures := ((firstMatches possible accessor.paths).map (·.signature.text)).eraseDups
          left := possible.filter (isUncovered accessor.paths) } := by
  rw [← dispatch_signatures, ← dispatch_left]
  rfl

/-- What the first path for a possible type gives is admitted. -/
theorem view_signature_admits {path : Path} {name : String} (mem : name ∈ possible)
    (found : accessor.paths.find? (name ∈ ·.typenames) = some path)
    (h : known path.signature.text v) :
    Admits known (view className possible accessor).signature v := by
  rw [view_signature]
  refine admits_signature ?_ (.known h)
  rw [List.mem_eraseDups]
  exact List.mem_map_of_mem (mem_firstMatches.mpr ⟨name, mem, found⟩)

/-- Nothing is admitted where a possible type has no path. -/
theorem view_signature_admits_nothing (some : possible.any (isUncovered accessor.paths)) :
    Admits known (view className possible accessor).signature .nothing := by
  rw [view_signature]
  exact signature_admits_nothing (by simpa using some)

/-- **An accessor reads an object along the first path for its type**, in the order of the paths.

For a possible type without a path that is nothing. An object of any other type, or of none, is an
error where some possible type has no path, and is read along the last of the first matches
otherwise. The signature lists what the first matches give, each once, and admits what is read for
every possible type; it admits nothing where a possible type has no path. -/
theorem view_reads_firstMatch
    (complaint : s.meaning "UnexpectedTypenameError" = .ok (.thing (.tool .unexpectedTypename)))
    (className : String) (possible : List String) (accessor : Accessor)
    (typename : object.typename = .ok t) (isKey : t.canBeKey) :
    let v := view className possible accessor
    (∀ name ∈ possible, t.text? = some name →
      some <$> runBody s object v.body =
        readAlong s (accessor.paths.find? (name ∈ ·.typenames))) ∧
    ((∀ name ∈ possible, t.text? ≠ some name) →
      some <$> runBody s object v.body =
        if possible.any (isUncovered accessor.paths) then
          .error (.unexpectedTypename className t.shown)
        else readAlong s (firstMatches possible accessor.paths).getLast?) ∧
    v.signature = Dispatch.signature
      { signatures := ((firstMatches possible accessor.paths).map (·.signature.text)).eraseDups
        left := possible.filter (isUncovered accessor.paths) } ∧
    ∀ known : String → Value → Prop,
      (∀ path ∈ accessor.paths, ∀ w, readAlong s (some path) = .ok (some w) →
        known path.signature.text w) →
      (∀ name ∈ possible, t.text? = some name → ∀ w, runBody s object v.body = .ok w →
        Admits known v.signature w) ∧
      (possible.any (isUncovered accessor.paths) → Admits known v.signature .nothing) := by
  intro v
  refine ⟨fun name mem is => runBody_view_of_possible complaint typename isKey mem is,
    runBody_view_of_unknown complaint typename isKey, view_signature className possible accessor,
    fun known gives => ⟨fun name mem is w read => ?_, view_signature_admits_nothing⟩⟩
  have along : some <$> runBody s object v.body =
      readAlong s (accessor.paths.find? (name ∈ ·.typenames)) :=
    runBody_view_of_possible complaint typename isKey mem is
  rw [read] at along
  cases found : accessor.paths.find? (name ∈ ·.typenames) with
  | some path =>
    rw [found] at along
    exact view_signature_admits mem found
      (gives path (List.mem_of_find?_eq_some found) w along.symm)
  | none =>
    rw [found] at along
    obtain rfl : w = .nothing := by injection along with same; injection same
    refine view_signature_admits_nothing (List.any_eq_true.mpr ⟨name, mem, ?_⟩)
    simpa [isUncovered] using found

/-- Paths for one type, for both types and for the other type. The last is behind the second for
every possible type, so an object that says nothing of its type is read along the second. -/
theorem view_reads_firstMatch_untyped :
    let path (label : String) (typenames : List String) : Path :=
      { signature := .bare "str", decoder := .convert .hole (some (.name label))
        typenames := .ofList typenames }
    let accessor : Accessor := ⟨"label",
      [path "first" ["User"], path "second" ["Bot", "User"], path "third" ["Bot"]]⟩
    let s : Scope :=
      { locals := [("first", .text "a"), ("second", .text "b"), ("third", .text "c")]
        bindings := [("UnexpectedTypenameError", .tool .unexpectedTypename)]
        send := fun v => .ok v }
    some <$> runBody s (.dict []) (view "Actor" ["User", "Bot"] accessor).body =
      .ok (some (.text "b")) := by
  intro path accessor s
  have untyped : (Value.dict []).typename = .ok .nothing := rfl
  have read := (view_reads_firstMatch (s := s) rfl "Actor" ["User", "Bot"] accessor untyped rfl).2.1
    (by simp [Value.text?])
  rw [read]
  rfl

end QueryShape.Program
