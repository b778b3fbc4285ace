import QueryShape.Program.Evaluate

/-!
# The way in which an accessor reads an object

`wayFor` goes through the paths of an accessor and says which one is taken for an object, given what
the object says of its type. `runBody_dispatch` shows that the body of the accessor takes it.

* `isTaken_wayFor`: when each of its answers is given.
* `wayFor_of_mem`: for an object of a known type it is the first path that is for the type.
-/

namespace QueryShape.Program

open Code QueryShape.Module Record

/-! ## Running decoders -/

/-- The value that the statements of a decoder return. -/
def runDecoder (s : Scope) : Decoder → Except Fault Value
  | .guard subject false body => do
    if (← subject.value s).isNothing then return .nothing else runDecoder s body
  | decoder => decoder.toExpr.value s

theorem runStatements_return (s : Scope) (e : Expr) (rest : List Statement) :
    runStatements s (.return e :: rest) = some <$> e.value s := by
  rw [runStatements]
  unfold Statement.run
  dsimp only
  cases e.value s <;> rfl

theorem runStatements_returnIfNothing (s : Scope) (subject : Expr) (rest : List Statement) :
    runStatements s (.returnIfNothing subject :: rest) = (do
      if (← subject.value s).isNothing then return some .nothing else runStatements s rest) := by
  rw [runStatements]
  unfold Statement.run
  dsimp only
  cases subject.value s with
  | error fault => rfl
  | ok v =>
    cases h : v.isNothing with
    | true => simp [bind, Except.bind, pure, Except.pure, h]
    | false => simp [bind, Except.bind, pure, Except.pure, h]

/-- The statements of a decoder always return. -/
theorem runStatements_statements (s : Scope) (d : Decoder) :
    runStatements s d.statements = some <$> runDecoder s d := by
  induction d with
  | convert template access? => exact runStatements_return s _ []
  | each source item body _ => exact runStatements_return s _ []
  | guard subject inList body ih =>
    cases inList with
    | true => exact runStatements_return s _ []
    | false =>
      unfold Decoder.statements runDecoder
      rw [runStatements_returnIfNothing, ih]
      cases subject.value s with
      | error fault => rfl
      | ok v =>
        cases h : v.isNothing with
        | true =>
          simp only [bind, Except.bind, h, if_true]
          rfl
        | false => simp [bind, Except.bind, h]

/-! ## Ways -/

/-- The way in which an accessor reads an object. -/
inductive Way
  | along (path : Path)
  /-- No path is for objects of the type. -/
  | nothing
  /-- The type is none of those that are left. -/
  | unexpected
  /-- The type cannot be looked at. -/
  | refused (fault : Fault)

/-- The type of an object is one of the given ones. -/
def looksLike (typename : Except Fault Value) (names : List String) : Except Fault Bool := do
  isOfTypes names (← typename)

/-- The way for an object that says the given of its type, where some types are left. -/
def wayFor (typename : Except Fault Value) : (left : List String) → List Path → Way
  | left, [] =>
    if left.isEmpty then .nothing
    else match looksLike typename left with
      | .ok true => .nothing
      | .ok false => .unexpected
      | .error fault => .refused fault
  | left, path :: rest =>
    let here := left.filter (· ∈ path.typenames)
    if here.isEmpty then wayFor typename left rest
    else if here.length = left.length then .along path
    else match looksLike typename here with
      | .ok true => .along path
      | .ok false => wayFor typename (left.filter (!here.contains ·)) rest
      | .error fault => .refused fault

/-- What reading an object in a way gives. -/
def runWay (s : Scope) (className : String) (object : Value) : Way → Except Fault Value
  | .along path => runDecoder s path.decoder
  | .nothing => .ok .nothing
  | .unexpected => do throw (.unexpectedTypename className (← object.typename).shown)
  | .refused fault => .error fault

/-! ## Bodies -/

theorem dispatch_cons (left : List String) (path : Path) (rest : List Path) :
    dispatch left (path :: rest) =
      let here := left.filter (· ∈ path.typenames)
      if here.isEmpty then dispatch left rest
      else if here.length = left.length then
        { branches := [.always path.decoder.statements], signatures := [path.signature.text] }
      else
        let others := dispatch (left.filter (!here.contains ·)) rest
        { others with
          branches := .ofTypes here path.decoder.statements :: others.branches
          signatures :=
            path.signature.text :: others.signatures.filter (· ≠ path.signature.text) } :=
  rfl

/-- If no type is left in the end, some branch has taken the last. -/
theorem branches_ne_nil {left : List String} (some : left ≠ []) (paths : List Path)
    (done : (dispatch left paths).left = []) : (dispatch left paths).branches ≠ [] := by
  induction paths generalizing left with
  | nil => exact absurd done some
  | cons path rest ih =>
    rw [dispatch_cons] at done ⊢
    dsimp only at done ⊢
    split at done
    · next none =>
      rw [if_pos none]
      exact ih some done
    · next here =>
      rw [if_neg here]
      split <;> exact List.cons_ne_nil _ _

/-- A branch in front of the others is done first. -/
theorem runBody_cons (s : Scope) (object : Value) (className : String) (branch : Branch)
    (d : Dispatch) (signatures : List String) (more : d.left = [] → d.branches ≠ []) :
    runBody s object
        (Dispatch.body { d with branches := branch :: d.branches, signatures } className) = (do
      match ← runBranch s object branch with
      | some v => return v
      | none => runBody s object (d.body className)) := by
  have body : Dispatch.body { d with branches := branch :: d.branches, signatures } className =
      branch :: d.body className := by
    unfold Dispatch.body
    by_cases done : d.left = []
    · have := more done
      simp [done, this]
    · simp [done]
  rw [body]
  rfl

/-- Objects of all types are read by the decoder. -/
theorem runBody_always (s : Scope) (object : Value) (d : Decoder) :
    runBody s object [.always d.statements] = runDecoder s d := by
  have branch : runBranch s object (.always d.statements) = some <$> runDecoder s d :=
    runStatements_statements s d
  rw [runBody, branch]
  cases runDecoder s d <;> rfl

/-- An object of one of the types is read by the statements. -/
theorem runBranch_ofTypes (s : Scope) (object : Value) (names : List String)
    (statements : List Statement) : runBranch s object (.ofTypes names statements) = (do
      if ← looksLike object.typename names then runStatements s statements else return none) := by
  unfold looksLike
  rw [bind_assoc]
  rfl

variable {s : Scope} {object : Value} {className : String}

/-- An object of an unexpected type is an error. -/
theorem runBody_unexpected
    (complaint : s.meaning "UnexpectedTypenameError" = .ok (.thing (.tool .unexpectedTypename))) :
    runBody s object [.unexpected className] = runWay s className object .unexpected := by
  rw [runBody]
  unfold runBranch runWay
  rw [complaint]
  cases object.typename <;> rfl

/-- An object of none of the types that are left is an error, if its type can be looked at. -/
theorem runBody_end
    (complaint : s.meaning "UnexpectedTypenameError" = .ok (.thing (.tool .unexpectedTypename)))
    (left : List String) :
    runBody s object [.ofTypes left [.return .nothing], .unexpected className] =
      match looksLike object.typename left with
      | .ok true => .ok .nothing
      | .ok false => runWay s className object .unexpected
      | .error fault => .error fault := by
  rw [runBody, runBranch_ofTypes]
  cases h : looksLike object.typename left with
  | error fault => rfl
  | ok isOne =>
    cases isOne with
    | true =>
      simp only [bind, Except.bind, if_true, runStatements_return]
      rfl
    | false =>
      rw [← runBody_unexpected complaint]
      rfl

/-- **The body of an accessor reads an object in the way for it.** -/
theorem runBody_dispatch
    (complaint : s.meaning "UnexpectedTypenameError" = .ok (.thing (.tool .unexpectedTypename)))
    (left : List String) (paths : List Path) :
    runBody s object ((dispatch left paths).body className) =
      runWay s className object (wayFor object.typename left paths) := by
  induction paths generalizing left with
  | nil =>
    unfold wayFor
    by_cases none : left = []
    · subst none
      rfl
    · have isSome : left.isEmpty = false := by simpa using none
      have body : (dispatch left []).body className =
          [.ofTypes left [.return .nothing], .unexpected className] := by
        unfold dispatch Dispatch.body
        simp [isSome]
      rw [body, isSome, runBody_end complaint]
      cases looksLike object.typename left with
      | error fault => rfl
      | ok isOne => cases isOne <;> rfl
  | cons path rest ih =>
    rw [dispatch_cons]
    unfold wayFor
    dsimp only
    split
    · exact ih left
    · next here =>
      split
      · exact runBody_always s object path.decoder
      · next others =>
        have some : left.filter (!(left.filter (· ∈ path.typenames)).contains ·) ≠ [] := by
          intro none
          refine others ?_
          rw [List.filter_eq_self.mpr fun name mem => ?_]
          have taken := List.filter_eq_nil_iff.mp none name mem
          have taken : name ∈ left ∧ name ∈ path.typenames := by simpa using taken
          exact decide_eq_true taken.2
        rw [runBody_cons _ _ _ _ _ _ (branches_ne_nil some rest), ih, runBranch_ofTypes,
          runStatements_statements]
        cases looksLike object.typename (left.filter (· ∈ path.typenames)) with
        | error fault => rfl
        | ok isOne =>
          cases isOne with
          | false => rfl
          | true =>
            unfold runWay
            simp only [bind, Except.bind, if_true]
            cases runDecoder s path.decoder <;> rfl

/-- What a way tells of an object and of the paths of an accessor. -/
def Way.IsTaken (typename : Except Fault Value) (paths : List Path) : Way → Prop
  | .along path => path ∈ paths
  | .nothing => True
  | .unexpected => ∃ names, looksLike typename names = .ok false
  | .refused fault => ∃ names, looksLike typename names = .error fault

/-- A way that is taken with more paths tells no less. -/
theorem Way.IsTaken.cons {typename : Except Fault Value} {paths : List Path} {way : Way}
    (h : way.IsTaken typename paths) (path : Path) : way.IsTaken typename (path :: paths) := by
  cases way with
  | along other => exact List.mem_cons_of_mem _ h
  | nothing => trivial
  | unexpected => exact h
  | refused fault => exact h

/-- **The path that is taken is one of the accessor's**, and where none is, the type of the object
has been looked at. -/
theorem isTaken_wayFor (typename : Except Fault Value) (left : List String) (paths : List Path) :
    (wayFor typename left paths).IsTaken typename paths := by
  induction paths generalizing left with
  | nil =>
    unfold wayFor
    split
    · trivial
    · cases looks : looksLike typename left with
      | error fault => exact ⟨left, looks⟩
      | ok isOne =>
        cases isOne with
        | false => exact ⟨left, looks⟩
        | true => trivial
  | cons path rest ih =>
    unfold wayFor
    dsimp only
    split
    · exact (ih left).cons path
    · split
      · exact List.mem_cons_self
      · cases looks : looksLike typename (left.filter (· ∈ path.typenames)) with
        | error fault => exact ⟨_, looks⟩
        | ok isOne =>
          cases isOne with
          | false => exact (ih _).cons path
          | true => exact List.mem_cons_self

theorem mem_of_wayFor {typename : Except Fault Value} {left : List String} {paths : List Path}
    {path : Path} (h : wayFor typename left paths = .along path) : path ∈ paths := by
  have taken := isTaken_wayFor typename left paths
  rwa [h] at taken

theorem looksLike_of_refused {typename : Except Fault Value} {left : List String}
    {paths : List Path} {fault : Fault} (h : wayFor typename left paths = .refused fault) :
    ∃ names, looksLike typename names = .error fault := by
  have taken := isTaken_wayFor typename left paths
  rwa [h] at taken

theorem looksLike_of_unexpected {typename : Except Fault Value} {left : List String}
    {paths : List Path} (h : wayFor typename left paths = .unexpected) :
    ∃ names, looksLike typename names = .ok false := by
  have taken := isTaken_wayFor typename left paths
  rwa [h] at taken

/-! ## Known types -/

theorem looksLike_text (name : String) (names : List String) :
    looksLike (.ok (.text name)) names = .ok (names.contains name) := rfl

/-- **An object of a type that is left is read along the first path for its type**, and reads as
nothing if there is none. -/
theorem wayFor_of_mem {name : String} {left : List String} (mem : name ∈ left)
    (paths : List Path) : wayFor (.ok (.text name)) left paths =
      match paths.find? (name ∈ ·.typenames) with
      | some path => .along path
      | none => .nothing := by
  induction paths generalizing left with
  | nil =>
    unfold wayFor
    rw [if_neg (by simpa using List.ne_nil_of_mem mem), looksLike_text]
    simp [mem]
  | cons path rest ih =>
    unfold wayFor
    dsimp only
    rw [List.find?_cons]
    by_cases isFor : name ∈ path.typenames
    · have here : name ∈ left.filter (· ∈ path.typenames) := List.mem_filter.mpr ⟨mem, by simpa⟩
      rw [if_neg (by simpa using ⟨name, mem, isFor⟩), looksLike_text]
      simp only [isFor, decide_true, List.contains_iff_mem.mpr here, ite_self]
    · have notHere : name ∉ left.filter (· ∈ path.typenames) := by simp [isFor]
      simp only [isFor, decide_false]
      split
      · exact ih mem
      · split
        · next all =>
          rw [List.length_filter_eq_length_iff] at all
          exact absurd (by simpa using all name mem) isFor
        · rw [looksLike_text]
          simp only [List.contains_eq_mem, notHere, decide_false]
          exact ih (List.mem_filter.mpr ⟨mem, by simp [isFor]⟩)

end QueryShape.Program
