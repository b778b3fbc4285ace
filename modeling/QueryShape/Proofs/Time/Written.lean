import Mathlib
import QueryShape.Time.Reader
import QueryShape.Time.Writer

/-!
# Dates and times that are written are read

The reader goes through the text of a time part by part: the date takes up its first ten characters,
the time of the day ends before the sign of the distance from universal time, and each part is as
many digits as its width. So what is written is read back, whatever is left out of it.

A distance is the exception. Where its whole seconds are none, the reader looks no further, so less
than a second is lost (`Offset.settled`).

* `Date.read?_text`: the text of a date is read as the date.
* `DateTime.read?_text`: the text of a time is read as the time, with its distance settled.
* `DateTime.settled_eq_iff`, `DateTime.instant_settled_iff`: which is the same time unless that is
  less than a second.
-/

namespace QueryShape.Time

/-! ## Digits -/

theorem length_digits (width n : Nat) : (digits width n).length = width := by
  induction width generalizing n with
  | zero => rfl
  | succ width ih => rw [digits, List.length_append, ih, List.length_singleton]

/-- What holds of every digit holds of all digits of a number. -/
theorem forall_mem_digits {p : Char → Prop} (h : ∀ d < 10, p (Char.ofNat (0x30 + d)))
    (width n : Nat) : ∀ c ∈ digits width n, p c := by
  induction width generalizing n with
  | zero => exact fun _ mem => absurd mem List.not_mem_nil
  | succ width ih =>
    intro c mem
    rw [digits, List.mem_append, List.mem_singleton] at mem
    rcases mem with mem | rfl
    · exact ih _ c mem
    · exact h _ (Nat.mod_lt n (by decide))

theorem number?_append (cs : List Char) (c : Char) :
    number? (cs ++ [c]) =
      (number? cs).bind fun n => (digit? c).bind fun d => some (10 * n + d) := by
  unfold number?
  rw [List.foldl_append]
  rfl

theorem number?_digits (width n : Nat) : number? (digits width n) = some (n % 10 ^ width) := by
  induction width generalizing n with
  | zero => simp [digits, number?, Nat.mod_one]
  | succ width ih =>
    have digit : ∀ d < 10, digit? (Char.ofNat (0x30 + d)) = some d := by decide
    rw [digits, number?_append, ih, digit _ (Nat.mod_lt n (by decide)), Nat.pow_succ', Nat.mod_mul]
    simp [Nat.add_comm]

/-- The digits that are written are taken. -/
theorem take?_digits {width n : Nat} (h : n < 10 ^ width) (rest : List Char) :
    take? width (digits width n ++ rest) = some (n, rest) := by
  have long : ¬ (digits width n ++ rest).length < width := by
    rw [List.length_append, length_digits]
    omega
  unfold take?
  rw [if_neg long, List.take_left' (length_digits width n), List.drop_left' (length_digits width n),
    number?_digits, Nat.mod_eq_of_lt h]
  rfl

/-- A digit leads what begins with digits. -/
theorem head_digits (width n : Nat) (rest : List Char) :
    ∃ c tail, digits (width + 1) n ++ rest = c :: tail ∧ c.isDigit = true := by
  obtain ⟨c, tail, eq⟩ := List.exists_cons_of_ne_nil
    (List.ne_nil_of_length_eq_add_one (length_digits (width + 1) n))
  refine ⟨c, tail ++ rest, by rw [eq]; rfl, ?_⟩
  exact forall_mem_digits (p := fun c => c.isDigit = true) (by decide) _ n c
    (eq ▸ List.mem_cons_self)

/-! ## Dates -/

theorem Date.length_chars (d : Date) : d.chars.length = 10 := by
  simp [Date.chars, length_digits]

theorem Date.bounds (d : Date) : d.year < 10 ^ 4 ∧ d.month < 10 ^ 2 ∧ d.day < 10 ^ 2 := by
  have valid := d.valid
  have month : daysInMonth d.year d.month ≤ 31 := by
    unfold daysInMonth
    split_ifs <;> decide
  simp only [isDay, Bool.and_eq_true, decide_eq_true_eq] at valid
  omega

theorem Date.ofParts?_self (d : Date) : Date.ofParts? d.year d.month d.day = some d :=
  dif_pos d.valid

/-- **A date that is written is read.** -/
theorem readDate_chars (d : Date) : readDate d.chars = some d := by
  obtain ⟨year, month, day⟩ := d.bounds
  obtain ⟨c, tail, next, digit⟩ := head_digits 1 d.month ('-' :: digits 2 d.day)
  have noWeek : c ≠ 'W' := by
    rintro rfl
    exact absurd digit (by decide)
  have last : take? 2 (digits 2 d.day) = some (d.day, []) := by
    have taken := take?_digits day []
    rwa [List.append_nil] at taken
  unfold readDate Date.chars
  rw [List.append_assoc, take?_digits year]
  simp only [Option.bind_eq_bind, Option.bind_some, List.cons_append, List.head?_cons,
    beq_self_eq_true, if_true, List.drop_one, List.tail_cons]
  rw [next]
  split
  · next same => exact absurd (List.cons.inj same).1 noWeek
  · rw [← next, take?_digits month]
    simp only [Option.bind_some, skipHyphen?, if_true, last, d.ofParts?_self]

/-- A text of ASCII characters takes up one byte for each. -/
theorem utf8ByteSize_ofList {cs : List Char} (ascii : ∀ c ∈ cs, c.toNat < 0x80) :
    (String.ofList cs).utf8ByteSize = cs.length := by
  rw [String.utf8ByteSize_ofList]
  induction cs with
  | nil => rfl
  | cons c rest ih =>
    obtain ⟨first, others⟩ := List.forall_mem_cons.mp ascii
    have one : c.utf8Size = 1 :=
      Char.utf8Size_eq_one_iff.mpr (UInt32.le_iff_toNat_le.mpr (Nat.le_of_lt_succ first))
    rw [String.utf8Len_cons, ih others, one, List.length_cons]

/-- What holds of digits and hyphens holds of all characters of a date. -/
theorem Date.forall_mem_chars {p : Char → Prop} (h : ∀ d < 10, p (Char.ofNat (0x30 + d)))
    (hyphen : p '-') (d : Date) : ∀ c ∈ d.chars, p c := by
  have digit := @forall_mem_digits p h
  intro c mem
  simp only [Date.chars, List.mem_append, List.mem_cons] at mem
  rcases mem with (mem | rfl | mem) | rfl | mem
  · exact digit _ _ c mem
  · exact hyphen
  · exact digit _ _ c mem
  · exact hyphen
  · exact digit _ _ c mem

/-- **The text of a date is read** as the date. -/
theorem Date.read?_text (d : Date) : Date.read? d.text = some d := by
  have ascii : ∀ c ∈ d.chars, c.toNat < 0x80 :=
    d.forall_mem_chars (p := fun c => c.toNat < 0x80) (by decide) (by decide)
  have size : d.text.utf8ByteSize = 10 := (utf8ByteSize_ofList ascii).trans d.length_chars
  unfold Date.read?
  rw [size, if_pos (by decide), Date.text, String.toList_ofList, readDate_chars]

/-! ## Times of a day -/

variable {colons? : Option Bool} {parts : Parts} {set : Parts → Nat → Parts}
  {setters : List (Parts → Nat → Parts)} {n micro : Nat}

/-- The last part of a time, with nothing after it. -/
theorem readPartsFrom_last (h : n < 10 ^ 2) :
    readPartsFrom colons? parts (set :: setters) (digits 2 n) = some (set parts n, []) := by
  have taken := take?_digits h []
  rw [List.append_nil] at taken
  simp only [readPartsFrom, taken, Option.bind_eq_bind, Option.bind_some]
  rfl

/-- A part of a time, with a colon after it. -/
theorem readPartsFrom_colon (h : n < 10 ^ 2) (colons : colons?.getD true = true)
    {rest : List Char} (more : rest ≠ []) :
    readPartsFrom colons? parts (set :: setters) (digits 2 n ++ ':' :: rest) =
      readPartsFrom (some true) (set parts n) setters rest := by
  obtain ⟨c, tail, rfl⟩ := List.exists_cons_of_ne_nil more
  have given : colons?.getD true = true := colons
  simp only [readPartsFrom, take?_digits h, Option.bind_eq_bind, Option.bind_some,
    List.head?_cons, beq_self_eq_true, colons, and_self, if_true]

/-- The digits of a fraction are read, and nothing is left over. -/
theorem withFraction_digits (small : micro < microsPerSecond) :
    withFraction parts (digits 6 micro) = some ({ parts with micro }, []) := by
  have whole : digits 6 micro ++ List.replicate (6 - (digits 6 micro).length) '0' =
      digits 6 micro := by simp [length_digits]
  have done : (digits 6 micro).drop 6 = [] := by simp [length_digits]
  unfold withFraction readFraction
  rw [List.take_of_length_le (length_digits 6 micro).le, whole, number?_digits, done,
    Nat.mod_eq_of_lt (show micro < 10 ^ 6 from small)]
  rfl

/-- The last part of a time, with the fraction that is written for its microseconds. -/
theorem readPartsFrom_fraction (h : n < 10 ^ 2) (small : micro < microsPerSecond)
    (whole : (set parts n).micro = 0) :
    readPartsFrom colons? parts (set :: setters) (digits 2 n ++ fraction micro) =
      some ({ set parts n with micro }, []) := by
  unfold fraction
  split
  · next zero =>
    have same : { set parts n with micro } = set parts n := by rw [zero, ← whole]
    rw [List.append_nil, readPartsFrom_last h, same]
  · obtain ⟨c, tail, eq⟩ := List.exists_cons_of_ne_nil
      (List.ne_nil_of_length_eq_add_one (length_digits 6 micro))
    rw [eq, readPartsFrom, take?_digits h]
    simp only [Option.bind_eq_bind, Option.bind_some]
    rw [if_neg (by simp), if_pos (Or.inl trivial), ← eq, withFraction_digits small]

/-- The four parts of a time, as they are written. -/
def clockChars (hour minute second micro : Nat) : List Char :=
  digits 2 hour ++ ':' :: digits 2 minute ++ ':' :: digits 2 second ++ fraction micro

theorem readParts_clockChars {hour minute second : Nat} (hh : hour < 10 ^ 2)
    (hm : minute < 10 ^ 2) (hs : second < 10 ^ 2) (small : micro < microsPerSecond) :
    readParts (clockChars hour minute second micro) =
      some ({ hour, minute, second, micro }, []) := by
  have more (n : Nat) (rest : List Char) : digits 2 n ++ rest ≠ [] :=
    List.append_ne_nil_of_left_ne_nil (List.ne_nil_of_length_eq_add_one (length_digits 2 n)) _
  unfold readParts clockChars
  rw [List.append_assoc, List.append_assoc, List.cons_append, List.cons_append,
    readPartsFrom_colon hh rfl (more _ _), readPartsFrom_colon hm rfl (more _ _),
    readPartsFrom_fraction hs small rfl]

/-- An hour and a minute, as they are written. -/
theorem readParts_minutes {hour minute : Nat} (hh : hour < 10 ^ 2) (hm : minute < 10 ^ 2) :
    readParts (digits 2 hour ++ ':' :: digits 2 minute) = some ({ hour, minute }, []) := by
  unfold readParts
  rw [readPartsFrom_colon hh rfl (List.ne_nil_of_length_eq_add_one (length_digits 2 minute)),
    readPartsFrom_last hm]

/-! ## Distances from universal time -/

/-- No distance. -/
def Offset.zero : Offset := ⟨0, by decide⟩

/-- A distance as it is read: less than a second is none. -/
def Offset.settled (o : Offset) : Offset :=
  if o.micros.natAbs < microsPerSecond then .zero else o

/-- A distance is written as its sign and its parts, of which the last may be missing. -/
theorem readParts_offset (o : Offset) : ∃ sign body, o.chars = sign :: body ∧
    (sign = if o.micros < 0 then '-' else '+') ∧
    readParts body = some ({
      hour := o.micros.natAbs / microsPerSecond / 3600
      minute := o.micros.natAbs / microsPerSecond / 60 % 60
      second := o.micros.natAbs / microsPerSecond % 60
      micro := o.micros.natAbs % microsPerSecond }, []) := by
  refine ⟨_, _, rfl, rfl, ?_⟩
  have day := o.valid
  unfold microsPerDay at day
  generalize hs : o.micros.natAbs / microsPerSecond = seconds
  generalize hu : o.micros.natAbs % microsPerSecond = micro
  have hour : seconds / 3600 < 10 ^ 2 := by
    have : seconds < 86400 := by rw [← hs]; exact Nat.div_lt_of_lt_mul (by rwa [Nat.mul_comm])
    omega
  have small : micro < microsPerSecond := hu ▸ Nat.mod_lt _ (by decide)
  split
  · next whole =>
    rw [List.append_nil, readParts_minutes hour (by omega), whole.1, whole.2]
  · have minute : seconds / 60 % 60 < 10 ^ 2 := by omega
    have second : seconds % 60 < 10 ^ 2 := by omega
    rw [← readParts_clockChars hour minute second small]
    simp [clockChars]

theorem readOffset_cons {sign : Char} {body : List Char} (isSign : sign = '+' ∨ sign = '-')
    (h : readParts body = some (parts, [])) :
    readOffset (sign :: body) =
      let seconds := (parts.hour * 60 + parts.minute) * 60 + parts.second
      let micros : Nat := if seconds = 0 then 0 else seconds * microsPerSecond + parts.micro
      Offset.ofMicros? (if sign = '-' then -(micros : Int) else micros) := by
  have noZ : sign ≠ 'Z' := by rcases isSign with rfl | rfl <;> decide
  have passes : ¬ (sign ≠ '+' ∧ sign ≠ '-') := fun other =>
    isSign.elim other.1 other.2
  unfold readOffset
  split
  · next same => exact absurd (List.cons.inj same).1 noZ
  · next sign' rest _ same =>
    obtain ⟨rfl, rfl⟩ := List.cons.inj same
    rw [if_neg passes, h]
    rfl
  · next same => cases same

/-- **A distance that is written is read**, unless it is less than a second, which is read as
none. -/
theorem readOffset_chars (o : Offset) : readOffset o.chars = some o.settled := by
  obtain ⟨sign, body, eq, isSign, parts⟩ := readParts_offset o
  have oneOf : sign = '+' ∨ sign = '-' := by
    rw [isSign]
    split
    · exact Or.inr rfl
    · exact Or.inl rfl
  have whole : (o.micros.natAbs / microsPerSecond / 3600 * 60 +
      o.micros.natAbs / microsPerSecond / 60 % 60) * 60 + o.micros.natAbs / microsPerSecond % 60 =
        o.micros.natAbs / microsPerSecond := by omega
  rw [eq, readOffset_cons oneOf parts]
  dsimp only
  have zero : o.micros.natAbs / microsPerSecond = 0 ↔ o.micros.natAbs < microsPerSecond :=
    Nat.div_eq_zero_iff_lt (by decide)
  rw [whole, Nat.div_add_mod']
  unfold Offset.settled
  by_cases tiny : o.micros.natAbs < microsPerSecond
  · rw [if_pos tiny, if_pos (zero.mpr tiny)]
    simp [Offset.ofMicros?, Offset.zero, microsPerDay, microsPerSecond]
  · have back : (if sign = '-' then -(o.micros.natAbs : Int) else o.micros.natAbs) = o.micros := by
      rw [isSign]
      by_cases negative : o.micros < 0
      · rw [if_pos negative, if_pos rfl]
        omega
      · rw [if_neg negative, if_neg (by decide)]
        omega
    rw [if_neg tiny, if_neg (zero.not.mpr tiny), back]
    exact dif_pos o.valid

/-! ## Times -/

/-- What holds of digits and the point holds of all characters of a fraction. -/
theorem forall_mem_fraction {p : Char → Prop} (h : ∀ d < 10, p (Char.ofNat (0x30 + d)))
    (point : p '.') (micro : Nat) : ∀ x ∈ fraction micro, p x := by
  intro x mem
  unfold fraction at mem
  split at mem
  · exact absurd mem List.not_mem_nil
  · rcases List.mem_cons.mp mem with rfl | mem
    · exact point
    · exact forall_mem_digits h _ _ x mem

/-- What holds of digits, colons and points holds of all characters of a time of the day. -/
theorem Clock.forall_mem_chars {p : Char → Prop} (h : ∀ d < 10, p (Char.ofNat (0x30 + d)))
    (colon : p ':') (point : p '.') (c : Clock) : ∀ x ∈ c.chars, p x := by
  have digit := @forall_mem_digits p h
  intro x mem
  simp only [Clock.chars, List.mem_append, List.mem_cons] at mem
  rcases mem with ((mem | rfl | mem) | rfl | mem) | mem
  · exact digit _ _ x mem
  · exact colon
  · exact digit _ _ x mem
  · exact colon
  · exact digit _ _ x mem
  · exact forall_mem_fraction h point _ x mem

theorem Clock.ofParts?_self (c : Clock) :
    Clock.ofParts? c.hour c.minute c.second c.micro = some c :=
  dif_pos c.valid

/-- **A time of the day that is written is read**, with the distance after it. -/
theorem readClock_chars (c : Clock) (offset? : Option Offset) :
    readClock (c.chars ++ (offset?.map Offset.chars).getD []) =
      some (c, offset?.map Offset.settled) := by
  obtain ⟨hour, minute, second, micro⟩ := c.valid
  have parts : readParts c.chars = some ({
      hour := c.hour, minute := c.minute, second := c.second, micro := c.micro }, []) :=
    readParts_clockChars (by omega) (by omega) (by omega) micro
  have unmarked : ∀ x ∈ c.chars, (!(x == '+' || x == '-' || x == 'Z')) = true :=
    c.forall_mem_chars (p := fun x => (!(x == '+' || x == '-' || x == 'Z')) = true)
      (by decide) (by decide) (by decide)
  unfold readClock
  dsimp only
  rw [List.takeWhile_append_of_pos unmarked, List.dropWhile_append_of_pos unmarked]
  cases offset? with
  | none =>
    simp [parts, c.ofParts?_self]
  | some o =>
    obtain ⟨sign, body, eq, isSign, -⟩ := readParts_offset o
    have marked : (!(sign == '+' || sign == '-' || sign == 'Z')) = false := by
      rw [isSign]
      split <;> decide
    have read := readOffset_chars o
    rw [eq] at read
    simp only [Option.map_some, Option.getD_some, eq, List.takeWhile_cons, List.dropWhile_cons,
      marked, Bool.false_eq_true, if_false, List.append_nil, parts, Option.bind_eq_bind,
      Option.bind_some, c.ofParts?_self, read]
    rfl

/-- What holds of digits, signs, colons and points holds of all characters of a distance. -/
theorem Offset.forall_mem_chars {p : Char → Prop} (h : ∀ d < 10, p (Char.ofNat (0x30 + d)))
    (marks : ∀ m ∈ ['-', '+', ':', '.'], p m) (o : Offset) : ∀ x ∈ o.chars, p x := by
  have digit := @forall_mem_digits p h
  have sign : p (if o.micros < 0 then '-' else '+') := by
    split <;> exact marks _ (by simp)
  have colon : p ':' := marks _ (by simp)
  intro x mem
  simp only [Offset.chars, List.mem_cons, List.mem_append] at mem
  rcases mem with rfl | (mem | rfl | mem) | mem
  · exact sign
  · exact digit _ _ x mem
  · exact colon
  · exact digit _ _ x mem
  · split at mem
    · exact absurd mem List.not_mem_nil
    · simp only [List.cons_append, List.mem_cons, List.mem_append] at mem
      rcases mem with rfl | mem | mem
      · exact colon
      · exact digit _ _ x mem
      · exact forall_mem_fraction h (marks _ (by simp)) _ x mem

/-- What holds of digits and of the marks between them holds of all characters of a time. -/
theorem DateTime.forall_mem_chars {p : Char → Prop} (h : ∀ d < 10, p (Char.ofNat (0x30 + d)))
    (marks : ∀ m ∈ ['-', '+', ':', '.', 'T'], p m) (t : DateTime) : ∀ x ∈ t.chars, p x := by
  intro x mem
  simp only [DateTime.chars, List.mem_append, List.mem_cons] at mem
  rcases mem with (mem | rfl | mem) | mem
  · exact t.date.forall_mem_chars h (marks _ (by simp)) x mem
  · exact marks _ (by simp)
  · exact t.clock.forall_mem_chars h (marks _ (by simp)) (marks _ (by simp)) x mem
  · cases offset : t.offset? with
    | none => simp [offset] at mem
    | some o =>
      rw [offset] at mem
      refine o.forall_mem_chars h (fun m hm => marks m ?_) x mem
      simp only [List.mem_cons] at hm ⊢
      tauto

/-- A time as it is read: a distance of less than a second is none. -/
def DateTime.settled (t : DateTime) : DateTime :=
  { t with offset? := t.offset?.map Offset.settled }

/-- The date of a time ends after its ten characters. -/
theorem dateLength_chars (d : Date) (rest : List Char) : dateLength (d.chars ++ rest) = 10 := by
  obtain ⟨c, tail, next, digit⟩ := head_digits 1 d.month ('-' :: digits 2 d.day ++ rest)
  have chars : d.chars ++ rest = digits 4 d.year ++ '-' :: c :: tail := by
    rw [← next, Date.chars]
    simp
  have notSeven : (d.chars ++ rest).length ≠ 7 := by
    rw [List.length_append, d.length_chars]
    omega
  have hyphen : (d.chars ++ rest)[4]? = some '-' := by
    rw [chars, List.getElem?_append_right (length_digits 4 d.year).le, length_digits]
    rfl
  have noWeek : (d.chars ++ rest)[5]? ≠ some 'W' := by
    rw [chars, List.getElem?_append_right (by rw [length_digits]; decide), length_digits]
    rintro same
    cases same
    exact absurd digit (by decide)
  unfold dateLength
  dsimp only
  rw [if_neg notSeven, if_pos hyphen, if_neg fun week => noWeek week.1,
    if_neg fun week => noWeek week.1]

/-- **The text of a time is read** as the time, apart from a distance of less than a second. -/
theorem DateTime.read?_text (t : DateTime) : DateTime.read? t.text = some t.settled := by
  have chars : t.text.toList =
      t.date.chars ++ ('T' :: (t.clock.chars ++ (t.offset?.map Offset.chars).getD [])) := by
    rw [DateTime.text, String.toList_ofList, DateTime.chars, List.append_assoc, List.cons_append]
  have length := t.date.length_chars
  have long : ¬ t.text.toList.length < 7 := by
    rw [chars, List.length_append]
    omega
  unfold DateTime.read?
  dsimp only
  rw [if_neg long, chars, dateLength_chars, List.take_left' length, List.drop_left' length,
    readDate_chars]
  simp only [Option.bind_eq_bind, Option.bind_some, readClock_chars]
  rfl

/-! ## Distances that are lost -/

/-- The distance from universal time is less than a second, and not none. -/
def DateTime.HasTinyOffset (t : DateTime) : Prop :=
  ∃ o, t.offset? = some o ∧ o.micros ≠ 0 ∧ o.micros.natAbs < microsPerSecond

theorem Offset.micros_settled (o : Offset) :
    o.settled.micros = if o.micros.natAbs < microsPerSecond then 0 else o.micros := by
  unfold Offset.settled
  split <;> rfl

theorem Offset.eq_of_micros {a b : Offset} (h : a.micros = b.micros) : a = b := by
  cases a
  cases b
  cases h
  rfl

/-- What is read has the distance that was written, unless that is less than a second. -/
theorem DateTime.micros_settled_iff (t : DateTime) :
    (t.settled.offset?.map (·.micros)).getD 0 = (t.offset?.map (·.micros)).getD 0 ↔
      ¬ t.HasTinyOffset := by
  unfold HasTinyOffset settled
  cases t.offset? with
  | none => simp
  | some o =>
    simp only [Option.map_some, Option.getD_some, o.micros_settled, Option.some.injEq,
      exists_eq_left']
    split <;> simp_all [eq_comm]

/-- **A time is read as itself** exactly if its distance is not less than a second. -/
theorem DateTime.settled_eq_iff (t : DateTime) : t.settled = t ↔ ¬ t.HasTinyOffset := by
  rw [← t.micros_settled_iff]
  refine ⟨fun same => by rw [same], fun same => ?_⟩
  have kept : t.offset?.map Offset.settled = t.offset? := by
    unfold settled at same
    cases offset : t.offset? with
    | none => rfl
    | some o =>
      rw [offset] at same
      exact congrArg some (Offset.eq_of_micros same)
  unfold settled
  rw [kept]

/-- What is read is the same instant exactly if what is written has no such distance. -/
theorem DateTime.instant_settled_iff (t : DateTime) :
    t.settled.instant = t.instant ↔ ¬ t.HasTinyOffset := by
  rw [← t.micros_settled_iff]
  unfold instant
  have clock : t.settled.clock = t.clock := rfl
  have date : t.settled.date = t.date := rfl
  rw [clock, date]
  dsimp only
  omega

end QueryShape.Time
