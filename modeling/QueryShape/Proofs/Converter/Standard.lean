import QueryShape.Proofs.Converter.Identifier
import QueryShape.Proofs.Time.Written

/-!
# What standard converters send, they read

A date, an identifier and a time come back from the text that they are sent as, and so does a time
in universal time whose distance is written as `Z`. Only a distance from universal time that is less
than a second does not come back.

* `sentAndRead_date`, `sentAndRead_uuid`, `readDateTime_text`: one converter each.
* `readDateTime_Z`: a time with `Z` in place of its distance.
* `sentAndRead_standard`: all of it together.
* `tinyOffset_lost`: a time that does not come back.
-/

namespace QueryShape.Converter

open Text Time

/-- What a converter reads where a value has been sent. -/
def sentAndRead (c : Converter) (value : Value) : Except Fault Value := do
  c.deserialize (← c.serialize value)

theorem sentAndRead_eq {c : Converter} {value sent : Value} (h : c.serialize value = .ok sent) :
    c.sentAndRead value = c.deserialize sent := by
  rw [sentAndRead, h]
  rfl

/-! ## Dates and identifiers -/

/-- **A date comes back.** -/
theorem sentAndRead_date (d : Date) : date.sentAndRead (.date d) = .ok (.date d) := by
  have sent : date.serialize (.date d) = .ok (.text d.text) := rfl
  have reads : date.deserialize = readDate := rfl
  rw [sentAndRead_eq sent, reads, readDate, d.read?_text]

/-- **An identifier comes back.** -/
theorem sentAndRead_uuid {n : Nat} (h : n < 2 ^ 128) :
    uuid.sentAndRead (.uuid n) = .ok (.uuid n) := by
  have sent : uuid.serialize (.uuid n) = .ok (.text (Value.uuidText n)) := rfl
  have reads : uuid.deserialize = readUuid := rfl
  rw [sentAndRead_eq sent, reads, readUuid, uuid?_uuidText h]

/-! ## Times -/

theorem toList_text (t : DateTime) : t.text.toList = t.chars := String.toList_ofList

theorem toList_spellOutZ (text : String) :
    (spellOutZ text).toList = replaceChars ['Z'] "+00:00".toList text.toList :=
  String.toList_ofList

/-- There is nothing to spell out in a time. -/
theorem Z_not_mem_text (t : DateTime) : 'Z' ∉ t.text.toList := fun mem =>
  t.forall_mem_chars (p := fun x => x ≠ 'Z') (by decide) (by simp) 'Z' (toList_text t ▸ mem) rfl

theorem spellOutZ_text (t : DateTime) : spellOutZ t.text = t.text := by
  rw [← String.toList_inj, toList_spellOutZ, replaceChars_of_not_mem (Z_not_mem_text t)]

/-- **A time is read from its text**, with a distance of less than a second as none. -/
theorem readDateTime_text (t : DateTime) :
    readDateTime (.text t.text) = .ok (.dateTime t.settled) := by
  rw [readDateTime, spellOutZ_text, t.read?_text]

/-- **`Z` is read like the distance that it stands for.** -/
theorem readDateTime_Z {t : DateTime} {front : String} (h : t.text = front ++ "+00:00") :
    readDateTime (.text (front ++ "Z")) = .ok (.dateTime t.settled) := by
  have noZ : 'Z' ∉ front.toList := fun mem => Z_not_mem_text t (by
    rw [h, String.toList_append]
    exact List.mem_append_left _ mem)
  have alone : replaceChars ['Z'] "+00:00".toList "Z".toList = "+00:00".toList := by
    simp [replaceChars]
  have spelled : spellOutZ (front ++ "Z") = t.text := by
    rw [← String.toList_inj, toList_spellOutZ, String.toList_append, replaceChars_append noZ, alone,
      h, String.toList_append]
  rw [readDateTime, spelled, t.read?_text]

/-- A time without distance is written with this one at its end. -/
theorem exists_front {t : DateTime} {o : Offset} (h : t.offset? = some o) (zero : o.micros = 0) :
    ∃ front : String, t.text = front ++ "+00:00" := by
  have utc : o.chars = "+00:00".toList := by
    rw [Offset.chars, zero]
    decide
  refine ⟨.ofList (t.date.chars ++ 'T' :: t.clock.chars), ?_⟩
  rw [← String.toList_inj, toList_text, String.toList_append, ← utc, String.toList_ofList,
    DateTime.chars, h]
  rfl

/-! ## Standard converters -/

/-- **What standard converters send, they read**: every date and every identifier comes back, and a
time comes back as itself, and as the same instant, exactly if its distance from universal time is
not less than a second. A time without distance is also read where `Z` stands for that. -/
theorem sentAndRead_standard (t : DateTime) (d : Date) {n : Nat} (h : n < 2 ^ 128) :
    (dateTime.sentAndRead (.dateTime t) = .ok (.dateTime t.settled) ∧
      (dateTime.sentAndRead (.dateTime t) = .ok (.dateTime t) ↔ ¬ t.HasTinyOffset) ∧
      (Value.same (.dateTime t.settled) (.dateTime t) = true ↔ ¬ t.HasTinyOffset)) ∧
    date.sentAndRead (.date d) = .ok (.date d) ∧
    uuid.sentAndRead (.uuid n) = .ok (.uuid n) ∧
    ∀ o : Offset, t.offset? = some o → o.micros = 0 →
      ∃ front : String, dateTime.serialize (.dateTime t) = .ok (.text (front ++ "+00:00")) ∧
        dateTime.deserialize (.text (front ++ "Z")) = .ok (.dateTime t) := by
  have read : dateTime.sentAndRead (.dateTime t) = .ok (.dateTime t.settled) := readDateTime_text t
  refine ⟨⟨read, ?_, ?_⟩, sentAndRead_date d, sentAndRead_uuid h, fun o offset zero => ?_⟩
  · rw [read, ← t.settled_eq_iff, Except.ok.injEq, Value.dateTime.injEq]
  · have known : t.settled.offset?.isSome = t.offset?.isSome := by
      cases offset : t.offset? <;> simp [DateTime.settled, offset]
    rw [← t.instant_settled_iff, Value.same, Value.sameTime, known]
    simp
  · obtain ⟨front, text⟩ := exists_front offset zero
    have whole : t.settled = t := by
      rw [t.settled_eq_iff]
      rintro ⟨o', offset', other, -⟩
      rw [offset] at offset'
      cases offset'
      exact other zero
    refine ⟨front, ?_, ?_⟩
    · exact congrArg (fun text => Except.ok (Value.text text)) text
    · exact (readDateTime_Z text).trans (by rw [whole])

/-- A time whose distance from universal time is given as none. -/
def halfPastTen : DateTime where
  date := ⟨2024, 1, 15, by decide⟩
  clock := ⟨10, 30, 0, 250000, by decide⟩
  offset? := some .zero

theorem sentAndRead_standard_utc :
    (halfPastTen.offset? = some .zero ∧ 2 ^ 127 + 5 < 2 ^ 128) ∧
      dateTime.sentAndRead (.dateTime halfPastTen) = .ok (.dateTime halfPastTen) ∧
      date.sentAndRead (.date halfPastTen.date) = .ok (.date halfPastTen.date) ∧
      uuid.sentAndRead (.uuid (2 ^ 127 + 5)) = .ok (.uuid (2 ^ 127 + 5)) ∧
      ∃ front : String,
        dateTime.serialize (.dateTime halfPastTen) = .ok (.text (front ++ "+00:00")) ∧
        dateTime.deserialize (.text (front ++ "Z")) = .ok (.dateTime halfPastTen) := by
  have small : 2 ^ 127 + 5 < 2 ^ 128 := by decide
  obtain ⟨⟨-, back, -⟩, day, identifier, zulu⟩ :=
    sentAndRead_standard halfPastTen halfPastTen.date small
  have whole : ¬ halfPastTen.HasTinyOffset := by
    rintro ⟨o, offset, other, -⟩
    cases offset
    exact other rfl
  exact ⟨⟨rfl, small⟩, back.mpr whole, day, identifier, zulu _ rfl rfl⟩

/-- A time a microsecond off universal time. -/
def justOff : DateTime where
  date := ⟨2024, 1, 2, by decide⟩
  clock := ⟨3, 4, 5, 0, by decide⟩
  offset? := some ⟨1, by decide⟩

/-- **A time just off universal time does not come back**: it is written with its distance and read
as another instant. -/
theorem tinyOffset_lost :
    dateTime.serialize (.dateTime justOff) = .ok (.text "2024-01-02T03:04:05+00:00:00.000001") ∧
      ∃ read : DateTime, dateTime.sentAndRead (.dateTime justOff) = .ok (.dateTime read) ∧
        read.offset? = some .zero ∧
        Value.same (.dateTime read) (.dateTime justOff) = false := by
  have text : justOff.text = "2024-01-02T03:04:05+00:00:00.000001" := by decide +kernel
  exact ⟨congrArg (fun text => Except.ok (Value.text text)) text, justOff.settled,
    readDateTime_text justOff, by decide, by decide⟩

end QueryShape.Converter
