import TaskSieve.Calendar.Iso
import TaskSieve.Proofs.Calendar.Civil

set_option autoImplicit false

/-! # Dates are read

A date in the long form, `YYYY-MM-DD` in ASCII digits, is read as the midnight of its day if it
exists. -/

namespace TaskSieve.Calendar.Iso

open TaskSieve.Text (digitsValue)

/-- A group of digits is split off with its value. -/
theorem digits?_append {count : Nat} {ds : List Char} (hlength : ds.length = count)
    (h : ∀ c ∈ ds, c.isDigit = true) (rest : List Char) :
    digits? count (ds ++ rest) = some (digitsValue ds, rest) := by
  rw [digits?, List.take_left' hlength, List.drop_left' hlength]
  exact if_pos ⟨hlength, List.all_eq_true.2 h⟩

/-- A text writes a date in ASCII digits: four for the year, two for the month and two for the day,
with hyphens between them. -/
inductive DateText : CivilDate → List Char → Prop
  | mk {y m d : List Char} (year : y.length = 4) (month : m.length = 2) (day : d.length = 2)
      (digits : ∀ c ∈ y ++ m ++ d, c.isDigit = true) :
      DateText ⟨digitsValue y, digitsValue m, digitsValue d⟩ (y ++ '-' :: (m ++ '-' :: d))

namespace DateText

variable {date : CivilDate} {cs : List Char}

/-- A date is written in ten characters. -/
theorem length_eq (h : DateText date cs) : cs.length = 10 := by
  obtain ⟨year, month, day, -⟩ := h
  simp only [List.length_append, List.length_cons, year, month, day]

/-- A date starts with its year. -/
theorem year_eq (h : DateText date cs) : date.year = digitsValue (cs.take 4) := by
  obtain ⟨year, -, -, -⟩ := h
  rw [List.take_left' year]

/-- A date is written in digits and hyphens. -/
theorem isDigit_or_hyphen (h : DateText date cs) : ∀ c ∈ cs, c.isDigit = true ∨ c = '-' := by
  obtain ⟨-, -, -, digits⟩ := h
  simp only [List.mem_append, List.mem_cons] at digits ⊢
  rintro c (hc | rfl | hc | rfl | hc)
  · exact .inl (digits c (.inl (.inl hc)))
  · exact .inr rfl
  · exact .inl (digits c (.inl (.inr hc)))
  · exact .inr rfl
  · exact .inl (digits c (.inr hc))

/-- A date starts with a digit. -/
theorem exists_digit (h : DateText date cs) : ∃ c rest, cs = c :: rest ∧ c.isDigit = true := by
  obtain ⟨year, -, -, digits⟩ := h
  next y m d =>
  obtain ⟨c, y, rfl⟩ := List.exists_cons_of_length_eq_add_one year
  exact ⟨c, _, rfl, digits c (by simp)⟩

/-- The hyphen behind the year tells a date from a week, whatever may follow. -/
theorem dateLength?_append (h : DateText date cs) (rest : List Char) :
    dateLength? (cs ++ rest) = some 10 := by
  have hlength := h.length_eq
  have hall := h.isDigit_or_hyphen
  have hshort : (cs ++ rest).length ≠ 7 := by
    rw [List.length_append]
    omega
  have hmark : (cs ++ rest).getD 4 '\x00' = '-' := by
    obtain ⟨year, -⟩ := h
    simp [List.getD_eq_getElem?_getD, year]
  have hweek : (cs ++ rest).getD 5 '\x00' ≠ 'W' := by
    have hfive : 5 < cs.length := by omega
    rw [List.getD_eq_getElem?_getD, List.getElem?_append_left hfive, List.getElem?_eq_getElem hfive,
      Option.getD_some]
    intro hw
    have := hall _ (List.getElem_mem hfive)
    rw [hw] at this
    exact absurd this (by decide)
  rw [dateLength?]
  dsimp only
  rw [if_neg hshort, if_pos hmark, if_pos hweek]

theorem dateLength?_eq (h : DateText date cs) : dateLength? cs = some 10 := by
  have := h.dateLength?_append []
  rwa [List.append_nil] at this

/-- The day of a date that exists is read. -/
theorem readDate?_eq (h : DateText date cs) (hvalid : date.isValid = true) :
    readDate? cs = some date.dayNumber := by
  have hday := CivilDate.dayNumber_lt_dayCount hvalid
  obtain ⟨year, month, day, digits⟩ := h
  next y m d =>
  simp only [List.mem_append] at digits
  have hy := digits?_append year fun c hc => digits c (.inl (.inl hc))
  have hm := digits?_append month fun c hc => digits c (.inl (.inr hc))
  have hd := digits?_append day (fun c hc => digits c (.inr hc)) []
  rw [List.append_nil] at hd
  have hmonthDay : readMonthDay? (digitsValue y) true (m ++ '-' :: d) = some (CivilDate.dayNumber
      ⟨digitsValue y, digitsValue m, digitsValue d⟩) := by
    rw [readMonthDay?, hm]
    simp only [Option.bind_eq_bind, Option.bind_some, hyphen?, hd]
    exact if_pos (by simpa using hvalid)
  obtain ⟨m₁, m, rfl⟩ := List.exists_cons_of_length_eq_add_one month
  have hweek : m₁ ≠ 'W' := by
    rintro rfl
    exact absurd (digits 'W' (.inl (.inr List.mem_cons_self))) (by decide)
  rw [readDate?, hy]
  simp only [Option.bind_eq_bind, Option.bind_some]
  split
  · next heq =>
    exact absurd (List.cons.inj heq).1 hweek
  · rw [hmonthDay, Option.bind_some, if_pos hday]

/-- A date that exists is read as the start of its day, without an offset. -/
theorem read?_eq (h : DateText date cs) (hvalid : date.isValid = true) :
    read? cs = some (.ofDay date.dayNumber none) := by
  have hlength := h.length_eq
  rw [read?, h.dateLength?_eq]
  simp only [Option.bind_eq_bind, Option.bind_some]
  rw [List.take_of_length_le (by omega), h.readDate?_eq hvalid, List.drop_of_length_le (by omega)]
  rfl

end DateText

end TaskSieve.Calendar.Iso
