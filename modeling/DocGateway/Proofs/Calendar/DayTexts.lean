import DocGateway.Calendar.DateText
import DocGateway.Calendar.Moment
import DocGateway.Proofs.Calendar.DayNumbers
import DocGateway.Proofs.Calendar.Digits

/-!
Days as text.

The texts of days are ordered like the days, and a day is read back from any text that starts with
it. The stamp of a moment starts with the text of its day.
-/

namespace DocGateway

namespace Date

open Calendar

theorem Valid.day_lt {d : Date} (valid : d.Valid) : d.day < 100 := by
  obtain ⟨_, _, _, _, _, day⟩ := valid
  refine Nat.lt_of_le_of_lt day ?_
  unfold daysInMonth
  split_ifs <;> decide

theorem Valid.fits {d : Date} (valid : d.Valid)
    : d.year < 10 ^ 4 ∧ d.month < 10 ^ 2 ∧ d.day < 10 ^ 2 := by
  have day := valid.day_lt
  obtain ⟨_, year, _, month, _, _⟩ := valid
  simp only [maxYear] at year
  omega

/-- Text order is the order of days, and what follows equal days is compared next. -/
theorem Valid.chars_append_lt_iff {d e : Date} (valid : d.Valid) (valid' : e.Valid)
    (s t : List Char)
    : d.chars ++ s < e.chars ++ t ↔ d.ordinal < e.ordinal ∨ d = e ∧ s < t := by
  obtain ⟨year, month, day⟩ := valid.fits
  obtain ⟨year', month', day'⟩ := valid'.fits
  have same (c : Char) (s t : List Char) : c :: s < c :: t ↔ s < t := by
    simp
  rw [ordinal_lt_iff valid valid']
  simp only [chars, List.append_assoc, List.cons_append]
  rw [padded_append_lt_iff (by decide) year year', same,
    padded_append_lt_iff (by decide) month month', same,
    padded_append_lt_iff (by decide) day day']
  obtain ⟨y, m, d⟩ := d
  obtain ⟨y', m', d'⟩ := e
  simp only [Before, mk.injEq]
  by_cases rest : s < t
  · simp only [rest, and_true]
    omega
  · simp only [rest, and_false, or_false]

theorem Valid.text_lt_iff {d e : Date} (valid : d.Valid) (valid' : e.Valid)
    : d.text < e.text ↔ d.ordinal < e.ordinal := by
  have order := valid.chars_append_lt_iff valid' [] []
  rw [List.append_nil, List.append_nil] at order
  rw [text, text, String.lt_iff, String.toList_ofList, String.toList_ofList, order]
  simp

theorem Valid.chars_eq {d : Date} (valid : d.Valid)
    : d.chars
      = lastDigits 4 d.year ++ '-' :: (lastDigits 2 d.month ++ '-' :: lastDigits 2 d.day) := by
  obtain ⟨year, month, day⟩ := valid.fits
  rw [chars, padded_eq_lastDigits (by decide) year, padded_eq_lastDigits (by decide) month,
    padded_eq_lastDigits (by decide) day]

theorem Valid.length_chars {d : Date} (valid : d.Valid) : d.chars.length = 10 := by
  simp [valid.chars_eq, length_lastDigits]

/-- The text of a day is made of digits and dashes. -/
theorem Valid.mem_chars {d : Date} (valid : d.Valid) {c : Char} (member : c ∈ d.chars)
    : c = '-' ∨ ∃ k : Fin 10, c = Nat.digitChar k := by
  rw [valid.chars_eq, List.mem_append, List.mem_cons, List.mem_append, List.mem_cons] at member
  rcases member with digit | dash | digit | dash | digit
  · exact .inr (mem_lastDigits digit)
  · exact .inl dash
  · exact .inr (mem_lastDigits digit)
  · exact .inl dash
  · exact .inr (mem_lastDigits digit)

theorem Valid.not_blank {d : Date} (valid : d.Valid) {c : Char} (member : c ∈ d.chars)
    : Text.isBlank c = false := by
  have digit : ∀ k : Fin 10, Text.isBlank (Nat.digitChar k) = false := by decide
  rcases valid.mem_chars member with rfl | ⟨k, rfl⟩
  · decide
  · exact digit k

theorem Valid.utf8ByteSize_chars {d : Date} (valid : d.Valid)
    : (String.ofList d.chars).utf8ByteSize = 10 := by
  have digit : ∀ k : Fin 10, (Nat.digitChar k).utf8Size = 1 := by decide
  have narrow : ∀ c ∈ d.chars, c.utf8Size = 1 := by
    intro c member
    rcases valid.mem_chars member with rfl | ⟨k, rfl⟩
    · decide
    · exact digit k
  have size (cs : List Char) (narrow : ∀ c ∈ cs, c.utf8Size = 1)
      : (String.ofList cs).utf8ByteSize = cs.length := by
    induction cs with
    | nil => rfl
    | cons c cs ih =>
      obtain ⟨first, rest⟩ := List.forall_mem_cons.1 narrow
      have := ih rest
      simp_all [Nat.add_comm]
  rw [size d.chars narrow, valid.length_chars]

-----------------------------------------------------------------------------------------
-- Reading days
-----------------------------------------------------------------------------------------

/-- Reading one digit more reads one digit of what is left. -/
theorem takeDigits?_succ (count n : Nat) (cs : List Char)
    : takeDigits?.go (count + 1) n cs
      = (takeDigits?.go count n cs).bind fun found => takeDigits?.go 1 found.1 found.2 := by
  induction count generalizing n cs with
  | zero => rfl
  | succ count ih =>
    cases cs with
    | nil => rfl
    | cons c cs =>
      rw [takeDigits?.go, takeDigits?.go]
      split_ifs
      · exact ih _ cs
      · rfl

theorem takeDigits?_lastDigits {width n : Nat} (fits : n < 10 ^ width) (rest : List Char)
    : takeDigits? width (lastDigits width n ++ rest) = some (n, rest) := by
  change takeDigits?.go width 0 (lastDigits width n ++ rest) = some (n, rest)
  induction width generalizing n rest with
  | zero =>
    have zero : n = 0 := by simpa using fits
    rw [zero]
    rfl
  | succ width ih =>
    rw [Nat.pow_succ] at fits
    have digit : ∀ k : Fin 10,
        (Nat.digitChar k).isDigit = true ∧ (Nat.digitChar k).toNat - 0x30 = k.val := by decide
    obtain ⟨isDigit, value⟩ := digit ⟨n % 10, Nat.mod_lt n (by decide)⟩
    have shorter := ih (n := n / 10) (by omega) (Nat.digitChar (n % 10) :: rest)
    rw [takeDigits?_succ, lastDigits, List.append_assoc, List.singleton_append, shorter]
    simp only [Option.bind_some, takeDigits?.go, isDigit, if_true, value]
    congr 2
    omega

theorem Valid.readMonth?_eq {d : Date} (valid : d.Valid)
    : readMonth? d.year true (lastDigits 2 d.month ++ '-' :: lastDigits 2 d.day) = some d := by
  obtain ⟨_, month, day⟩ := valid.fits
  have last : takeDigits? 2 (lastDigits 2 d.day) = some (d.day, []) := by
    simpa using takeDigits?_lastDigits day []
  have whole : Date.of? d.year d.month d.day = some d := if_pos valid
  simp [readMonth?, takeDigits?_lastDigits month, dropSeparator?, last, whole]

theorem Valid.read?_chars {d : Date} (valid : d.Valid) : read? d.chars = some d := by
  obtain ⟨year, _, _⟩ := valid.fits
  have size := valid.utf8ByteSize_chars
  rw [valid.chars_eq] at size ⊢
  simp only [read?, size, takeDigits?_lastDigits year, bind, Option.bind, List.head?_cons,
    beq_self_eq_true, if_true, List.drop_succ_cons, List.drop_zero, or_true]
  split
  · rename_i rest week
    have first : Nat.digitChar (d.month / 10 % 10) = 'W' := (List.cons.inj week).1
    have digit : ∀ k : Fin 10, Nat.digitChar k ≠ 'W' := by decide
    exact absurd first (digit ⟨_, Nat.mod_lt _ (by decide)⟩)
  · exact valid.readMonth?_eq

/-- Nothing blank is at the front of a day's text. -/
theorem Valid.dropWhile_chars_append {d : Date} (valid : d.Valid) (rest : List Char)
    : (d.chars ++ rest).dropWhile Text.isBlank = d.chars ++ rest := by
  cases chars : d.chars with
  | nil =>
    have length := valid.length_chars
    rw [chars] at length
    cases length
  | cons c cs =>
    have notBlank := valid.not_blank (chars ▸ List.mem_cons_self : c ∈ d.chars)
    simp [notBlank]

theorem Valid.dropWhile_reverse_chars {d : Date} (valid : d.Valid)
    : d.chars.reverse.dropWhile Text.isBlank = d.chars.reverse := by
  cases chars : d.chars.reverse with
  | nil => rfl
  | cons c cs =>
    have member : c ∈ d.chars := List.mem_reverse.1 (chars ▸ List.mem_cons_self)
    simp [valid.not_blank member]

/-- A day is read back from a text that starts with it, blanks before it aside. -/
theorem Valid.readPrefix?_chars {d : Date} (valid : d.Valid) (blanks : List Char)
    (blank : ∀ c ∈ blanks, Text.isBlank c = true) (rest : List Char)
    : readPrefix? (String.ofList (blanks ++ d.chars ++ rest)) = some d := by
  have start : ((blanks ++ d.chars ++ rest).dropWhile Text.isBlank) = d.chars ++ rest := by
    rw [List.append_assoc, List.dropWhile_append_of_pos blank]
    exact valid.dropWhile_chars_append rest
  have trimmed : ∃ rest', Text.trim (blanks ++ d.chars ++ rest) = d.chars ++ rest' := by
    unfold Text.trim Text.trimBy
    rw [start, List.reverse_append, List.dropWhile_append]
    split
    · exact ⟨[], by rw [valid.dropWhile_reverse_chars, List.reverse_reverse, List.append_nil]⟩
    · exact ⟨_, by rw [List.reverse_append, List.reverse_reverse]⟩
  obtain ⟨rest', trimmed⟩ := trimmed
  rw [readPrefix?, String.toList_ofList, trimmed, ← valid.length_chars, List.take_left]
  exact valid.read?_chars

theorem Valid.readPrefix?_text {d : Date} (valid : d.Valid) : readPrefix? d.text = some d := by
  have read := valid.readPrefix?_chars [] nofun []
  rwa [List.nil_append, List.append_nil] at read

end Date

namespace Moment

/-- The time of day in a stamp, to the millisecond. -/
def stampTime (m : Moment) : List Char :=
  timeChars m.hour m.minute m.second 0 ++ '.' :: (Calendar.padded 3 (m.microsecond / 1000) ++ ['Z'])

/-- From the year 1000 on, a stamp is the text of its day and a time. -/
theorem stampChars_eq {m : Moment} (full : 1000 ≤ m.date.year)
    : m.stampChars = m.date.chars ++ 'T' :: m.stampTime := by
  have year : Calendar.padded 4 m.date.year = Nat.toDigits 10 m.date.year :=
    Calendar.padded_of_full full
  simp only [stampChars, Date.chars, year, stampTime, List.append_assoc, List.cons_append]

/-- Such a stamp comes before the text of a day if its own day comes before it. -/
theorem stamp_lt_text_iff {m : Moment} (full : 1000 ≤ m.date.year) (valid : m.date.Valid)
    {d : Date} (valid' : d.Valid)
    : String.ofList m.stampChars < d.text ↔ m.date.ordinal < d.ordinal := by
  have order := valid.chars_append_lt_iff valid' ('T' :: m.stampTime) []
  rw [List.append_nil, ← stampChars_eq full] at order
  change (String.ofList m.stampChars).toList < (String.ofList d.chars).toList ↔ _
  rw [String.toList_ofList, String.toList_ofList, order]
  simp

end Moment

end DocGateway
