import DocGateway.Number.IntegerText
import Mathlib.Data.List.Basic

/-!
Numerals: the texts that integers are read from.

A numeral is defined by its parts, blanks and a sign around a run of digits, without a reader
(`Numeral`). The reader takes exactly the numerals, each for the number that it stands for, and the
usual decimal text of a number is one of them.
-/

namespace DocGateway

namespace Text

/-- Trimming takes off a frame of blanks, and nothing else. -/
theorem exists_frame (blank : Char → Bool) (cs : List Char)
    : ∃ front back, (∀ c ∈ front, blank c = true) ∧ (∀ c ∈ back, blank c = true)
      ∧ cs = front ++ trimBy blank cs ++ back := by
  have cutBack := List.takeWhile_append_dropWhile (p := blank) (l := (cs.dropWhile blank).reverse)
  refine ⟨cs.takeWhile blank, ((cs.dropWhile blank).reverse.takeWhile blank).reverse, ?_, ?_, ?_⟩
  · exact List.all_eq_true.1 List.all_takeWhile
  · exact fun c member => List.all_eq_true.1 List.all_takeWhile c (List.mem_reverse.1 member)
  · rw [List.append_assoc, trimBy, ← List.reverse_append, cutBack, List.reverse_reverse,
      List.takeWhile_append_dropWhile]

/-- Whatever starts and ends with no blank is left of its frame. -/
theorem trimBy_frame {blank : Char → Bool} {front body back : List Char}
    (blankFront : ∀ c ∈ front, blank c = true) (blankBack : ∀ c ∈ back, blank c = true)
    (first : ∃ c rest, body = c :: rest ∧ blank c = false)
    (last : ∃ before c, body = before ++ [c] ∧ blank c = false)
    : trimBy blank (front ++ body ++ back) = body := by
  have noFront : (front ++ body ++ back).dropWhile blank = body ++ back := by
    obtain ⟨c, rest, rfl, notBlank⟩ := first
    rw [List.append_assoc, List.dropWhile_append_of_pos blankFront, List.cons_append,
      List.dropWhile_cons_of_neg (by simp [notBlank])]
  have noBack : (back.reverse ++ body.reverse).dropWhile blank = body.reverse := by
    obtain ⟨before, c, rfl, notBlank⟩ := last
    rw [List.dropWhile_append_of_pos fun c member => blankBack c (List.mem_reverse.1 member),
      List.reverse_concat, List.dropWhile_cons_of_neg (by simp [notBlank])]
  rw [trimBy, noFront, List.reverse_append, noBack, List.reverse_reverse]

end Text

namespace IntegerText

open Text

/-- Digits of any script, single underscores allowed between them, and the digits' values. -/
inductive DigitRun : List Char → List Nat → Prop
  | last {c : Char} {d : Nat} (digit : digitValue? c = some d) : DigitRun [c] [d]
  | next {c : Char} {d : Nat} {cs : List Char} {ds : List Nat} (digit : digitValue? c = some d)
      (rest : DigitRun cs ds) : DigitRun (c :: cs) (d :: ds)
  | parted {c : Char} {d : Nat} {cs : List Char} {ds : List Nat} (digit : digitValue? c = some d)
      (rest : DigitRun cs ds) : DigitRun (c :: '_' :: cs) (d :: ds)

/-- The signs that a numeral may start with, and none. -/
inductive Sign : List Char → Int → Prop
  | none : Sign [] 1
  | plus : Sign ['+'] 1
  | minus : Sign ['-'] (-1)

/-- A text that stands for a number: blanks, a sign, digits and blanks again. -/
inductive Numeral : List Char → Int → Prop
  | mk {front sign digits back : List Char} {factor : Int} {ds : List Nat}
      (blankFront : ∀ c ∈ front, isFramingBlank c = true)
      (blankBack : ∀ c ∈ back, isFramingBlank c = true)
      (signed : Sign sign factor) (run : DigitRun digits ds) (short : ds.length ≤ maxDigits)
      : Numeral (front ++ (sign ++ digits) ++ back) (factor * ofDigits ds)

variable {c : Char} {cs : List Char} {ds : List Nat} {d : Nat} {n : Int}

-----------------------------------------------------------------------------------------
-- Runs of digits
-----------------------------------------------------------------------------------------

theorem digitValue?_underscore : digitValue? '_' = none := by decide

/-- A run starts with a digit. -/
theorem DigitRun.head (run : DigitRun cs ds)
    : ∃ c rest d, cs = c :: rest ∧ digitValue? c = some d := by
  cases run with
  | last digit => exact ⟨_, _, _, rfl, digit⟩
  | next digit rest => exact ⟨_, _, _, rfl, digit⟩
  | parted digit rest => exact ⟨_, _, _, rfl, digit⟩

/-- A run ends in a digit. -/
theorem DigitRun.final (run : DigitRun cs ds)
    : ∃ before c d, cs = before ++ [c] ∧ digitValue? c = some d := by
  induction run with
  | last digit => exact ⟨[], _, _, rfl, digit⟩
  | @next c _ _ _ _ _ ih =>
    obtain ⟨before, last, d, rfl, digit⟩ := ih
    exact ⟨c :: before, last, d, rfl, digit⟩
  | @parted c _ _ _ _ _ ih =>
    obtain ⟨before, last, d, rfl, digit⟩ := ih
    exact ⟨c :: '_' :: before, last, d, rfl, digit⟩

theorem DigitRun.append (run : DigitRun cs ds) (digit : digitValue? c = some d)
    : DigitRun (cs ++ [c]) (ds ++ [d]) := by
  induction run with
  | last first => exact .next first (.last digit)
  | next first _ ih => exact .next first ih
  | parted first _ ih => exact .parted first ih

/-- The reader takes exactly the runs of digits. -/
theorem digitValues?_eq_some_iff : digitValues? cs = some ds ↔ DigitRun cs ds := by
  constructor
  · intro read
    induction cs using digitValues?.induct generalizing ds with
    | case1 => cases read
    | case2 c =>
      obtain ⟨d, digit, rfl⟩ := Option.map_eq_some_iff.1 read
      exact .last digit
    | case3 c rest ih =>
      obtain ⟨d, digit, read⟩ := Option.bind_eq_some_iff.1 read
      obtain ⟨ds, more, same⟩ := Option.bind_eq_some_iff.1 read
      cases same
      exact .parted digit (ih more)
    | case4 c rest notLast notParted ih =>
      rw [digitValues?.eq_4 c rest notLast notParted] at read
      obtain ⟨d, digit, read⟩ := Option.bind_eq_some_iff.1 read
      obtain ⟨ds, more, same⟩ := Option.bind_eq_some_iff.1 read
      cases same
      exact .next digit (ih more)
  · intro run
    induction run with
    | last digit => simp [digitValues?, digit]
    | @next c _ cs _ digit rest ih =>
      obtain ⟨c', cs', d', rfl, digit'⟩ := rest.head
      have notParted (cs'' : List Char) (same : c' :: cs' = '_' :: cs'') : False := by
        cases same
        cases digitValue?_underscore.symm.trans digit'
      rw [digitValues?.eq_4 c (c' :: cs') nofun notParted]
      simp [digit, ih]
    | parted digit _ ih => simp [digitValues?, digit, ih]

theorem magnitude?_eq_some_iff {m : Nat}
    : magnitude? cs = some m
      ↔ ∃ ds, DigitRun cs ds ∧ ds.length ≤ maxDigits ∧ m = ofDigits ds := by
  simp only [magnitude?, Option.bind_eq_bind, Option.bind_eq_some_iff, digitValues?_eq_some_iff,
    Option.ite_none_right_eq_some, Option.some.injEq]
  simp only [eq_comm]

/-- No blank is a digit of any script. -/
theorem not_blank_of_digit (digit : digitValue? c = some d) : isFramingBlank c = false := by
  let blanks := List.range' 9 5 ++ [0x20, 0x85, 0xa0, 0x1680] ++ List.range' 0x2000 11
    ++ [0x2028, 0x2029, 0x202f, 0x205f, 0x3000]
  have noDigit : ∀ n ∈ blanks, digitValue? (Char.ofNat n) = none := by decide
  rw [Bool.eq_false_iff]
  intro blank
  have listed : c.toNat ∈ blanks := by
    simp only [isFramingBlank, isBlank, Bool.or_eq_true, Bool.and_eq_true, decide_eq_true_eq,
      beq_iff_eq] at blank
    simp only [blanks, List.mem_append, List.mem_range'_1, List.mem_cons, List.not_mem_nil]
    omega
  have none := noDigit c.toNat listed
  rw [Char.ofNat_toNat, digit] at none
  cases none

-----------------------------------------------------------------------------------------
-- Numerals
-----------------------------------------------------------------------------------------

/-- Reads a number as its sign says. -/
theorem read?_eq_some_of_sign {sign digits : List Char} {factor : Int} (signed : Sign sign factor)
    (run : DigitRun digits ds) (short : ds.length ≤ maxDigits)
    (trimmed : trimBy isFramingBlank cs = sign ++ digits)
    : read? cs = some (factor * ofDigits ds) := by
  have magnitude := magnitude?_eq_some_iff.2 ⟨ds, run, short, rfl⟩
  cases signed with
  | none =>
    -- A digit is no sign.
    obtain ⟨c, rest, d, rfl, digit⟩ := run.head
    unfold read?
    rw [trimmed, List.nil_append]
    split
    · next same =>
      cases same
      cases digit
    · next same =>
      cases same
      cases digit
    · simp [magnitude]
  | plus => simp [read?, trimmed, magnitude]
  | minus => simp [read?, trimmed, magnitude]

/-- What is read is a sign and digits. -/
theorem signed_of_read? (read : read? cs = some n)
    : ∃ sign digits factor m, Sign sign factor ∧ trimBy isFramingBlank cs = sign ++ digits
      ∧ magnitude? digits = some m ∧ n = factor * m := by
  unfold read? at read
  split at read
  all_goals
    simp only [Option.bind_eq_bind, Option.map_eq_some_iff, Option.bind_eq_some_iff,
      Option.pure_def, Option.some.injEq] at read
    obtain ⟨_, ⟨m, magnitude, rfl⟩, rfl⟩ := read
  · next digits minus => exact ⟨['-'], digits, -1, m, .minus, minus, magnitude, by omega⟩
  · next digits plus => exact ⟨['+'], digits, 1, m, .plus, plus, magnitude, by omega⟩
  · exact ⟨[], _, 1, m, .none, rfl, magnitude, by omega⟩

/-- The reader takes exactly the numerals, each for the number that it stands for. -/
theorem read?_eq_some_iff : read? cs = some n ↔ Numeral cs n := by
  constructor
  · intro read
    obtain ⟨front, back, blankFront, blankBack, framed⟩ := exists_frame isFramingBlank cs
    obtain ⟨sign, digits, factor, m, signed, trimmed, magnitude, rfl⟩ := signed_of_read? read
    obtain ⟨ds, run, short, rfl⟩ := magnitude?_eq_some_iff.1 magnitude
    rw [framed, trimmed]
    exact .mk blankFront blankBack signed run short
  · rintro ⟨blankFront, blankBack, signed, run, short⟩
    refine read?_eq_some_of_sign signed run short (trimBy_frame blankFront blankBack ?_ ?_)
    · obtain ⟨c, rest, d, rfl, digit⟩ := run.head
      cases signed with
      | none => exact ⟨c, rest, rfl, not_blank_of_digit digit⟩
      | plus => exact ⟨_, _, rfl, by decide⟩
      | minus => exact ⟨_, _, rfl, by decide⟩
    · obtain ⟨before, c, d, rfl, digit⟩ := run.final
      exact ⟨_, c, (List.append_assoc ..).symm, not_blank_of_digit digit⟩

/-- The decimal digits of a natural number. -/
theorem digitRun_toDigits (m : Nat)
    : ∃ ds, DigitRun (Nat.toDigits 10 m) ds ∧ ds.length = (Nat.toDigits 10 m).length
      ∧ ofDigits ds = m := by
  have digit : ∀ k : Fin 10, digitValue? (Nat.digitChar k) = some k.val := by decide
  induction m using Nat.strongRecOn with
  | ind m ih =>
    by_cases single : m < 10
    · rw [Nat.toDigits_of_lt_base single]
      exact ⟨[m], .last (digit ⟨m, single⟩), rfl, by simp [ofDigits]⟩
    · have more : 10 ≤ m := Nat.le_of_not_lt single
      obtain ⟨ds, run, length, value⟩ := ih (m / 10) (Nat.div_lt_self (by omega) (by decide))
      rw [Nat.toDigits_of_base_le (by decide) more]
      refine ⟨ds ++ [m % 10], run.append (digit ⟨m % 10, Nat.mod_lt m (by decide)⟩), ?_, ?_⟩
      · simp [length]
      · rw [ofDigits, List.foldl_append, ← ofDigits, value]
        exact Nat.div_add_mod m 10

/-- The usual decimal text of a number is a numeral of it, if it is not too long. -/
theorem numeral_write (short : (Nat.toDigits 10 n.natAbs).length ≤ maxDigits)
    : Numeral (write n).toList n := by
  obtain ⟨ds, run, length, value⟩ := digitRun_toDigits n.natAbs
  have numeral {sign : List Char} {factor : Int} (signed : Sign sign factor)
      : Numeral (sign ++ Nat.toDigits 10 n.natAbs) (factor * n.natAbs) := by
    have framed := @Numeral.mk [] sign _ [] factor ds nofun nofun signed run (length ▸ short)
    rwa [List.append_nil, List.nil_append, value] at framed
  cases n with
  | ofNat m =>
    have text : (write (.ofNat m)).toList = Nat.toDigits 10 m := by
      change (Nat.repr m).toList = _
      simp
    have value : (1 : Int) * (m : Nat) = .ofNat m := Int.one_mul m
    rw [text, ← value]
    exact numeral .none
  | negSucc m =>
    have text : (write (.negSucc m)).toList = '-' :: Nat.toDigits 10 (m + 1) := by
      change ("-" ++ Nat.repr (m + 1)).toList = _
      simp
    have value : (-1 : Int) * (m + 1 : Nat) = .negSucc m := by omega
    rw [text, ← value]
    exact numeral .minus

end IntegerText

end DocGateway
