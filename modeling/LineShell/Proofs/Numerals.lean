import Mathlib.Data.Nat.Digits.Defs
import LineShell.Text.Numeral

/-!
# The texts of integers

`Numeral.Writes` is the grammar of integers: a sign or none, and ASCII digits, at least one, that
write a number in base ten.  The readers accept exactly the texts of this grammar whose value fits,
and give that value; and the decimal text of an integer is the one that everybody else writes.
-/

namespace LineShell
namespace Numeral

/-- ASCII digits that write a natural number in base ten, the last one counting least.  Zeros in
front are free. -/
structure Digits (digits : List Char) (n : Nat) : Prop where
  ne_nil : digits ≠ []
  ascii : ∀ c ∈ digits, '0' ≤ c ∧ c ≤ '9'
  value : n = Nat.ofDigits 10 (digits.reverse.map fun c => c.toNat - '0'.toNat)

/-- Characters that write an integer. -/
inductive Writes : List Char → Int → Prop
  | bare {digits : List Char} {n : Nat} (written : Digits digits n) : Writes digits n
  | plus {digits : List Char} {n : Nat} (written : Digits digits n) : Writes ('+' :: digits) n
  | minus {digits : List Char} {n : Nat} (written : Digits digits n) : Writes ('-' :: digits) (-n)

theorem value_eq_ofDigits (digits : List Char) :
    value digits = Nat.ofDigits 10 (digits.reverse.map fun c => c.toNat - '0'.toNat) := by
  rw [Nat.ofDigits_eq_foldr, List.foldr_map, List.foldr_reverse, value]
  congr 1
  funext n c
  simp [Nat.add_comm]

theorem isDigit_iff (c : Char) : c.isDigit = true ↔ '0' ≤ c ∧ c ≤ '9' := by
  simp [Char.isDigit, Char.le_def]

theorem natural?_eq_some_iff_digits {digits : List Char} {n : Nat} :
    natural? digits = some n ↔ Digits digits n := by
  simp only [natural?_eq_some_iff, isDigit_iff, value_eq_ofDigits]
  constructor
  · rintro ⟨hne, hascii, hvalue⟩
    exact ⟨hne, hascii, hvalue.symm⟩
  · rintro ⟨hne, hascii, hvalue⟩
    exact ⟨hne, hascii, hvalue.symm⟩

/-- A sign is no digit, so that a text is read in one way only. -/
theorem Digits.ne_sign {c : Char} {rest : List Char} {n : Nat} (written : Digits (c :: rest) n) :
    c ≠ '+' ∧ c ≠ '-' := by
  obtain ⟨hlow, -⟩ := written.ascii c List.mem_cons_self
  constructor
  · rintro rfl
    exact absurd hlow (by decide)
  · rintro rfl
    exact absurd hlow (by decide)

theorem signed?_of_digits {digits : List Char} {n : Nat} (written : Digits digits n) :
    signed? digits = some (n : Int) := by
  have hread := natural?_eq_some_iff_digits.mpr written
  cases digits with
  | nil => exact absurd rfl written.ne_nil
  | cons c rest =>
    obtain ⟨hplus, hminus⟩ := written.ne_sign
    simp [signed?, hplus, hminus, hread]

theorem signed?_eq_some_iff {text : List Char} {n : Int} :
    signed? text = some n ↔ Writes text n := by
  constructor
  · intro hread
    unfold signed? at hread
    split at hread
    all_goals
      simp only [Option.map_eq_some_iff, Option.bind_eq_bind, Option.bind_eq_some_iff,
        Option.pure_def, Option.some.injEq] at hread
      obtain ⟨_, ⟨m, hm, rfl⟩, rfl⟩ := hread
      have written := natural?_eq_some_iff_digits.mp hm
    · exact .minus written
    · exact .plus written
    · exact .bare written
  · intro writes
    cases writes with
    | bare written => exact signed?_of_digits written
    | plus written => simp [signed?, natural?_eq_some_iff_digits.mpr written]
    | minus written => simp [signed?, natural?_eq_some_iff_digits.mpr written]

/-- Only the first character may be something else than a digit. -/
theorem Writes.tail_ascii {text : List Char} {n : Int} (writes : Writes text n) :
    ∀ c ∈ text.tail, '0' ≤ c ∧ c ≤ '9' := by
  cases writes with
  | bare written => exact fun c hc => written.ascii c (List.mem_of_mem_tail hc)
  | plus written => exact written.ascii
  | minus written => exact written.ascii

/-- A text that writes an integer which fits a signed word of 64 bits. -/
def WritesIndex (text : String) (n : Int) : Prop :=
  Writes text.toList n ∧ Int64.minValue.toInt ≤ n ∧ n ≤ Int64.maxValue.toInt

theorem WritesIndex.toInt_ofInt {text : String} {n : Int} (writes : WritesIndex text n) :
    (Int64.ofInt n).toInt = n :=
  Int64.toInt_ofInt_of_le writes.2.1 (Int.lt_add_one_of_le writes.2.2)

theorem index?_eq_some_iff {text : String} {index : Int64} :
    index? text = some index ↔ WritesIndex text index.toInt := by
  have hfits (n : Int) : fitsInt64 n = true ↔
      Int64.minValue.toInt ≤ n ∧ n ≤ Int64.maxValue.toInt := by simp [fitsInt64]
  rw [index?, Option.map_eq_some_iff]
  simp only [Option.filter_eq_some_iff, signed?_eq_some_iff, hfits]
  constructor
  · rintro ⟨n, writes, rfl⟩
    rwa [WritesIndex.toInt_ofInt writes]
  · exact fun writes => ⟨index.toInt, writes, Int64.ofInt_toInt index⟩

/-- A text that writes an integer which fits a signed word of 32 bits. -/
def WritesCode (text : String) (n : Int) : Prop :=
  Writes text.toList n ∧ Int32.minValue.toInt ≤ n ∧ n ≤ Int32.maxValue.toInt

theorem WritesCode.toInt_ofInt {text : String} {n : Int} (writes : WritesCode text n) :
    (Int32.ofInt n).toInt = n :=
  Int32.toInt_ofInt_of_le writes.2.1 (Int.lt_add_one_of_le writes.2.2)

theorem code?_eq_some_iff {text : String} {code : Int32} :
    code? text = some code ↔ WritesCode text code.toInt := by
  have hfits (n : Int) : fitsInt32 n = true ↔
      Int32.minValue.toInt ≤ n ∧ n ≤ Int32.maxValue.toInt := by simp [fitsInt32]
  rw [code?, Option.map_eq_some_iff]
  simp only [Option.filter_eq_some_iff, signed?_eq_some_iff, hfits]
  constructor
  · rintro ⟨n, writes, rfl⟩
    rwa [WritesCode.toInt_ofInt writes]
  · exact fun writes => ⟨code.toInt, writes, Int32.ofInt_toInt code⟩

/-- A text that writes a natural number which fits a word of 64 bits.  It may have a plus in front,
but no minus. -/
def WritesSeconds (text : String) (n : Nat) : Prop :=
  (Digits text.toList n ∨ ∃ digits, text.toList = '+' :: digits ∧ Digits digits n) ∧ n < 2 ^ 64

theorem unsigned?_eq_some_iff {text : List Char} {n : Nat} :
    unsigned? text = some n ↔
      Digits text n ∨ ∃ digits, text = '+' :: digits ∧ Digits digits n := by
  constructor
  · intro hread
    unfold unsigned? at hread
    split at hread
    · exact .inr ⟨_, rfl, natural?_eq_some_iff_digits.mp hread⟩
    · exact .inl (natural?_eq_some_iff_digits.mp hread)
  · rintro (written | ⟨digits, rfl, written⟩)
    · have hread := natural?_eq_some_iff_digits.mpr written
      cases text with
      | nil => exact absurd rfl written.ne_nil
      | cons c rest => simp [unsigned?, written.ne_sign.1, hread]
    · exact natural?_eq_some_iff_digits.mpr written

theorem seconds?_eq_some_iff {text : String} {n : Nat} :
    seconds? text = some n ↔ WritesSeconds text n := by
  have hsize : UInt64.size = 2 ^ 64 := rfl
  rw [seconds?, Option.filter_eq_some_iff, unsigned?_eq_some_iff, decide_eq_true_iff, hsize,
    WritesSeconds]

/-- The decimal text of an integer is the usual one. -/
theorem decimal_eq_toString (n : Int) : decimal n = toString n := by
  cases n with
  | ofNat m => rfl
  | negSucc m =>
    have hwritten : toString (Int.negSucc m) = "-" ++ String.ofList (Nat.toDigits 10 (m + 1)) := rfl
    rw [hwritten, decimal, ← String.toList_inj]
    simp

theorem digits_toDigits (n : Nat) : Digits (Nat.toDigits 10 n) n := by
  have hvalue : value (Nat.toDigits 10 n) = n := Nat.ofDigitChars_ten_toDigits
  exact natural?_eq_some_iff_digits.mp <| natural?_eq_some_iff.mpr
    ⟨Nat.toDigits_ne_nil, fun c hc => Nat.isDigit_of_mem_toDigits (by decide) (by decide) hc,
      hvalue⟩

/-- The decimal text of an integer writes it. -/
theorem writes_decimal (n : Int) : Writes (decimal n).toList n := by
  cases n with
  | ofNat m =>
    rw [decimal, String.toList_ofList]
    exact .bare (digits_toDigits m)
  | negSucc m =>
    rw [decimal, String.toList_ofList]
    exact .minus (digits_toDigits (m + 1))

/-- What is printed for a code is read as that code. -/
theorem writesCode_decimal (code : Int32) : WritesCode (decimal code.toInt) code.toInt :=
  ⟨writes_decimal code.toInt, code.minValue_le_toInt, code.toInt_le⟩

end Numeral
end LineShell
