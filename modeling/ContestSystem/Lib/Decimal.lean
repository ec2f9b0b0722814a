import Mathlib.Data.Nat.Digits.Defs
import Mathlib.Tactic.Common

/-!
# Decimal text

Numbers printed and read as bytes. A printed number has no leading zero and
no sign but the minus of a negative one. Reading takes an optional sign and
one decimal digit or more, leading zeros included, and refuses everything else.
-/

namespace ContestSystem.Lib.Decimal

set_option autoImplicit false

abbrev Byte := UInt8

abbrev Text := List Byte

def ascii (literal : String) : Text := literal.toList.map Char.toUInt8

def zero : Byte := '0'.toUInt8

def plus : Byte := '+'.toUInt8

def minus : Byte := '-'.toUInt8

def IsDigit (byte : Byte) : Prop := 48 ≤ byte.toNat ∧ byte.toNat < 58

instance (byte : Byte) : Decidable (IsDigit byte) :=
  inferInstanceAs (Decidable (_ ∧ _))

def decimal (number : Nat) : Text := (Nat.toDigits 10 number).map Char.toUInt8

def integer : Int → Text
  | .ofNat number => decimal number
  | .negSucc number => minus :: decimal (number + 1)

def digitsValue (text : Text) : Nat :=
  text.foldl (fun value byte => 10 * value + (byte.toNat - 48)) 0

/-- The number a text of digits stands for. -/
def readDigits (text : Text) : Option Nat :=
  if text ≠ [] ∧ text.all (fun byte => IsDigit byte) then some (digitsValue text) else none

/-- The sign, as whether it is a minus, and what follows it. -/
def readSign : Text → Bool × Text
  | [] => (false, [])
  | byte :: rest =>
      if byte = minus then (true, rest)
      else if byte = plus then (false, rest)
      else (false, byte :: rest)

theorem decimal_ne_nil (number : Nat) : decimal number ≠ [] := by
  simp [decimal, Nat.toDigits_ne_nil]

theorem digit_byte {digit : Char} (isDigit : digit.isDigit = true) :
    digit.toUInt8.toNat = digit.toNat ∧ IsDigit digit.toUInt8 := by
  simp only [Char.isDigit, Bool.and_eq_true, decide_eq_true_eq] at isDigit
  have low : 48 ≤ digit.toNat := UInt32.le_iff_toNat_le.mp isDigit.1
  have high : digit.toNat ≤ 57 := UInt32.le_iff_toNat_le.mp isDigit.2
  have same : digit.toUInt8.toNat = digit.toNat := by
    change digit.toNat % 256 = digit.toNat
    omega
  refine ⟨same, ?_, ?_⟩ <;> omega

theorem decimal_digits {number : Nat} {byte : Byte} (member : byte ∈ decimal number) :
    IsDigit byte := by
  obtain ⟨digit, inside, rfl⟩ := List.mem_map.mp member
  exact (digit_byte (Nat.isDigit_of_mem_toDigits (by decide) (by decide) inside)).2

theorem digits_value_decimal (number : Nat) : digitsValue (decimal number) = number := by
  have folded : ∀ (digits : List Char) (start : Nat), (∀ digit ∈ digits, digit.isDigit = true) →
      (digits.map Char.toUInt8).foldl (fun value byte => 10 * value + (byte.toNat - 48)) start =
        Nat.ofDigitChars 10 digits start := by
    intro digits
    induction digits with
    | nil => intro start _; rfl
    | cons digit digits ih =>
        intro start areDigits
        rw [List.map_cons, List.foldl_cons, Nat.ofDigitChars_cons,
          ih _ fun other member => areDigits other (by simp [member]),
          (digit_byte (areDigits digit (by simp))).1]
        rfl
  rw [digitsValue, decimal, folded _ _ fun digit inside =>
    Nat.isDigit_of_mem_toDigits (by decide) (by decide) inside]
  exact Nat.ofDigitChars_ten_toDigits

theorem read_digits_decimal (number : Nat) : readDigits (decimal number) = some number := by
  have digits : (decimal number).all (fun byte => IsDigit byte) = true := by
    rw [List.all_eq_true]
    intro byte member
    exact decide_eq_true (decimal_digits member)
  rw [readDigits, if_pos ⟨decimal_ne_nil number, digits⟩, digits_value_decimal]

theorem not_digit_minus : ¬IsDigit minus := by decide

theorem not_digit_plus : ¬IsDigit plus := by decide

theorem read_sign_decimal (number : Nat) :
    readSign (decimal number) = (false, decimal number) := by
  obtain ⟨byte, rest, split⟩ := List.exists_cons_of_ne_nil (decimal_ne_nil number)
  have member : byte ∈ decimal number := by simp [split]
  have isDigit := decimal_digits member
  rw [split, readSign, if_neg, if_neg]
  · rintro rfl
    exact not_digit_plus isDigit
  · rintro rfl
    exact not_digit_minus isDigit

theorem integer_bytes {number : Int} {byte : Byte} (member : byte ∈ integer number) :
    IsDigit byte ∨ byte = minus := by
  cases number with
  | ofNat number => exact .inl (decimal_digits member)
  | negSucc number =>
      rcases List.mem_cons.mp member with sign | inside
      · exact .inr sign
      · exact .inl (decimal_digits inside)

theorem integer_ends_with_digit (number : Int) :
    ∃ before last, integer number = before ++ [last] ∧ IsDigit last := by
  have ends : ∀ number : Nat, ∃ before last, decimal number = before ++ [last] ∧
      IsDigit last := by
    intro number
    have split := List.dropLast_concat_getLast (decimal_ne_nil number)
    exact ⟨_, _, split.symm, decimal_digits (List.getLast_mem _)⟩
  cases number with
  | ofNat number => exact ends number
  | negSucc number =>
      obtain ⟨before, last, split, isDigit⟩ := ends (number + 1)
      exact ⟨minus :: before, last, by rw [integer, split, List.cons_append], isDigit⟩

/-- To a 32-bit `int`: what does not fit is refused. -/
def lexicalCastInt (text : Text) : Option Int32 :=
  (readDigits (readSign text).2).bind fun value =>
    if (readSign text).1 then
      if value ≤ 2 ^ 31 then some (Int32.ofInt (-value)) else none
    else if value < 2 ^ 31 then some (Int32.ofInt value) else none

/-- To a 64-bit `size_t`: a minus is accepted and taken modulo `2 ^ 64`. -/
def lexicalCastSize (text : Text) : Option UInt64 :=
  (readDigits (readSign text).2).bind fun value =>
    if value < 2 ^ 64 then
      some (if (readSign text).1 then 0 - UInt64.ofNat value else UInt64.ofNat value)
    else none

theorem lexical_cast_size_decimal (number : UInt64) :
    lexicalCastSize (decimal number.toNat) = some number := by
  have bounded : number.toNat < 2 ^ 64 := number.toNat_lt
  simp only [lexicalCastSize, read_sign_decimal, read_digits_decimal, Option.bind_some,
    bounded, if_true, Bool.false_eq_true, if_false, UInt64.ofNat_toNat]

theorem lexical_cast_int_integer (number : Int32) :
    lexicalCastInt (integer number.toInt) = some number := by
  have low : -2 ^ 31 ≤ number.toInt := number.le_toInt
  have high : number.toInt < 2 ^ 31 := number.toInt_lt
  have back : Int32.ofInt number.toInt = number := Int32.ofInt_toInt number
  cases value : number.toInt with
  | ofNat natural =>
      rw [value] at high back
      have fits : natural < 2 ^ 31 := by
        simp only [Int.ofNat_eq_natCast] at high
        omega
      simp only [lexicalCastInt, integer, read_sign_decimal, read_digits_decimal,
        Option.bind_some, Bool.false_eq_true, if_false, fits, if_true]
      exact congrArg some back
  | negSucc natural =>
      rw [value] at low back
      have fits : natural + 1 ≤ 2 ^ 31 := by omega
      have sign : readSign (integer (.negSucc natural)) = (true, decimal (natural + 1)) := rfl
      simp only [lexicalCastInt, sign, read_digits_decimal, Option.bind_some, if_true, fits]
      exact congrArg some back

end ContestSystem.Lib.Decimal
