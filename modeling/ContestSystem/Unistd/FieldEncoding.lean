import ContestSystem.Unistd.MountEntry
import Mathlib.Data.UInt

/-!
# Encodings of a field

A field of a mount table may be written in many ways: each byte as it is or as a
backslash and the three octal digits of its value. `unescape` reads every one of
them, digits that follow an encoded byte included, and `escape` writes one of them.
-/

namespace ContestSystem.Unistd.MountEntry

open ContestSystem.Lib.Decimal ContestSystem.Lib.Text

set_option autoImplicit false

def octalDigit (value : Nat) : Byte := zero + UInt8.ofNat value

/-- The ways to write a byte. -/
inductive Written (byte : Byte) : Text → Prop
  | literal (plain : byte ≠ backslash) : Written byte [byte]
  | encoded (high middle low : Nat) (highDigit : high < 8) (middleDigit : middle < 8)
      (lowDigit : low < 8) (value : 64 * high + 8 * middle + low = byte.toNat) :
      Written byte [backslash, octalDigit high, octalDigit middle, octalDigit low]

/-- `text` is the field with every byte written in some way. -/
inductive Rendering : Text → Text → Prop
  | nil : Rendering [] []
  | cons {byte : Byte} {piece field text : Text} (written : Written byte piece)
      (rest : Rendering field text) : Rendering (byte :: field) (piece ++ text)

theorem octal_digit_value (value : Nat) : octalDigit value - zero = UInt8.ofNat value :=
  add_sub_cancel_left zero (UInt8.ofNat value)

theorem accumulated {high middle low : Nat} {byte : Byte}
    (value : 64 * high + 8 * middle + low = byte.toNat) :
    ((0 * 8 + (octalDigit high - zero)) * 8 + (octalDigit middle - zero)) * 8 +
      (octalDigit low - zero) = byte := by
  rw [octal_digit_value, octal_digit_value, octal_digit_value]
  have byteEq : byte = UInt8.ofNat (64 * high + 8 * middle + low) := by
    rw [value, UInt8.ofNat_toNat]
  have eight : (8 : Byte) = UInt8.ofNat 8 := rfl
  rw [byteEq, eight, zero_mul, zero_add, ← UInt8.ofNat_mul, ← UInt8.ofNat_add, ← UInt8.ofNat_mul,
    ← UInt8.ofNat_add]
  congr 1
  omega

/-- Whatever the last accumulator was, a piece is read as its byte. -/
theorem unescape_from_written {byte : Byte} {piece : Text} (written : Written byte piece)
    (code : Byte) (rest : Text) :
    ∃ after, unescapeFrom 0 code (piece ++ rest) = byte :: unescapeFrom 0 after rest := by
  cases written with
  | literal plain =>
      refine ⟨code, ?_⟩
      rw [List.singleton_append, unescapeFrom, if_neg plain]
  | encoded high middle low highDigit middleDigit lowDigit value =>
      refine ⟨byte, ?_⟩
      have read := accumulated value
      simp only [List.cons_append, List.nil_append, unescapeFrom]
      simp only [reduceIte, Nat.reduceAdd, Nat.reduceEqDiff, read]

theorem unescape_from_rendering {field text : Text} (rendering : Rendering field text)
    (code : Byte) : unescapeFrom 0 code text = field := by
  induction rendering generalizing code with
  | nil => rfl
  | cons written rest ih =>
      obtain ⟨after, read⟩ := unescape_from_written written code _
      rw [read, ih]

theorem octal_eq (byte : Byte) :
    octal byte = [octalDigit (byte.toNat / 64), octalDigit (byte.toNat / 8 % 8),
      octalDigit (byte.toNat % 8)] := by
  have bounded : byte.toNat < 256 := byte.toNat_lt
  have high : byte / 64 = UInt8.ofNat (byte.toNat / 64) := by
    apply UInt8.toNat_inj.mp
    rw [UInt8.toNat_div, UInt8.toNat_ofNat_of_lt' (by change _ < 256; omega)]
    rfl
  have middle : byte / 8 % 8 = UInt8.ofNat (byte.toNat / 8 % 8) := by
    apply UInt8.toNat_inj.mp
    rw [UInt8.toNat_mod, UInt8.toNat_div, UInt8.toNat_ofNat_of_lt' (by change _ < 256; omega)]
    rfl
  have low : byte % 8 = UInt8.ofNat (byte.toNat % 8) := by
    apply UInt8.toNat_inj.mp
    rw [UInt8.toNat_mod, UInt8.toNat_ofNat_of_lt' (by change _ < 256; omega)]
    rfl
  rw [octal, high, middle, low]
  rfl

theorem octal_written (byte : Byte) : Written byte (backslash :: octal byte) := by
  have bounded : byte.toNat < 256 := byte.toNat_lt
  rw [octal_eq]
  apply Written.encoded <;> omega

theorem escape_byte_written (byte : Byte) : Written byte (escapeByte byte) := by
  cases escaped : isEscaped byte with
  | true =>
      rw [escape_byte_escaped escaped]
      exact octal_written byte
  | false =>
      rw [escape_byte_plain escaped]
      apply Written.literal
      intro same
      rw [same] at escaped
      exact absurd escaped (by decide)

theorem escape_rendering (field : Text) : Rendering field (escape field) := by
  induction field with
  | nil => exact .nil
  | cons byte field ih => exact .cons (escape_byte_written byte) ih

theorem not_separator_of_escape {field : Text} {byte : Byte} (member : byte ∈ escape field) :
    byte ≠ space ∧ byte ≠ tab ∧ byte ≠ newline := by
  have notBlank := not_blank_of_escape member
  simp only [isBlank, List.mem_cons, List.not_mem_nil, or_false, decide_eq_false_iff_not,
    not_or] at notBlank
  obtain ⟨original, _, inside⟩ := List.mem_flatMap.mp member
  refine ⟨notBlank.1, notBlank.2, ?_⟩
  intro isNewline
  subst isNewline
  cases escaped : isEscaped original with
  | false =>
      rw [escape_byte_plain escaped, List.mem_singleton] at inside
      rw [← inside] at escaped
      exact absurd escaped (by decide)
  | true =>
      rw [escape_byte_escaped escaped] at inside
      have visible : ∀ plain ∈ [space, tab, newline, backslash],
          newline ∉ backslash :: octal plain := by decide +kernel
      exact visible original (of_decide_eq_true escaped) inside

/-- `unescape` inverts every encoding, and `escape` is one without separators. -/
theorem unescape_rendering (field text : Text) :
    (Rendering field text → unescape text = field) ∧
      Rendering field (escape field) ∧
      (∀ byte ∈ escape field, byte ≠ space ∧ byte ≠ tab ∧ byte ≠ newline) ∧
      unescape (escape field) = field ∧ Function.Injective escape := by
  have decoded : ∀ original : Text, unescape (escape original) = original :=
    fun original => unescape_from_rendering (escape_rendering original) 0
  refine ⟨fun rendering => unescape_from_rendering rendering 0, escape_rendering field,
    fun byte => not_separator_of_escape, decoded field, ?_⟩
  exact Function.LeftInverse.injective decoded

/-- The field "é 7": its last byte stands as it is after three octal digits. -/
theorem unescape_rendering_mixed :
    unescape (0xC3 :: ascii "\\251\\0407") = [0xC3, 0xA9, space] ++ ascii "7" := by
  apply (unescape_rendering _ _).1
  have first : Written 0xC3 [0xC3] := .literal (by decide)
  have second : Written 0xA9 (ascii "\\251") :=
    .encoded 2 5 1 (by decide) (by decide) (by decide) rfl
  have third : Written space (ascii "\\040") :=
    .encoded 0 4 0 (by decide) (by decide) (by decide) rfl
  have last : Written 55 [55] := .literal (by decide)
  exact .cons first (.cons second (.cons third (.cons last .nil)))

end ContestSystem.Unistd.MountEntry
