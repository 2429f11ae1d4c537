import KiroProxy.GoStrings
import Mathlib.Algebra.Group.Nat.Defs

/-!
# Decimal numbers

Numbers as `%d` writes them: digits only, another text for every number, and texts of one length
between two powers of ten.
-/

namespace KiroProxy.Decimals

set_option autoImplicit false

def decimal (number : Nat) : GoString := lit (toString number)

def isDigit (byte : UInt8) : Bool := 0x30 ≤ byte && byte ≤ 0x39

theorem lit_injective (left right : String) (same : lit left = lit right) : left = right := by
  rw [← String.toByteArray_inj]
  exact ByteArray.ext (Array.toList_inj.mp same)

theorem decimal_injective (first second : Nat) (same : decimal first = decimal second) :
    first = second := by
  have texts := congrArg String.toList (lit_injective _ _ same)
  rw [Nat.toString_eq_ofList_toDigits, Nat.toString_eq_ofList_toDigits, String.toList_ofList,
    String.toList_ofList] at texts
  have numbers := congrArg (fun digits => Nat.ofDigitChars 10 digits 0) texts
  simpa only [Nat.ofDigitChars_ten_toDigits] using numbers

theorem digit_encoded (char : Char) (digit : char.isDigit = true) :
    String.utf8EncodeChar char = [char.val.toUInt8] ∧ isDigit char.val.toUInt8 = true := by
  rw [Char.isDigit, Bool.and_eq_true, decide_eq_true_eq, decide_eq_true_eq] at digit
  obtain ⟨low, high⟩ := digit
  rw [ge_iff_le, UInt32.le_iff_toNat_le] at low
  rw [UInt32.le_iff_toNat_le] at high
  have small : char.val.toNat ≤ 57 := high
  have large : 48 ≤ char.val.toNat := low
  have one : char.utf8Size = 1 := by
    rw [Char.utf8Size_eq_one_iff, UInt32.le_iff_toNat_le]
    exact Nat.le_trans small (by decide)
  refine ⟨String.utf8EncodeChar_eq_singleton one, ?_⟩
  rw [isDigit, Bool.and_eq_true, decide_eq_true_eq, decide_eq_true_eq, UInt8.le_iff_toNat_le,
    UInt8.le_iff_toNat_le, UInt32.toNat_toUInt8, Nat.mod_eq_of_lt (by omega)]
  exact ⟨large, small⟩

theorem digits_encoded (chars : List Char) (digits : ∀ char ∈ chars, char.isDigit = true) :
    chars.flatMap String.utf8EncodeChar = chars.map fun char => char.val.toUInt8 := by
  induction chars with
  | nil => rfl
  | cons char chars ih =>
      rw [List.flatMap_cons, (digit_encoded char (digits char List.mem_cons_self)).1,
        ih fun other member => digits other (List.mem_cons_of_mem _ member)]
      rfl

/-- A decimal text is a digit for each place. -/
theorem decimal_places (number : Nat) :
    decimal number = (Nat.toDigits 10 number).map fun char => char.val.toUInt8 := by
  have text : decimal number = (Nat.toDigits 10 number).flatMap String.utf8EncodeChar := by
    rw [decimal, Nat.toString_eq_ofList_toDigits]
    simp [lit, String.toUTF8, List.utf8Encode]
  rw [text]
  exact digits_encoded _ fun char among =>
    Nat.isDigit_of_mem_toDigits (by decide) (Nat.le_refl 10) among

theorem decimal_digits (number : Nat) : ∀ byte ∈ decimal number, isDigit byte = true := by
  intro byte member
  rw [decimal_places] at member
  obtain ⟨char, among, same⟩ := List.mem_map.mp member
  rw [← same]
  exact (digit_encoded char
    (Nat.isDigit_of_mem_toDigits (by decide) (Nat.le_refl 10) among)).2

theorem decimal_length (number places : Nat) (low : 10 ^ places ≤ number)
    (high : number < 10 ^ (places + 1)) : (decimal number).length = places + 1 := by
  rw [decimal_places, List.length_map]
  have upper := (Nat.length_toDigits_le_iff (by decide) (Nat.succ_pos places)).mpr high
  cases places with
  | zero =>
      have some_ := Nat.length_toDigits_pos (b := 10) (n := number)
      omega
  | succ places =>
      have lower := (Nat.length_toDigits_le_iff (b := 10) (n := number) (by decide)
        (Nat.succ_pos places)).not.mpr (Nat.not_lt.mpr low)
      omega

end KiroProxy.Decimals
