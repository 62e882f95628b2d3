/-
This file is `int(text)` of Python: white space around a sign and decimal digits of
any script, which single underscores may part. Written, a number is digits of ASCII.
-/

import CareerOS.Library.Spacing

namespace CareerOS

open Text

/-- The decimal digits of Unicode, with their values. -/
class DecimalDigits where
  digitValue : Char → Option Nat

section

variable [DecimalDigits]

/-- The values of the digits of a number, which single underscores may part. -/
def decimalDigits : List Char → Option (List Nat)
  | [] => none
  | [letter] => (DecimalDigits.digitValue letter).map fun value => [value]
  | letter :: '_' :: rest => do
    let value ← DecimalDigits.digitValue letter
    let others ← decimalDigits rest
    return value :: others
  | letter :: rest => do
    let value ← DecimalDigits.digitValue letter
    let others ← decimalDigits rest
    return value :: others

/-- The number of the digits; more than 4300 are refused. -/
def decimalNumber (letters : List Char) : Option Int :=
  (decimalDigits letters).bind fun digits =>
    if digits.length ≤ 4300 then some (digits.foldl (fun number digit => number * 10 + digit) 0)
    else none

/-- The white space around a number: that of a text, but for the separators of ASCII. -/
def isNumberSpace (letter : Char) : Bool :=
  isSpace letter && !(0x1c ≤ letter.toNat && letter.toNat ≤ 0x1f)

/-- `int(text)`. -/
def pythonInt (text : String) : Option Int :=
  match trim isNumberSpace text.toList with
  | '+' :: letters => decimalNumber letters
  | '-' :: letters => (decimalNumber letters).map fun number => -number
  | letters => decimalNumber letters

end

/-- The digits of ASCII. -/
@[reducible] def DecimalDigits.ascii : DecimalDigits where
  digitValue letter := if letter.isDigit then some (letter.toNat - '0'.toNat) else none

/-- A number is written with digits. -/
theorem not_mem_digits {letter : Char} (plain : letter.isDigit = false) (count : Nat) :
    letter ∉ (toString count).toList := fun inside => by
  rw [Nat.toString_eq_repr, Nat.toList_repr] at inside
  have digit := Nat.isDigit_of_mem_toDigits (by decide) (by decide) inside
  rw [plain] at digit
  cases digit

end CareerOS
