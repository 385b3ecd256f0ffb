/-!
# Hexadecimal digits

Lower-case digits of a fixed width, for escapes, and the value of a digit of either case.
-/

namespace GenericSignature.Text

/-- The lower-case hexadecimal digits. -/
def hexDigits : List Char :=
  ['0', '1', '2', '3', '4', '5', '6', '7', '8', '9', 'a', 'b', 'c', 'd', 'e', 'f']

/-- The lower-case digit of a number below sixteen. -/
def hexDigit (n : Nat) : Char := (hexDigits[n]?).getD '0'

/-- The last `width` hexadecimal digits of a number, the highest first. -/
def hex : Nat → Nat → List Char
  | 0, _ => []
  | width + 1, n => hex width (n / 16) ++ [hexDigit (n % 16)]

/-- The value of a hexadecimal digit of either case. -/
def hexValue? (c : Char) : Option Nat :=
  if Nat.ble 48 c.toNat && Nat.ble c.toNat 57 then some (c.toNat - 48)
  else if Nat.ble 97 c.toNat && Nat.ble c.toNat 102 then some (c.toNat - 87)
  else if Nat.ble 65 c.toNat && Nat.ble c.toNat 70 then some (c.toNat - 55)
  else none

theorem hexValue?_hexDigit {n : Nat} (small : n < 16) : hexValue? (hexDigit n) = some n := by
  have table : ∀ i : Fin 16, hexValue? (hexDigit i.val) = some i.val := by decide
  exact table ⟨n, small⟩

end GenericSignature.Text
