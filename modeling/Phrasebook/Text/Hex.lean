/-!
# Hexadecimal digits

* `hexDigit`, `hexValue?` — a digit and its value, in both directions.
* `hex4` — four digits for a number below 65536.
* `hexNumber?` — the number that digits write.
* `hexValue?_hexDigit` — a written digit is read back.
-/

namespace Phrasebook.Text

/-- The digit of a value below 16, a small letter from ten on. -/
def hexDigit (n : Nat) : Char :=
  if n < 10 then Char.ofNat (48 + n) else Char.ofNat (87 + n)

/-- The value of a digit; letters of both cases count. -/
def hexValue? (c : Char) : Option Nat :=
  if '0' ≤ c ∧ c ≤ '9' then some (c.toNat - 48)
  else if 'a' ≤ c ∧ c ≤ 'f' then some (c.toNat - 87)
  else if 'A' ≤ c ∧ c ≤ 'F' then some (c.toNat - 55)
  else none

/-- The four digits of a number below 65536. -/
def hex4 (n : Nat) : List Char :=
  [hexDigit (n / 4096 % 16), hexDigit (n / 256 % 16), hexDigit (n / 16 % 16), hexDigit (n % 16)]

/-- The number that the digits write, if all of them are digits. -/
def hexNumber? (digits : List Char) : Option Nat :=
  (digits.mapM hexValue?).map (·.foldl (fun n d => 16 * n + d) 0)

theorem hexValue?_hexDigit : ∀ n, n < 16 → hexValue? (hexDigit n) = some n := by
  decide

end Phrasebook.Text
