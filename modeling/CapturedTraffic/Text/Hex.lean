/-!
# Hexadecimal numerals
-/
namespace CapturedTraffic.Text.Hex

-- Powers of numbers are the core library's, whatever else is imported beside this module.
attribute [default_instance 20000] instPowNat

/-- The digit for a number below sixteen, in lower case. -/
def digit (n : Nat) : Char := Char.ofNat (if n < 10 then 48 + n else 87 + n)

def value? (c : Char) : Option Nat :=
  if '0' ≤ c ∧ c ≤ '9' then some (c.toNat - 48)
  else if 'a' ≤ c ∧ c ≤ 'f' then some (c.toNat - 87)
  else if 'A' ≤ c ∧ c ≤ 'F' then some (c.toNat - 55)
  else none

/-- The digits of a number, without leading zeros. -/
def digits (n : Nat) : List Char :=
  if n < 16 then [digit n] else digits (n / 16) ++ [digit (n % 16)]
termination_by n

/-- The last `width` digits of a number, zeros included. -/
def fixed : Nat → Nat → List Char
  | 0, _ => []
  | width + 1, n => fixed width (n / 16) ++ [digit (n % 16)]

/-- The number that a list of digits denotes, if all of them are digits. -/
def number? (high : Nat) : List Char → Option Nat
  | [] => some high
  | c :: rest => (value? c).bind fun d => number? (16 * high + d) rest

end CapturedTraffic.Text.Hex
