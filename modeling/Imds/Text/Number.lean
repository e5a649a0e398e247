/-!
# Numbers in Digits

Hosts, services and tables of characters write numbers in base eight, ten and
sixteen. A digit of any of these bases is a digit of base sixteen, so there is
one value of a digit; what a base adds is which digits it has.

## Main definitions

* `digitValue`: The value of a digit, of base sixteen at most.
* `isDigit`: Whether a character is a digit of a base.
* `numberOf`: The number that digits write.
* `number?`: The number that a text writes, if it is made of digits.
* `hexDigits`, `decimalDigits`: A number written in a base.
-/

namespace Imds

namespace Text

/-- The value of a digit, of base sixteen at most. Other characters have a value
    beyond that of every digit. -/
def digitValue (c : Char) : Nat :=
  if '0' ≤ c ∧ c ≤ '9' then c.toNat - 48
  else if 'a' ≤ c ∧ c ≤ 'f' then c.toNat - 87
  else if 'A' ≤ c ∧ c ≤ 'F' then c.toNat - 55
  else 16

/-- Whether a character is a digit of a base, which is sixteen at most. -/
def isDigit (base : Nat) (c : Char) : Bool := digitValue c < base

/-- The number that digits write. -/
def numberOf (base : Nat) (ds : List Char) : Nat :=
  ds.foldl (fun n c => n * base + digitValue c) 0

/-- The number that a text writes, if it is made of digits and not empty. -/
def number? (base : Nat) (cs : List Char) : Option Nat :=
  if !cs.isEmpty && cs.all (isDigit base) then some (numberOf base cs) else none

/-- A number in small hexadecimal digits. -/
def hexDigits (n : Nat) : List Char := Nat.toDigits 16 n

/-- A number in decimal digits. -/
def decimalDigits (n : Nat) : List Char := Nat.toDigits 10 n

end Text

end Imds
