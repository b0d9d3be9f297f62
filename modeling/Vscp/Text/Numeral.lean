/-
This file writes and reads numerals in a radix.
-/

namespace Vscp.Numeral

/-- The digits of a value, most significant first. -/
def digits (radix value : Nat) : List Nat :=
  if value < radix ∨ radix < 2 then [value]
  else digits radix (value / radix) ++ [value % radix]
termination_by value
decreasing_by exact Nat.div_lt_self (by omega) (by omega)

def write (radix value : Nat) : List Char :=
  (digits radix value).map Nat.digitChar

/-- Zeros on the left bring a numeral to its width; a longer one is kept whole. -/
def writeWide (radix width value : Nat) : List Char :=
  (write radix value).leftpad width '0'

def decimal (value : Nat) : String :=
  String.ofList (write 10 value)

/-- Lower-case hexadecimal with at least `width` digits. -/
def hexadecimal (width value : Nat) : String :=
  String.ofList (writeWide 16 width value)

/-- Upper-case hexadecimal with at least `width` digits. -/
def capitalHexadecimal (width value : Nat) : String :=
  String.ofList ((writeWide 16 width value).map Char.toUpper)

/-- The value of a digit, of either case above nine. -/
def digitValue? (radix : Nat) (character : Char) : Option Nat :=
  let code := character.toNat
  let value? :=
    if 48 ≤ code ∧ code ≤ 57 then some (code - 48)
    else if 97 ≤ code ∧ code ≤ 122 then some (code - 87)
    else if 65 ≤ code ∧ code ≤ 90 then some (code - 55)
    else none
  value?.filter (· < radix)

/-- The digits after a value already read. -/
def extend? (radix : Nat) : Nat → List Char → Option Nat
  | total, [] => some total
  | total, character :: rest =>
      (digitValue? radix character).bind fun digit =>
        extend? radix (total * radix + digit) rest

/-- A numeral has at least one digit. -/
def read? (radix : Nat) : List Char → Option Nat
  | [] => none
  | characters => extend? radix 0 characters

/-- One plus sign may precede the digits. -/
def readSigned? (radix : Nat) : List Char → Option Nat
  | '+' :: characters => read? radix characters
  | characters => read? radix characters

/-- The value of a numeral below a bound. -/
def readBelow? (radix bound : Nat) (characters : List Char) : Option Nat :=
  (readSigned? radix characters).filter (· < bound)

end Vscp.Numeral
