/-!
# Numerals

Whole numbers in decimal digits. `digits?` reads digits and nothing else; `unsigned?` and
`signed?` read a numeral with an optional sign and refuse a value out of range. Leading zeros
are read, in any number; the digits are those of ASCII.
-/

namespace TrafficRouter.Numeral

/-- The greatest value of an unsigned word of 64 bits. -/
def maxWord64 : Nat := Nat.pow 2 64 - 1

/-- The greatest value of an unsigned word of 32 bits. -/
def maxWord32 : Nat := Nat.pow 2 32 - 1

/-- The greatest value of an unsigned word of 16 bits. -/
def maxWord16 : Nat := Nat.pow 2 16 - 1

/-- The value of a digit in bases up to sixteen, letters in either case. -/
def digitValue (c : Char) : Option Nat :=
  if '0' ≤ c ∧ c ≤ '9' then some (c.toNat - 48)
  else if 'a' ≤ c ∧ c ≤ 'f' then some (c.toNat - 87)
  else if 'A' ≤ c ∧ c ≤ 'F' then some (c.toNat - 55)
  else none

/-- Whether a character is a digit of the given base. -/
def isDigitOf (base : Nat) (c : Char) : Bool :=
  match digitValue c with
  | some d => d < base
  | none => false

/-- The value of a list of digits, most significant first. -/
def valueOf (base : Nat) (text : List Char) : Nat :=
  text.foldl (fun n c => n * base + (digitValue c).getD 0) 0

/-- The value of one or more decimal digits. -/
def digits? (text : List Char) : Option Nat :=
  if !text.isEmpty && text.all (isDigitOf 10) then some (valueOf 10 text) else none

/-- A numeral without sign or with a plus, at most `max`. -/
def unsigned? (max : Nat) (text : List Char) : Option Nat :=
  let body := match text with
    | '+' :: rest => rest
    | _ => text
  (digits? body).filter (· ≤ max)

/-- A numeral with an optional sign. -/
def signed? : List Char → Option Int
  | '+' :: rest => (digits? rest).map Int.ofNat
  | '-' :: rest => (digits? rest).map fun n => -Int.ofNat n
  | text => (digits? text).map Int.ofNat

end TrafficRouter.Numeral
