import TrafficRouter.Text.Numeral

/-!
# Internet addresses

Addresses of version 4 and 6 in their textual forms. Reading takes an address off the front of a
text and gives the rest of it.

A part of a version 4 address has one to three digits and no leading zero. A version 6 address
has eight groups of one to four hexadecimal digits; `::` stands for one group of zero or more, and
the last two groups may be written as a version 4 address, though not before `::`.
-/

namespace TrafficRouter

/-- An address: four octets, or eight groups of sixteen bits. -/
inductive IpAddress where
  | v4 (a b c d : Nat)
  | v6 (groups : List Nat)
  deriving DecidableEq, Repr

namespace IpAddress

/-! ## 1. Reading -/

/-- A numeral at the front of a text: at most `digits` digits if that is given, a leading zero
only if `padded`, and at most `max`. -/
def readNumeral (base : Nat) (digits : Option Nat) (padded : Bool) (max : Nat)
    (text : List Char) : Option (Nat × List Char) :=
  let numeral := text.takeWhile (Numeral.isDigitOf base)
  let value := Numeral.valueOf base numeral
  if numeral.isEmpty || digits.any (· < numeral.length)
      || (!padded && numeral.head? == some '0' && 1 < numeral.length) || max < value then none
  else some (value, text.drop numeral.length)

/-- The rest of a text behind the given character. -/
def readMark (mark : Char) : List Char → Option (List Char)
  | c :: rest => if c = mark then some rest else none
  | [] => none

/-- One part of a version 4 address. -/
def readOctet (text : List Char) : Option (Nat × List Char) :=
  readNumeral 10 (some 3) false 255 text

/-- Four parts and the points between them. -/
def readV4 (text : List Char) : Option ((Nat × Nat × Nat × Nat) × List Char) := do
  let (a, text) ← readOctet text
  let (b, text) ← readMark '.' text >>= readOctet
  let (c, text) ← readMark '.' text >>= readOctet
  let (d, text) ← readMark '.' text >>= readOctet
  some ((a, b, c, d), text)

/-- The place where a group begins: behind a colon, unless it is the first. -/
def groupStart (first : Bool) (text : List Char) : Option (List Char) :=
  if first then some text else readMark ':' text

/-- As many groups as there are, at most `room`; the flag says that they end in a version 4
address, for which there must be room for two. -/
def readGroups (first : Bool) : Nat → List Char → List Nat × Bool × List Char
  | 0, text => ([], false, text)
  | room + 1, text =>
    match (if room = 0 then none else groupStart first text >>= readV4) with
    | some ((a, b, c, d), rest) => ([a * 256 + b, c * 256 + d], true, rest)
    | none =>
      match groupStart first text >>= readNumeral 16 (some 4) true 0xFFFF with
      | some (group, rest) =>
        let (groups, embedded, rest) := readGroups false room rest
        (group :: groups, embedded, rest)
      | none => ([], false, text)

/-- Eight groups, or fewer with `::` among them. -/
def readV6 (text : List Char) : Option (List Nat × List Char) :=
  let (front, embedded, rest) := readGroups true 8 text
  if front.length = 8 then some (front, rest)
  else if embedded then none
  else
    match readMark ':' rest >>= readMark ':' with
    | none => none
    | some rest =>
      let (back, _, rest) := readGroups true (8 - (front.length + 1)) rest
      some (front ++ List.replicate (8 - front.length - back.length) 0 ++ back, rest)

/-! ## 2. Writing -/

/-- Four parts with points between them. -/
def printV4 (a b c d : Nat) : String :=
  ".".intercalate ([a, b, c, d].map toString)

/-- Groups with colons between them. -/
def printGroups (groups : List Nat) : String :=
  ":".intercalate (groups.map fun g => String.ofList (Nat.toDigits 16 g))

/-- Start and length of the first of the longest runs of zeros, with the run in hand and the
best one so far. -/
def longestRun (index : Nat) (current best : Nat × Nat) : List Nat → Nat × Nat
  | [] => best
  | g :: rest =>
    if g = 0 then
      let current := if current.2 = 0 then (index, 1) else (current.1, current.2 + 1)
      longestRun (index + 1) current (if best.2 < current.2 then current else best) rest
    else longestRun (index + 1) (0, 0) best rest

/-- An address in its shortest form: the first of the longest runs of two or more zero groups is
left out, and an address that stands for one of version 4 ends in that. -/
def print : IpAddress → String
  | v4 a b c d => printV4 a b c d
  | v6 groups =>
    match groups with
    | [0, 0, 0, 0, 0, 0xFFFF, g, h] =>
      "::ffff:" ++ printV4 (g / 256) (g % 256) (h / 256) (h % 256)
    | _ =>
      let (start, length) := longestRun 0 (0, 0) (0, 0) groups
      if 1 < length then
        printGroups (groups.take start) ++ "::" ++ printGroups (groups.drop (start + length))
      else printGroups groups

end IpAddress

end TrafficRouter
