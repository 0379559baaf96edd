import TrafficRouter.Toml.Text

/-!
# The numbers of TOML

Integers, floats and date-times. They begin alike, so each reader says whether what it reads is
there at all: `Attempt.absent` leaves the text to the next reader, `Attempt.refused` is final.

An integer lies within 64 bits with sign; underscores stand between digits only. A float that would
be infinite without saying so is refused. The parts of a date-time are in range, the day within its
month; the sixtieth second is allowed.
-/

namespace TrafficRouter.Toml

/-- What a reader makes of a text that may not be for it. -/
inductive Attempt (α : Type) where
  | found (value : α) (rest : List Char)
  | refused
  | absent

/-! ## 1. Digits -/

/-- Digits with single underscores between them; the flag says whether an underscore was left
without a digit behind it. -/
def takeDigits (base : Nat) : List Char → List Char × Bool × List Char
  | '_' :: c :: rest =>
    if Numeral.isDigitOf base c then
      let (digits, dangling, rest) := takeDigits base rest
      (c :: digits, dangling, rest)
    else ([], true, c :: rest)
  | ['_'] => ([], true, [])
  | c :: rest =>
    if Numeral.isDigitOf base c then
      let (digits, dangling, rest) := takeDigits base rest
      (c :: digits, dangling, rest)
    else ([], false, c :: rest)
  | [] => ([], false, [])

/-- One or more digits with underscores between them, in any base and with leading zeros. -/
def readDigits (base : Nat) : List Char → Attempt (List Char)
  | c :: rest =>
    if Numeral.isDigitOf base c then
      match takeDigits base rest with
      | (_, true, _) => .refused
      | (digits, false, rest) => .found (c :: digits) rest
    else .absent
  | [] => .absent

/-- A sign. -/
def readSign : List Char → Option Char × List Char
  | '+' :: rest => (some '+', rest)
  | '-' :: rest => (some '-', rest)
  | text => (none, text)

/-- The digits of a whole number: a zero stands alone. -/
def readWhole : List Char → Attempt (List Char)
  | '0' :: rest => .found ['0'] rest
  | text => readDigits 10 text

/-! ## 2. Integers -/

/-- Whether a value lies within 64 bits with sign. -/
def inWord (n : Int) : Bool := -(Int.pow 2 63) ≤ n && n < Int.pow 2 63

/-- An integer, if it lies within its range. -/
def integerFound (n : Int) (rest : List Char) : Attempt Int :=
  if inWord n then .found n rest else .refused

/-- Digits of a base, behind the mark for it. -/
def readBased (base : Nat) (text : List Char) : Attempt Int :=
  match readDigits base text with
  | .found digits rest => integerFound (Numeral.valueOf base digits) rest
  | _ => .refused

/-- An integer: decimal with an optional sign, or hexadecimal, octal or binary without one. -/
def readInteger : List Char → Attempt Int
  | '0' :: 'x' :: rest => readBased 16 rest
  | '0' :: 'o' :: rest => readBased 8 rest
  | '0' :: 'b' :: rest => readBased 2 rest
  | text =>
    let (sign, body) := readSign text
    match readWhole body with
    | .found digits rest =>
      let value : Int := Numeral.valueOf 10 digits
      integerFound (if sign = some '-' then -value else value) rest
    | .refused => .refused
    | .absent => .absent

/-! ## 3. Floats -/

/-- The least value that rounds to no finite number in double precision. -/
def overflowBound : Nat := (Nat.pow 2 54 - 1) * Nat.pow 2 970

/-- Whether the decimal `digits · 10 ^ scale` is too large for double precision. The number of
digits settles all values that are not close to the bound. -/
def overflows (digits : List Char) (scale : Int) : Bool :=
  let mantissa := Numeral.valueOf 10 digits
  let magnitude : Int := (Nat.toDigits 10 mantissa).length + scale
  if mantissa = 0 || magnitude < 300 then false
  else if 320 < magnitude then true
  else if 0 ≤ scale then overflowBound ≤ mantissa * Nat.pow 10 scale.toNat
  else overflowBound * Nat.pow 10 (-scale).toNat ≤ mantissa

/-- A float, unless it is positive and too large. -/
def floatFound (sign : Option Char) (digits : List Char) (scale : Int) (rest : List Char) :
    Attempt Unit :=
  if sign ≠ some '-' && overflows digits scale then .refused else .found () rest

/-- An exponent behind its mark. -/
def readExponent (text : List Char) : Attempt Int :=
  let (sign, body) := readSign text
  match readDigits 10 body with
  | .found digits rest =>
    let value : Int := Numeral.valueOf 10 digits
    .found (if sign = some '-' then -value else value) rest
  | _ => .refused

/-- Whether a character marks an exponent. -/
def isExponentMark (c : Char) : Bool := c = 'e' || c = 'E'

/-- A float: a whole number with a fraction, an exponent or both, or a special value. -/
def readFloat (text : List Char) : Attempt Unit :=
  let (sign, body) := readSign text
  match readWhole body with
  | .refused => .refused
  | .found whole ('.' :: rest) =>
    match readDigits 10 rest with
    | .found fraction rest =>
      let digits := whole ++ fraction
      let shift : Int := -fraction.length
      match rest with
      | c :: exponent =>
        if isExponentMark c then
          match readExponent exponent with
          | .found e rest => floatFound sign digits (e + shift) rest
          | _ => .refused
        else floatFound sign digits shift rest
      | [] => floatFound sign digits shift rest
    | _ => .refused
  | .found whole (c :: rest) =>
    if isExponentMark c then
      match readExponent rest with
      | .found e rest => floatFound sign whole e rest
      | _ => .refused
    else .absent
  | .found _ [] => .absent
  | .absent =>
    match body with
    | 'i' :: 'n' :: 'f' :: rest => .found () rest
    | 'n' :: 'a' :: 'n' :: rest => .found () rest
    | _ => .absent

/-! ## 4. Date-times -/

/-- A number of exactly `count` digits within a range. -/
def readField (count low high : Nat) (text : List Char) : Attempt Nat :=
  let digits := text.take count
  let value := Numeral.valueOf 10 digits
  if digits.length = count && digits.all (Numeral.isDigitOf 10) && low ≤ value && value ≤ high then
    .found value (text.drop count)
  else .absent

/-- The days of a month. -/
def daysIn (year month : Nat) : Nat :=
  if month = 2 then
    if year % 4 = 0 && (year % 100 ≠ 0 || year % 400 = 0) then 29 else 28
  else if month = 4 || month = 6 || month = 9 || month = 11 then 30
  else 31

/-- The hour with the colon behind it, by which a time is known. -/
def readHour (text : List Char) : Attempt Nat :=
  match readField 2 0 23 text with
  | .found hour (':' :: rest) => .found hour rest
  | _ => .absent

/-- A fraction of a second, if there is one. -/
def skipFraction : List Char → List Char
  | '.' :: c :: rest =>
    if Numeral.isDigitOf 10 c then rest.dropWhile (Numeral.isDigitOf 10) else '.' :: c :: rest
  | text => text

/-- A time of day. -/
def readTime (text : List Char) : Attempt Unit :=
  match readHour text with
  | .found _ rest =>
    match readField 2 0 59 rest with
    | .found _ (':' :: rest) =>
      match readField 2 0 60 rest with
      | .found _ rest => .found () (skipFraction rest)
      | _ => .refused
    | _ => .refused
  | _ => .absent

/-- A difference to universal time behind its sign. -/
def readShift (text : List Char) : Attempt Unit :=
  match readHour text with
  | .found _ rest =>
    match readField 2 0 59 rest with
    | .found _ rest => .found () rest
    | _ => .refused
  | _ => .refused

/-- A difference to universal time, if there is one. -/
def readOffset : List Char → Attempt Unit
  | 'Z' :: rest => .found () rest
  | 'z' :: rest => .found () rest
  | '+' :: rest => readShift rest
  | '-' :: rest => readShift rest
  | text => .found () text

/-- A date: year, month and day with hyphens between them. A year alone is none. -/
def readDate (text : List Char) : Attempt Unit :=
  match readField 4 0 9999 text with
  | .found year ('-' :: rest) =>
    match readField 2 1 12 rest with
    | .found month ('-' :: rest) =>
      match readField 2 1 (daysIn year month) rest with
      | .found _ rest => .found () rest
      | _ => .refused
    | _ => .refused
  | _ => .absent

/-- A date with an optional time, or a time. -/
def readDatetime (text : List Char) : Attempt Unit :=
  match readDate text with
  | .absent => readTime text
  | .refused => .refused
  | .found _ [] => .found () []
  | .found _ (c :: rest) =>
    if c = 'T' || c = 't' || c = ' ' then
      match readTime rest with
      | .found _ rest => readOffset rest
      | .refused => .refused
      | .absent => .found () (c :: rest)
    else .found () (c :: rest)

end TrafficRouter.Toml
