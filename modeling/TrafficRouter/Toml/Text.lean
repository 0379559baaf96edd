import TrafficRouter.Text.Numeral

/-!
# The texts of TOML

Blanks, comments, line ends, strings and keys. Each reader takes its piece off the front of a text
and gives the rest; `none` means that no document goes on like this.

A string may hold any character but the controls, the tab apart, and a multi-line string line ends
besides; a line end of two characters becomes a line feed. Up to two quotes may stand right before
the three that close a multi-line string.
-/

namespace TrafficRouter.Toml

/-- What a reader finds and the text behind it. -/
abbrev Found (α : Type) := Option (α × List Char)

/-! ## 1. Between the pieces -/

/-- Space and tab. -/
def isSpacing (c : Char) : Bool := c = ' ' || c = '\t'

def skipSpacing (text : List Char) : List Char := text.dropWhile isSpacing

/-- The text behind a line end. -/
def readLineEnd : List Char → Option (List Char)
  | '\n' :: rest => some rest
  | '\r' :: '\n' :: rest => some rest
  | _ => none

/-- The characters of a comment. -/
def isCommentChar (c : Char) : Bool := c = '\t' || (0x20 ≤ c.toNat && c.toNat ≠ 0x7F)

/-- The text behind the comment at its front, if there is one. -/
def skipComment : List Char → List Char
  | '#' :: rest => rest.dropWhile isCommentChar
  | text => text

/-- The text behind what may still stand on a line: spacing, a comment, and the line end or the
end of the document. -/
def finishLine (text : List Char) : Option (List Char) :=
  match skipComment (skipSpacing text) with
  | [] => some []
  | rest => readLineEnd rest

/-- The text behind any spacing, line ends, and comments each with its line end. -/
def skipLines : Nat → List Char → Option (List Char)
  | 0, text => some text
  | fuel + 1, text =>
    match skipSpacing text with
    | '#' :: rest => readLineEnd (rest.dropWhile isCommentChar) >>= skipLines fuel
    | '\n' :: rest => skipLines fuel rest
    | '\r' :: rest => readLineEnd ('\r' :: rest) >>= skipLines fuel
    | rest => some rest

/-! ## 2. Strings -/

/-- The characters that a string may hold as they are, quote and backslash still among them. -/
def isStringChar (c : Char) : Bool := isCommentChar c

/-- The character with the code point that exactly `count` hexadecimal digits give. -/
def readCodePoint (count : Nat) (text : List Char) : Found Char :=
  let digits := text.take count
  let value := Numeral.valueOf 16 digits
  if digits.length = count && digits.all (Numeral.isDigitOf 16) then
    if value < 0xD800 || (0xDFFF < value && value < 0x110000) then
      some (Char.ofNat value, text.drop count)
    else none
  else none

/-- The character that an escape stands for, behind its backslash. -/
def readEscape : List Char → Found Char
  | 'b' :: rest => some ('\x08', rest)
  | 't' :: rest => some ('\t', rest)
  | 'n' :: rest => some ('\n', rest)
  | 'f' :: rest => some ('\x0c', rest)
  | 'r' :: rest => some ('\r', rest)
  | '"' :: rest => some ('"', rest)
  | '\\' :: rest => some ('\\', rest)
  | 'u' :: rest => readCodePoint 4 rest
  | 'U' :: rest => readCodePoint 8 rest
  | _ => none

/-- The rest of a string in double quotes, with what has been read of it, latest first. -/
def readBasic : Nat → List Char → List Char → Found String
  | 0, _, _ => none
  | _, _, [] => none
  | fuel + 1, read, c :: rest =>
    if c = '"' then some (String.ofList read.reverse, rest)
    else if c = '\\' then
      match readEscape rest with
      | some (e, rest) => readBasic fuel (e :: read) rest
      | none => none
    else if isStringChar c then readBasic fuel (c :: read) rest
    else none

/-- The rest of a string in single quotes. -/
def readLiteral (text : List Char) : Found String :=
  let body := text.takeWhile fun c => isStringChar c && c ≠ '\''
  match text.drop body.length with
  | '\'' :: rest => some (String.ofList body, rest)
  | _ => none

/-- The text behind spacing and line ends. -/
def skipBlankLines : Nat → List Char → List Char
  | 0, text => text
  | fuel + 1, text =>
    match readLineEnd (skipSpacing text) with
    | some rest => skipBlankLines fuel rest
    | none => skipSpacing text

/-- The text behind a backslash that ends a line, and behind all blanks after it. -/
def readContinuation (fuel : Nat) (text : List Char) : Option (List Char) :=
  (readLineEnd (skipSpacing text)).map (skipBlankLines fuel)

/-- The rest of a multi-line string between triple quotes of the given character; only one in
double quotes has escapes. -/
def readMultiLine (mark : Char) : Nat → List Char → List Char → Found String
  | 0, _, _ => none
  | _, _, [] => none
  | fuel + 1, read, c :: rest =>
    if c = mark then
      let quotes := (c :: rest).takeWhile (· = mark)
      if quotes.length < 3 then readMultiLine mark fuel (c :: read) rest
      else
        let extra := min (quotes.length - 3) 2
        some (String.ofList (List.replicate extra mark ++ read).reverse, rest.drop (extra + 2))
    else if c = '\\' && mark = '"' then
      match readContinuation fuel rest with
      | some rest => readMultiLine mark fuel read rest
      | none =>
        match readEscape rest with
        | some (e, rest) => readMultiLine mark fuel (e :: read) rest
        | none => none
    else if isStringChar c then readMultiLine mark fuel (c :: read) rest
    else
      match readLineEnd (c :: rest) with
      | some rest => readMultiLine mark fuel ('\n' :: read) rest
      | none => none

/-- A string of any of the four kinds. The line end right behind opening triple quotes is not part
of it. -/
def readString (text : List Char) : Found String :=
  let fuel := text.length
  match text with
  | '"' :: '"' :: '"' :: rest => readMultiLine '"' fuel [] ((readLineEnd rest).getD rest)
  | '"' :: rest => readBasic fuel [] rest
  | '\'' :: '\'' :: '\'' :: rest => readMultiLine '\'' fuel [] ((readLineEnd rest).getD rest)
  | '\'' :: rest => readLiteral rest
  | _ => none

/-! ## 3. Keys -/

/-- The characters of a key without quotes. -/
def isBareKeyChar (c : Char) : Bool := c.isAlphanum || c = '_' || c = '-'

/-- One part of a key. -/
def readKeyPart (text : List Char) : Found String :=
  match text with
  | '"' :: rest => readBasic text.length [] rest
  | '\'' :: rest => readLiteral rest
  | _ =>
    let name := text.takeWhile isBareKeyChar
    if name.isEmpty then none else some (String.ofList name, text.drop name.length)

/-- The parts of a key, with points and spacing between them. -/
def readKeyParts : Nat → List Char → Found (List String)
  | 0, _ => none
  | fuel + 1, text =>
    match readKeyPart (skipSpacing text) with
    | none => none
    | some (part, rest) =>
      match skipSpacing rest with
      | '.' :: rest =>
        match readKeyParts fuel rest with
        | some (parts, rest) => some (part :: parts, rest)
        | none => none
      | rest => some ([part], rest)

end TrafficRouter.Toml
