import TrafficRouter.Toml.Number
import TrafficRouter.Toml.Value

/-!
# TOML documents

From the text of a document to its table. Values nest (`readValue`), to a bounded depth; lines
follow each other (`readLines`), each of them a definition, a header or nothing.

A document is a table, and a header leads to a table within it: the path of the last header is
where the definitions below it go.
-/

namespace TrafficRouter.Toml

/-- How many arrays and inline tables, and how many parts of a key, may be within each other. -/
def nestingLimit : Nat := 80

/-- A key of one or more parts, below the nesting limit. -/
def readKey (text : List Char) : Found KeyPath :=
  match readKeyParts text.length text with
  | none => none
  | some (parts, rest) =>
    if nestingLimit ≤ parts.length then none
    else parts.getLast?.map fun key => (⟨parts.dropLast, key⟩, rest)

/-- The text behind an equals sign. -/
def readEquals : List Char → Option (List Char)
  | '=' :: rest => some (skipSpacing rest)
  | _ => none

/-! ## 1. Values -/

/-- A value that begins with a digit or a sign. -/
def readNumber (text : List Char) : Found Value :=
  match readDatetime text with
  | .found _ rest => some (.datetime, rest)
  | .refused => none
  | .absent =>
    match readFloat text with
    | .found _ rest => some (.float, rest)
    | .refused => none
    | .absent =>
      match readInteger text with
      | .found n rest => some (.integer n, rest)
      | _ => none

mutual

/-- A value within `depth` arrays and inline tables. -/
def readValue : Nat → Nat → List Char → Found Value
  | 0, _, _ => none
  | _, _, [] => none
  | fuel + 1, depth, c :: rest =>
    if c = '"' || c = '\'' then
      (readString (c :: rest)).map fun (text, rest) => (.string text, rest)
    else if c = '[' then
      if nestingLimit ≤ depth + 1 then none else readElements fuel (depth + 1) [] rest
    else if c = '\x7b' then
      if nestingLimit ≤ depth + 1 then none
      else
        match skipSpacing rest with
        | '\x7d' :: rest => some (.table .inline [], rest)
        | rest => readPairs fuel (depth + 1) [] rest
    else if c = '+' || c = '-' || Numeral.isDigitOf 10 c then readNumber (c :: rest)
    else
      match c :: rest with
      | 't' :: 'r' :: 'u' :: 'e' :: rest => some (.boolean true, rest)
      | 'f' :: 'a' :: 'l' :: 's' :: 'e' :: rest => some (.boolean false, rest)
      | 'i' :: 'n' :: 'f' :: rest => some (.float, rest)
      | 'n' :: 'a' :: 'n' :: rest => some (.float, rest)
      | _ => none

/-- The rest of an array, behind its bracket or a comma, with its elements so far, latest first. -/
def readElements : Nat → Nat → List Value → List Char → Found Value
  | 0, _, _, _ => none
  | fuel + 1, depth, elements, text =>
    match skipLines (text.length + 1) text with
    | none => none
    | some (']' :: rest) => some (.array elements.reverse, rest)
    | some text =>
      match readValue fuel depth text with
      | none => none
      | some (value, rest) =>
        match skipLines (rest.length + 1) rest with
        | some (',' :: rest) => readElements fuel depth (value :: elements) rest
        | some (']' :: rest) => some (.array (value :: elements).reverse, rest)
        | _ => none

/-- The rest of a table between braces that is not empty, behind its brace or a comma. -/
def readPairs : Nat → Nat → Entries → List Char → Found Value
  | 0, _, _, _ => none
  | fuel + 1, depth, entries, text =>
    match readKey text with
    | none => none
    | some (target, rest) =>
      match readEquals rest with
      | none => none
      | some rest =>
        match readValue fuel depth rest with
        | none => none
        | some (value, rest) =>
          match entries.define target value .inline with
          | none => none
          | some entries =>
            match skipSpacing rest with
            | ',' :: rest => readPairs fuel depth entries rest
            | '\x7d' :: rest => some (.table .inline entries, rest)
            | _ => none

end

/-! ## 2. Lines -/

/-- The table of a document as far as it has been read, and the path of the last header. -/
structure Draft where
  entries : Entries := []
  current : List String := []

namespace Draft

/-- A definition, in the table of the last header. -/
def define (d : Draft) (target : KeyPath) (value : Value) : Option Draft :=
  (d.entries.updateAt false (Entries.define target value) d.current .header).map fun entries =>
    { d with entries }

/-- The header of a table. -/
def openTable (d : Draft) (target : KeyPath) : Option Draft :=
  (d.entries.updateAt false (Entries.openTable target.key) target.path .header).map
    fun entries => { entries, current := target.path ++ [target.key] }

/-- The header of an element of an array of tables. -/
def openElement (d : Draft) (target : KeyPath) : Option Draft :=
  (d.entries.updateAt false (Entries.openElement target.key) target.path .header).map
    fun entries => { entries, current := target.path ++ [target.key] }

end Draft

/-- The draft and the text behind the line at the front of a text, which is not empty. -/
def readLine (d : Draft) (text : List Char) : Option (Draft × List Char) :=
  match text with
  | '#' :: _ => (finishLine text).map fun rest => (d, rest)
  | '\n' :: rest => some (d, rest)
  | '\r' :: _ => (readLineEnd text).map fun rest => (d, rest)
  | '[' :: '[' :: rest =>
    match readKey rest with
    | some (target, ']' :: ']' :: rest) => do
      let d ← d.openElement target
      let rest ← finishLine rest
      some (d, rest)
    | _ => none
  | '[' :: rest =>
    match readKey rest with
    | some (target, ']' :: rest) => do
      let d ← d.openTable target
      let rest ← finishLine rest
      some (d, rest)
    | _ => none
  | _ => do
    let (target, rest) ← readKey text
    let rest ← readEquals rest
    let (value, rest) ← readValue (text.length + 1) 0 rest
    let d ← d.define target value
    let rest ← finishLine rest
    some (d, rest)

/-- The draft after all lines of a text. -/
def readLines : Nat → Draft → List Char → Option Draft
  | 0, _, _ => none
  | fuel + 1, d, text =>
    match skipSpacing text with
    | [] => some d
    | text =>
      match readLine d text with
      | some (d, rest) => readLines fuel d rest
      | none => none

/-- The table that a document is. One byte order mark may stand before it. -/
def parse? (text : List Char) : Option Entries :=
  let body := match text with
    | '\uFEFF' :: rest => rest
    | _ => text
  (readLines (body.length + 1) {} body).map (·.entries)

end TrafficRouter.Toml
