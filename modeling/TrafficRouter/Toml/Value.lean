/-!
# TOML values and tables

The value that a TOML document denotes. A table remembers how it came about, since that decides
what later lines may add to it: a table written between braces is closed; one that a header opened
takes the lines below the header; one that only a longer header or a dotted key implied may be
opened once more, or extended by dotted keys.

`updateAt` is the one way to change a table within a table, and `defineKey`, `openTable` and
`openElement` are the three changes that lines make.

Not kept: the value of a float and of a date-time. No setting is one.
-/

namespace TrafficRouter.Toml

/-- How a table came about. -/
inductive Origin where
  /-- Written between braces. -/
  | inline
  /-- Opened by a header of its own, or the whole document. -/
  | header
  /-- Implied by the header of a table within it. -/
  | implied
  /-- Made by a dotted key. -/
  | dotted
  deriving DecidableEq, Repr

/-- A value. -/
inductive Value where
  | string (text : String)
  | integer (value : Int)
  | float
  | boolean (value : Bool)
  | datetime
  | array (elements : List Value)
  | table (origin : Origin) (entries : List (String × Value))
  /-- An array whose elements are tables opened by headers. -/
  | tables (elements : List (List (String × Value)))

/-- The entries of a table in the order of their definition, each key once. -/
abbrev Entries := List (String × Value)

namespace Entries

/-- The value of a key. -/
def get? (key : String) (entries : Entries) : Option Value := entries.lookup key

/-- The entries with another value for a key that they have. -/
def replace (key : String) (value : Value) (entries : Entries) : Entries :=
  entries.map fun e => if e.1 = key then (key, value) else e

/-- The entries with a key that they do not have yet. -/
def add (key : String) (value : Value) (entries : Entries) : Entries := entries ++ [(key, value)]

/-- The entries after a change to the table that a path leads to, tables along the path being made
where there is none: implied ones for a header, dotted ones for a dotted key. A dotted key does not
lead through a table that a header opened, and nothing leads through a table between braces or a
value of another kind. An array of tables stands for its last element. -/
def updateAt (dotted : Bool) (change : Origin → Entries → Option Entries) :
    List String → Origin → Entries → Option Entries
  | [], origin, entries => change origin entries
  | key :: path, _, entries =>
    match entries.get? key with
    | none =>
      let origin := if dotted then .dotted else .implied
      (updateAt dotted change path origin []).map fun inner =>
        entries.add key (.table origin inner)
    | some (.table origin inner) =>
      if origin = .inline || (dotted && origin = .header) then none
      else
        (updateAt dotted change path origin inner).map fun inner =>
          entries.replace key (.table origin inner)
    | some (.tables elements) =>
      match elements.getLast? with
      | none => none
      | some element =>
        (updateAt dotted change path .header element).map fun element =>
          entries.replace key (.tables (elements.dropLast ++ [element]))
    | some _ => none

/-- A key that is not there yet, in a table that a dotted key made exactly if it is reached through
one. -/
def defineKey (reached : Bool) (key : String) (value : Value) (origin : Origin)
    (entries : Entries) : Option Entries :=
  if decide (origin = .dotted) = reached ∧ (entries.get? key).isNone then
    some (entries.add key value)
  else none

/-- A table that is not there yet, or was only implied by a header. -/
def openTable (key : String) (_ : Origin) (entries : Entries) : Option Entries :=
  match entries.get? key with
  | none => some (entries.add key (.table .header []))
  | some (.table .implied inner) => some (entries.replace key (.table .header inner))
  | some _ => none

/-- One more element of an array of tables, which is made if it is not there yet. -/
def openElement (key : String) (_ : Origin) (entries : Entries) : Option Entries :=
  match entries.get? key with
  | none => some (entries.add key (.tables [[]]))
  | some (.tables elements) => some (entries.replace key (.tables (elements ++ [[]])))
  | some _ => none

end Entries

/-- A path and the key at its end. -/
structure KeyPath where
  path : List String
  key : String
  deriving DecidableEq, Repr

/-- The entries with a value at a dotted key. -/
def Entries.define (target : KeyPath) (value : Value) (origin : Origin) (entries : Entries) :
    Option Entries :=
  entries.updateAt true (Entries.defineKey (!target.path.isEmpty) target.key value)
    target.path origin

end TrafficRouter.Toml
