import TrafficRouter.Bytes

/-!
# UTF-8

Bytes are read as text by a decoder that is fed one byte at a time. It holds what a begun
character still owes and the range in which the next byte must lie; that range is what shuts out
overlong forms, surrogates and values past U+10FFFF. A byte that does not fit closes the begun
piece as ill-formed and is then read as the first byte of the next one, so every ill-formed piece
is as long as it can be.

The two readings differ only in what becomes of an ill-formed piece: `decode` refuses the whole
sequence, `decodeLossy` puts U+FFFD in the place of each piece. `encode` is the way back.
-/

namespace TrafficRouter.Utf8

/-- The bytes of a text in UTF-8. -/
def encode (text : List Char) : Bytes := text.flatMap String.utf8EncodeChar

@[simp] theorem encode_nil : encode [] = [] := rfl

theorem encode_append (s t : List Char) : encode (s ++ t) = encode s ++ encode t := by
  simp [encode]

/-! ## 1. The decoder -/

/-- A begun character: how many bytes it still owes, between which bounds the next one lies, and
the value of the bits read so far. -/
structure Pending where
  owed : Nat
  low : Nat
  high : Nat
  value : Nat
  deriving DecidableEq, Repr

/-- What one byte leads to: the piece it ends (a character, or none if it is ill-formed), or a
character that it begins or continues. -/
inductive Fed where
  | piece (char : Option Char)
  | begun (pending : Pending)
  deriving DecidableEq, Repr

/-- A byte read as the first of a piece. -/
def Fed.first (b : UInt8) : Fed :=
  let n := b.toNat
  if n < 0x80 then .piece (some (Char.ofNat n))
  else if n < 0xC2 then .piece none
  else if n < 0xE0 then .begun ⟨1, 0x80, 0xBF, n - 0xC0⟩
  else if n < 0xF0 then
    .begun ⟨2, if n = 0xE0 then 0xA0 else 0x80, if n = 0xED then 0x9F else 0xBF, n - 0xE0⟩
  else if n < 0xF5 then
    .begun ⟨3, if n = 0xF0 then 0x90 else 0x80, if n = 0xF4 then 0x8F else 0xBF, n - 0xF0⟩
  else .piece none

/-- A byte read as the next of a begun character, or none if it does not fit there. -/
def Fed.next (p : Pending) (b : UInt8) : Option Fed :=
  let n := b.toNat
  if p.low ≤ n ∧ n ≤ p.high then
    let value := p.value * 64 + (n - 0x80)
    if p.owed ≤ 1 then some (.piece (some (Char.ofNat value)))
    else some (.begun ⟨p.owed - 1, 0x80, 0xBF, value⟩)
  else none

/-- The decoder: the pieces read so far, the latest first, and the character begun. -/
structure Decoder where
  pieces : List (Option Char) := []
  pending : Option Pending := none
  deriving DecidableEq, Repr

namespace Decoder

/-- The decoder after what a byte led to. -/
def take (pieces : List (Option Char)) : Fed → Decoder
  | .piece c => ⟨c :: pieces, none⟩
  | .begun p => ⟨pieces, some p⟩

/-- One byte. -/
def feed (d : Decoder) (b : UInt8) : Decoder :=
  match d.pending with
  | none => take d.pieces (.first b)
  | some p =>
    match Fed.next p b with
    | some fed => take d.pieces fed
    | none => take (none :: d.pieces) (.first b)

/-- The pieces in order, once no byte follows: a begun character is then ill-formed. -/
def finish (d : Decoder) : List (Option Char) :=
  (if d.pending.isSome then none :: d.pieces else d.pieces).reverse

end Decoder

/-- The characters of a byte sequence in order, with `none` for each ill-formed piece. -/
def pieces (bytes : Bytes) : List (Option Char) := (bytes.foldl Decoder.feed {}).finish

@[simp] theorem pieces_nil : pieces [] = [] := rfl

/-! ## 2. The two readings -/

/-- The text of a byte sequence, if every piece of it is well-formed. -/
def decode (bytes : Bytes) : Option (List Char) :=
  let ps := pieces bytes
  if ps.all Option.isSome then some (ps.filterMap id) else none

/-- The text of a byte sequence with U+FFFD in the place of each ill-formed piece. -/
def decodeLossy (bytes : Bytes) : List Char :=
  (pieces bytes).map fun c => c.getD '\uFFFD'

end TrafficRouter.Utf8
