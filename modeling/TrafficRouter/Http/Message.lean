import TrafficRouter.Http.RequestLine
import TrafficRouter.Text.Blank
import TrafficRouter.Text.Numeral
import TrafficRouter.Text.Quoted

/-!
# Message buffers

The bytes of one HTTP message as they arrive. The buffer refuses to grow past its limit, keeps the
offset at which the header block was first seen to end, and says where the message stands with
respect to its framing (`framing`). Only `Content-Length` declares an end.

The offset is looked for while bytes are added and is kept when bytes are cut off. Where a cut went
below it, the parts of the message it delimits cannot be read; `readHead`, `readBody`,
`readContentLength` and `readFraming` say so with `CutBelow`. A buffer that is only extended, or cut
where `framing` says it is complete, never comes to that.

Not here: chunked bodies. A message without a declared length has no end of its own.
-/

namespace TrafficRouter.Http

/-- What can be wrong with a message. -/
inductive MessageError where
  /-- The value of the `Content-Length` header is no length. -/
  | invalidContentLength (value : String)
  /-- The message would outgrow the limit. -/
  | tooLarge (limit : Nat)
  deriving DecidableEq, Repr

def MessageError.message : MessageError → String
  | .invalidContentLength value => "invalid Content-Length header: " ++ Text.quote value
  | .tooLarge limit => "message exceeds " ++ toString limit ++ " bytes"

/-- Where a message stands with respect to its framing. -/
inductive Framing where
  /-- The end of the header block has not been seen. -/
  | awaitingHeaders
  /-- So many bytes of the declared body are missing. -/
  | awaitingBody (remaining : Nat)
  /-- The message is all there and spans `length` bytes. -/
  | complete (length : Nat)
  /-- The header block is there and declares no length. -/
  | unbounded
  deriving DecidableEq, Repr

/-! ## 1. Header lines -/

/-- The line end. -/
def lineEnd : Bytes := ascii ['\r', '\n']

/-- What ends the header block: an empty line. -/
def headerTerminator : Bytes := lineEnd ++ lineEnd

/-- A line without the carriage return at its end. -/
def dropReturn (line : Bytes) : Bytes :=
  if line.getLast? = some 13 then line.dropLast else line

/-- The lines of a header block behind the first, split at each line feed. -/
def headerLines (head : Bytes) : List Bytes := (splitOn 10 head).tail.map dropReturn

/-- Name and value of a header line, which the first colon divides. -/
def headerField (line : Bytes) : Option (Bytes × Bytes) :=
  match line.span (· != 58) with
  | (name, _ :: value) => some (name, value)
  | (_, []) => none

/-- Whether a header name is `Content-Length` in any case. -/
def isContentLengthName (name : Bytes) : Bool :=
  name.map lowerAscii
    == ascii ['c', 'o', 'n', 't', 'e', 'n', 't', '-', 'l', 'e', 'n', 'g', 't', 'h']

/-- The length that the value of a `Content-Length` header declares. -/
def declaredLength (value : Bytes) : Except MessageError Nat :=
  let text := Text.trim (Utf8.decodeLossy value)
  match Numeral.unsigned? Numeral.maxWord64 text with
  | some length => .ok length
  | none => .error (.invalidContentLength (String.ofList text))

/-- The length that a header block declares: that of its first `Content-Length` line, whatever
later ones say. -/
def headContentLength (head : Bytes) : Except MessageError (Option Nat) :=
  match ((headerLines head).filterMap headerField).find? (isContentLengthName ·.1) with
  | none => .ok none
  | some (_, value) => (declaredLength value).map some

/-! ## 2. The buffer -/

/-- The bytes of one message, at most `limit` of them, and the offset of its header terminator
once that has been seen. -/
structure MessageBuffer where
  limit : Nat
  bytes : Bytes := []
  headerEnd : Option Nat := none
  deriving DecidableEq, Repr

namespace MessageBuffer

/-- The bytes that a later part of the terminator may still complete. -/
def overlap : Nat := headerTerminator.length - 1

/-- The buffer with more bytes behind those it holds. The terminator is looked for from just
before the old end, since it may lie across it, and only while none is known. -/
def extend (b : MessageBuffer) (chunk : Bytes) : Except MessageError MessageBuffer :=
  if b.limit < b.bytes.length + chunk.length then .error (.tooLarge b.limit)
  else
    let start := b.bytes.length - overlap
    let bytes := b.bytes ++ chunk
    let headerEnd := match b.headerEnd with
      | some offset => some offset
      | none => (find headerTerminator (bytes.drop start)).map (start + ·)
    .ok { b with bytes, headerEnd }

/-- A buffer that starts with bytes read before. -/
def ofInitial (limit : Nat) (initial : Bytes) : Except MessageError MessageBuffer :=
  ({ limit : MessageBuffer }).extend initial

/-- The buffer without the bytes from `length` on. -/
def truncate (b : MessageBuffer) (length : Nat) : MessageBuffer :=
  { b with bytes := b.bytes.take length }

/-- The offset just past the header terminator. -/
def bodyStart (b : MessageBuffer) : Option Nat :=
  b.headerEnd.map (· + headerTerminator.length)

/-- The header block without its terminator. -/
def head (b : MessageBuffer) : Option Bytes := b.headerEnd.map b.bytes.take

/-- The bytes of the body received so far. -/
def body (b : MessageBuffer) : Bytes :=
  match b.bodyStart with
  | some start => b.bytes.drop start
  | none => []

/-- The length that the header block declares. -/
def contentLength (b : MessageBuffer) : Except MessageError (Option Nat) :=
  match b.head with
  | none => .ok none
  | some head => headContentLength head

/-- Where the message stands. -/
def framing (b : MessageBuffer) : Except MessageError Framing :=
  match b.bodyStart with
  | none => .ok .awaitingHeaders
  | some start =>
    match b.contentLength with
    | .error e => .error e
    | .ok none => .ok .unbounded
    | .ok (some declared) =>
      let received := b.bytes.length - start
      if declared ≤ received then .ok (.complete (start + declared))
      else .ok (.awaitingBody (declared - received))

/-- The request line, looked for at the first line end. -/
def requestLine (b : MessageBuffer) : Option RequestLine :=
  match find lineEnd b.bytes with
  | none => none
  | some length => RequestLine.parse? (b.bytes.take length)

/-! ## 3. Reading a buffer that may have been cut -/

/-- The buffer was cut below an offset that it still keeps. -/
inductive CutBelow where
  | headerEnd
  | bodyStart
  deriving DecidableEq, Repr

/-- The header block, if the buffer still holds all of it. -/
def readHead (b : MessageBuffer) : Except CutBelow (Option Bytes) :=
  if b.headerEnd.all (· ≤ b.bytes.length) then .ok b.head else .error .headerEnd

/-- The body, if the buffer still reaches its start. -/
def readBody (b : MessageBuffer) : Except CutBelow Bytes :=
  if b.bodyStart.all (· ≤ b.bytes.length) then .ok b.body else .error .bodyStart

/-- The declared length, if the header block can be read. -/
def readContentLength (b : MessageBuffer) :
    Except CutBelow (Except MessageError (Option Nat)) :=
  b.readHead.map fun _ => b.contentLength

/-- Where the message stands, if the header block can be read and, where it declares a length, the
buffer still reaches the start of the body. -/
def readFraming (b : MessageBuffer) : Except CutBelow (Except MessageError Framing) :=
  match b.readContentLength with
  | .error cut => .error cut
  | .ok (.ok (some _)) => b.readBody.map fun _ => b.framing
  | .ok _ => .ok b.framing

end MessageBuffer

end TrafficRouter.Http
