import TrafficRouter.Text.Utf8
import TrafficRouter.Text.Numeral

/-!
# Responses

The answers that are written here and not by a service (`LocalResponse`), and the one thing that is
read from a response passed on: the status code of its first line (`statusCode?`).
-/

namespace TrafficRouter.Http

/-- A plain-text answer that closes the connection. -/
structure LocalResponse where
  status : Nat
  reason : String
  body : String
  deriving DecidableEq, Repr

namespace LocalResponse

/-- The answer to a request that is not forwarded. -/
def notFound : LocalResponse := ⟨404, "Not Found", "Not Found"⟩

/-- The answer when the service fails. -/
def internalServerError : LocalResponse :=
  ⟨500, "Internal Server Error", "Internal Server Error"⟩

/-- The message as it is sent. The declared length counts bytes. -/
def toBytes (r : LocalResponse) : Bytes :=
  let body := Utf8.encode r.body.toList
  let head := "HTTP/1.1 " ++ toString r.status ++ " " ++ r.reason
    ++ "\r\nContent-Type: text/plain\r\nContent-Length: " ++ toString body.length
    ++ "\r\nConnection: close\r\n\r\n"
  Utf8.encode head.toList ++ body

end LocalResponse

/-- The status code of a response: the second word of its first line, which a carriage return
ends. -/
def statusCode? (response : Bytes) : Option Nat :=
  if response.contains 13 then
    match Utf8.decode (response.takeWhile (· != 13)) with
    | none => none
    | some line => (splitOn ' ' line)[1]?.bind (Numeral.unsigned? Numeral.maxWord16)
  else none

end TrafficRouter.Http
