import TrafficRouter.Text.Utf8

/-!
# The request line

`METHOD SP PATH SP VERSION` in UTF-8, each of the three non-empty and without a space. Only the
character U+0020 separates. `RequestLine.parse?` reads the line, `RequestLine.print` writes it.
-/

namespace TrafficRouter.Http

/-- Method, path and version of a request. -/
structure RequestLine where
  method : String
  path : String
  version : String
  deriving DecidableEq, Repr

namespace RequestLine

/-- The line that names a request. -/
def print (line : RequestLine) : Bytes :=
  Utf8.encode (line.method.toList ++ ' ' :: line.path.toList ++ ' ' :: line.version.toList)

/-- The request that a line without its line end names, if it has the form of one. -/
def parse? (bytes : Bytes) : Option RequestLine :=
  match Utf8.decode bytes with
  | none => none
  | some text =>
    match splitOn ' ' text with
    | [method, path, version] =>
      if method.isEmpty || path.isEmpty || version.isEmpty then none
      else some ⟨String.ofList method, String.ofList path, String.ofList version⟩
    | _ => none

/-- The one request that is forwarded: a POST to the login page. -/
def isLogin (line : RequestLine) : Bool :=
  line.method == "POST" && line.path == "/login.php"

end RequestLine

end TrafficRouter.Http
