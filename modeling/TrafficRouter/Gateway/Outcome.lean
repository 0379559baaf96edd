import TrafficRouter.Http.Message
import TrafficRouter.Http.Response
import TrafficRouter.Stream.Fault

/-!
# What becomes of an HTTP request

A request is forwarded, answered here because it is not for the service (`Rejection`), or answered
here because the service failed (`GatewayError`). Whichever it is, there is one answer
(`Verdict.answer`), and it counts under one status (`Verdict.status`).
-/

namespace TrafficRouter

open Http (MessageError LocalResponse)

/-- Why a request is not forwarded. -/
inductive Rejection where
  /-- The client closed, or reading failed, before the request was complete. -/
  | clientClosed
  /-- The client was silent for too long. -/
  | clientTimeout
  | message (error : MessageError)
  | malformedRequestLine
  /-- The request is not for the login page. -/
  | noRoute (method path : String)
  deriving DecidableEq, Repr

/-- How the service failed. -/
inductive GatewayError where
  | connectTimeout (address : String)
  | connect (address : String) (fault : IoFault)
  | send (fault : IoFault)
  | receive (fault : IoFault)
  | receiveTimeout
  /-- The service closed after so many bytes of a response that was not complete. -/
  | incomplete (received : Nat)
  | message (error : MessageError)
  deriving DecidableEq, Repr

def GatewayError.text : GatewayError → String
  | .connectTimeout address => "connecting to " ++ address ++ " timed out"
  | .connect address fault => "connecting to " ++ address ++ " failed: " ++ fault.text
  | .send fault => "sending request to backend failed: " ++ fault.text
  | .receive fault => "reading backend response failed: " ++ fault.text
  | .receiveTimeout => "backend response timed out"
  | .incomplete received =>
    "backend closed the connection after " ++ toString received
      ++ " bytes of an incomplete response"
  | .message error => "malformed backend response: " ++ error.message

/-- What was decided about a request. -/
inductive Verdict where
  | rejected (rejection : Rejection)
  | failed (error : GatewayError)
  /-- The service's response is passed on. -/
  | forwarded (response : Bytes)
  deriving DecidableEq, Repr

namespace Verdict

/-- The bytes that the client is to get. -/
def answer : Verdict → Bytes
  | .rejected _ => LocalResponse.notFound.toBytes
  | .failed _ => LocalResponse.internalServerError.toBytes
  | .forwarded response => response

/-- The status under which the answer counts. -/
def status : Verdict → Nat
  | .rejected _ => LocalResponse.notFound.status
  | .failed _ => LocalResponse.internalServerError.status
  | .forwarded response => (Http.statusCode? response).getD 0

end Verdict

end TrafficRouter
