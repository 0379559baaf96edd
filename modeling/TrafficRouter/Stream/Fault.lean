/-!
# Faults

What can go wrong on a connection. A fault is known by its kind; one that the operating system
reports and nothing here distinguishes is known by the system's text for it.
-/

namespace TrafficRouter

/-- Why reading from a connection, writing to it or closing it failed. -/
inductive IoFault where
  | connectionReset
  | brokenPipe
  | timedOut
  | unexpectedEof
  /-- A connection accepted none of the bytes offered to it. -/
  | writeZero
  | reported (text : String)
  deriving DecidableEq, Repr

def IoFault.text : IoFault → String
  | .connectionReset => "connection reset"
  | .brokenPipe => "broken pipe"
  | .timedOut => "timed out"
  | .unexpectedEof => "unexpected end of file"
  | .writeZero => "write zero"
  | .reported text => text

end TrafficRouter
