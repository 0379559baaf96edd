import TrafficRouter.Program

/-!
# The outer layer

The arguments of a call, the settings file and the standard streams. What a call shows is decided in
`TrafficRouter.Program`; it is given what the path of the settings file leads to, and a host. No
socket is opened here: the host is one on which every socket can listen.
-/

namespace TrafficRouter

/-- What a path leads to. -/
def readEntry (path : String) : IO FileEntry := do
  try
    let contents ← IO.FS.readBinFile path
    return .file contents.toList
  catch
    | .noFileOrDirectory .. => return .missing
    | .inappropriateType .. => return .directory
    | e => return .unreadable (toString e)

/-- The line of a message. -/
def Message.line (m : Message) : String :=
  "INFO " ++ m.text ++ String.join (m.fields.map fun f => " " ++ f.1 ++ "=" ++ f.2)

/-- What the path of the settings file leads to, if the arguments name one. -/
def settingsEntry (arguments : List String) : IO FileEntry :=
  match CommandLine.ofArguments arguments with
  | .ok { config := some path, .. } => readEntry path
  | _ => return .missing

/-- A call of the program, with the number that it ends with. -/
def call (arguments : List String) : IO UInt32 := do
  let entry ← settingsEntry arguments
  let report := Program.run {} (fun _ => entry) arguments
  for m in report.log do
    IO.println m.line
  IO.print report.output
  if let some complaint := report.exit.complaint then
    IO.eprintln complaint
  return report.exit.code.toUInt32

end TrafficRouter

def main (arguments : List String) : IO UInt32 := TrafficRouter.call arguments
