import TrafficRouter.Settings.Table
import TrafficRouter.Settings.Validation
import TrafficRouter.Text.Utf8
import TrafficRouter.Toml.Document

/-!
# Loading settings

From a file to settings: the file must be there and be text, the text a document, the values of
the document must fit their fields, and, where validation is asked for, the settings must make
sense. `LoadError` says which of these fails first.
-/

namespace TrafficRouter

/-- Why a file cannot be read as text. -/
inductive FileFault where
  | notFound
  | isDirectory
  | notUtf8
  /-- Any other fault, by the text that the system has for it. -/
  | other (text : String)
  deriving DecidableEq, Repr

def FileFault.text : FileFault → String
  | .notFound => "No such file or directory (os error 2)"
  | .isDirectory => "Is a directory (os error 21)"
  | .notUtf8 => "stream did not contain valid UTF-8"
  | .other text => text

/-- What a path leads to. -/
inductive FileEntry where
  | missing
  | directory
  /-- There is something that cannot be read, for a reason that the system has a text for. -/
  | unreadable (text : String)
  | file (bytes : Bytes)
  deriving DecidableEq, Repr

/-- Why settings cannot be loaded. -/
inductive LoadError where
  | file (fault : FileFault)
  /-- The text is no document, or a value does not fit its field. -/
  | malformed
  | invalid (violations : List Violation)
  deriving DecidableEq, Repr

/-- The text of an error. What exactly is wrong with a document is not said. -/
def LoadError.message : LoadError → String
  | .file fault => "IO error: " ++ fault.text
  | .malformed => "Parse error"
  | .invalid violations =>
    "Validation failed: " ++ ", ".intercalate (violations.map Violation.message)

namespace Settings

/-- The settings that a document gives. -/
def ofDocument (text : List Char) : Except LoadError Settings :=
  match (Toml.parse? text).bind ofTable with
  | some s => .ok s
  | none => .error .malformed

/-- The settings, if they make sense. -/
def check (s : Settings) : Except LoadError Settings :=
  match s.validate with
  | .ok s => .ok s
  | .error violations => .error (.invalid violations)

/-- The settings that a document gives, if they make sense. -/
def parse (text : List Char) : Except LoadError Settings := ofDocument text >>= check

/-- The settings in a file, sensible or not, for a caller that lays others over them. -/
def read : FileEntry → Except LoadError Settings
  | .missing => .error (.file .notFound)
  | .directory => .error (.file .isDirectory)
  | .unreadable text => .error (.file (.other text))
  | .file bytes =>
    match Utf8.decode bytes with
    | some text => ofDocument text
    | none => .error (.file .notUtf8)

/-- The settings in a file, if they make sense. -/
def load (entry : FileEntry) : Except LoadError Settings := read entry >>= check

end Settings

end TrafficRouter
