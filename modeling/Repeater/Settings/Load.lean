import Repeater.Settings.Check
import Repeater.Settings.Document
import Repeater.Settings.Overrides
import Repeater.SystemError
import Repeater.Text.Utf8

/-!
# Loading settings

The defaults, or the settings of a file, with the overrides laid over them, checked.
-/

namespace Repeater.Settings

/-- Why a file cannot be read as text. -/
inductive FileFault where
  | system (error : SystemError)
  | notUtf8
  deriving DecidableEq, Repr

/-- What is said of bytes that are no text. -/
def notUtf8Text : String := "stream did not contain valid UTF-8"

/-- The text shown for a file that cannot be read. -/
def FileFault.message : FileFault → String
  | .system e => e.message
  | .notUtf8 => notUtf8Text

/-- A settings file: its bytes, or why there are none. -/
abbrev File := Except SystemError ByteArray

/-- Why there are no settings. -/
inductive LoadError where
  | file (fault : FileFault)
  | malformed
  | invalid (problems : List Problem)
  deriving DecidableEq, Repr

/-- The text shown for an error about the file at `path`; the fault of a document is not told. -/
def LoadError.message (path : String) : LoadError → String
  | .file fault => "IO error reading " ++ path ++ ": " ++ fault.message
  | .malformed => "Parse error"
  | .invalid ps => "Validation failed: " ++ ", ".intercalate (ps.map Problem.message)

/-- The settings of a file. -/
def ofFile (file : File) : Except LoadError Settings :=
  match file with
  | .error e => .error (.file (.system e))
  | .ok bytes =>
    match Text.utf8? bytes with
    | none => .error (.file .notUtf8)
    | some text =>
      match ofToml? text with
      | none => .error .malformed
      | some s => .ok s

/-- Loads settings: defaults or a file, then the overrides, then the checks. -/
def load (file : Option File) (overrides : Overrides) : Except LoadError Settings :=
  match file.elim (.ok {}) ofFile with
  | .error e => .error e
  | .ok s =>
    let s := overrides.apply s
    if s.problems.isEmpty then .ok s else .error (.invalid s.problems)

end Repeater.Settings
