import Repeater.Text.Quoted

/-!
# Errors of the system

What the operating system says when it refuses something: a number, the name of the kind, and a
text.
-/

namespace Repeater

/-- A refusal of the operating system. -/
structure SystemError where
  code : Nat
  kind : String
  text : String
  deriving DecidableEq, Repr

namespace SystemError

/-- There is no such file. -/
def notFound : SystemError := ⟨2, "NotFound", "No such file or directory"⟩

/-- It is not allowed. -/
def denied : SystemError := ⟨13, "PermissionDenied", "Permission denied"⟩

/-- A part of the path is no directory. -/
def notDirectory : SystemError := ⟨20, "NotADirectory", "Not a directory"⟩

/-- A directory stands where a file should. -/
def isDirectory : SystemError := ⟨21, "IsADirectory", "Is a directory"⟩

/-- Someone listens at the address already. -/
def inUse : SystemError := ⟨98, "AddrInUse", "Address already in use"⟩

/-- The text shown for an error. -/
def message (e : SystemError) : String :=
  e.text ++ " (os error " ++ toString e.code ++ ")"

/-- The parts of an error by name. -/
def details (e : SystemError) : String :=
  "Os \x7b code: " ++ toString e.code ++ ", kind: " ++ e.kind ++ ", message: " ++
    Text.quote e.text ++ " \x7d"

end SystemError

end Repeater
