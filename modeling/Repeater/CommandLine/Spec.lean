/-!
# Command line specifications

What a program takes on its command line: options with a value each, which the environment or a
default may give too, and either words of its own or the name of a subcommand.
-/

namespace Repeater.CommandLine

/-- Why a value is refused. -/
inductive ValueFault where
  /-- An empty value where none may be empty. -/
  | empty
  | invalid (reason : Option String)
  deriving DecidableEq, Repr

/-- What a value has to be. -/
structure ValueKind where
  /-- Why a value is refused, if it is. -/
  fault? : String → Option ValueFault
  /-- All values, where they are few. -/
  choices : List String := []

/-- Any text. -/
def ValueKind.text : ValueKind where
  fault? _ := none

/-- A path, which is not empty. -/
def ValueKind.path : ValueKind where
  fault? s := if s = "" then some .empty else none

/-- A truth value. -/
def ValueKind.boolean : ValueKind where
  fault? s := if s = "true" ∨ s = "false" then none else some (.invalid none)
  choices := ["true", "false"]

/-- Reads an integer of 64 bits in decimal digits after an optional sign, or says why it is none. -/
def integer (s : String) : Except String Int :=
  let digits (neg : Bool) (ds : List Char) : Except String Int :=
    if ds.isEmpty || !ds.all Char.isDigit then .error "invalid digit found in string"
    else
      let n : Nat := ds.foldl (fun n c => 10 * n + (c.toNat - 48)) 0
      let limit := UInt64.size / 2
      if !neg && limit ≤ n then .error "number too large to fit in target type"
      else if neg && limit < n then .error "number too small to fit in target type"
      else .ok (if neg then -(n : Int) else n)
  match s.toList with
  | [] => .error "cannot parse integer from empty string"
  | '+' :: r => digits false r
  | '-' :: r => digits true r
  | r => digits false r

/-- A port. -/
def ValueKind.port : ValueKind where
  fault? s :=
    match integer s with
    | .error reason => some (.invalid (some reason))
    | .ok n =>
      if 0 ≤ n ∧ n ≤ 65535 then none
      else some (.invalid (some (toString n ++ " is not in 0..=65535")))

/-- A text that a reader takes. -/
def ValueKind.readBy (read : String → Except String α) : ValueKind where
  fault? s :=
    match read s with
    | .ok _ => none
    | .error reason => some (.invalid (some reason))

/-- An option, which takes one value each time it is given. -/
structure OptionSpec where
  long : String
  short : Option Char := none
  /-- What stands for the value in texts. -/
  valueName : String
  kind : ValueKind := .text
  /-- It may be given more than once. -/
  repeats : Bool := false
  /-- The variable that gives the value when the command line does not. -/
  fromEnv : Option String := none
  /-- The value of the variable is not shown. -/
  isSecret : Bool := false
  /-- The value when nothing else gives one. -/
  default : Option String := none
  help : String := ""

/-- The text of an option with its value. -/
def OptionSpec.text (o : OptionSpec) : String :=
  "--" ++ o.long ++ " <" ++ o.valueName ++ ">"

/-- A program or one of its subcommands. -/
structure Command where
  /-- The name by which it is called. -/
  name : String
  about : String
  /-- The version that it can tell. -/
  version : Option String := none
  options : List OptionSpec := []
  /-- What stands for each of the words that it needs. -/
  words : List String := []

/-- A program with its subcommands. -/
structure Program where
  command : Command
  subcommands : List Command := []

namespace Program

/-- The subcommand that shows help on the others. -/
def helpName : String := "help"

/-- Whether a word names a subcommand. -/
def isSubcommand (p : Program) (word : String) : Bool :=
  !p.subcommands.isEmpty && (word == helpName || p.subcommands.any fun c => c.name == word)

end Program

end Repeater.CommandLine
