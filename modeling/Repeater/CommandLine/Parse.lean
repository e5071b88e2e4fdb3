import Repeater.CommandLine.Help

/-!
# Reading command lines

Reads the arguments of a program, with what the environment and the defaults add.

* `Program.parse` gives the options and words, or says what the user is to be told (`Halt`);
* an option is settled, and its value checked, when the next one or a word comes, or at the end;
* after `--` all arguments are words.
-/

namespace Repeater.CommandLine

/-- What the user is told instead of running the program. -/
inductive Halt where
  /-- A text that was asked for. -/
  | shown (text : String)
  /-- The help text, since nothing was asked for. -/
  | helpNeeded (text : String)
  | unexpected (argument : String)
  | unneededValue (value option : String)
  | valueNeeded (option : String)
  | invalidValue (value option : String) (reason : Option String)
  | repeated (option : String)
  | unknownSubcommand (name : String)
  | subcommandNeeded (program : String)
  | wordsNeeded (words : List String)
  deriving DecidableEq, Repr

/-- The text, which ends in a line end where it was asked for. -/
def Halt.text : Halt → String
  | .shown text | .helpNeeded text => text
  | .unexpected argument => "error: unexpected argument '" ++ argument ++ "' found"
  | .unneededValue value option =>
    "error: unexpected value '" ++ value ++ "' for '" ++ option ++ "' found; no more were expected"
  | .valueNeeded option =>
    "error: a value is required for '" ++ option ++ "' but none was supplied"
  | .invalidValue value option reason =>
    "error: invalid value '" ++ value ++ "' for '" ++ option ++ "'" ++
      (reason.map (": " ++ ·)).getD ""
  | .repeated option => "error: the argument '" ++ option ++ "' cannot be used multiple times"
  | .unknownSubcommand name => "error: unrecognized subcommand '" ++ name ++ "'"
  | .subcommandNeeded program =>
    "error: '" ++ program ++ "' requires a subcommand but one was not provided"
  | .wordsNeeded words =>
    "error: the following required arguments were not provided:" ++
      String.join (words.map fun w => "\n  <" ++ w ++ ">")

/-- Whether the text was asked for. -/
def Halt.isShown : Halt → Bool
  | .shown _ => true
  | _ => false

/-- What was read of a command line. -/
structure Matches where
  /-- Names of options with their values, in order. -/
  values : List (String × String) := []
  words : List String := []
  /-- The subcommand with its words. -/
  subcommand : Option (String × List String) := none
  deriving DecidableEq, Repr

/-- The last value of an option. -/
def Matches.get? (m : Matches) (long : String) : Option String :=
  ((m.values.filter fun v => v.1 == long).map Prod.snd).getLast?

/-- All values of an option. -/
def Matches.all (m : Matches) (long : String) : List String :=
  (m.values.filter fun v => v.1 == long).map Prod.snd

-- ---------------------------------------------------------------------------
-- Options
-- ---------------------------------------------------------------------------

/-- Takes a value of an option. -/
def Matches.take (m : Matches) (o : OptionSpec) (value : String) : Except Halt Matches :=
  if !o.repeats && (m.get? o.long).isSome then .error (.repeated o.text)
  else match o.kind.fault? value with
    | some .empty => .error (.valueNeeded o.text)
    | some (.invalid reason) => .error (.invalidValue value o.text reason)
    | none => .ok { m with values := m.values ++ [(o.long, value)] }

/-- How far a command line has been read. -/
structure Scan where
  found : Matches := {}
  /-- The option that is not settled, with its value once there is one. -/
  pending : Option (OptionSpec × Option String) := none
  /-- All arguments are words from here on. -/
  wordsOnly : Bool := false

/-- Whether the next argument may be the value of an option. -/
def Scan.awaitsValue (s : Scan) : Bool :=
  match s.pending with
  | some (_, none) => true
  | _ => false

/-- Settles the option that is pending. -/
def Scan.settle (s : Scan) : Except Halt Scan :=
  match s.pending with
  | none => .ok s
  | some (o, none) => .error (.valueNeeded o.text)
  | some (o, some value) =>
    match s.found.take o value with
    | .ok found => .ok { s with found, pending := none }
    | .error e => .error e

/-- Begins an option, whose value may be attached. -/
def Scan.begin (s : Scan) (o : OptionSpec) (attached : Option String) : Except Halt Scan :=
  match s.settle with
  | .error e => .error e
  | .ok s =>
    match attached with
    | none => .ok { s with pending := some (o, none) }
    | some value =>
      match s.found.take o value with
      | .ok found => .ok { s with found }
      | .error e => .error e

/-- What a command tells when it is asked to. -/
structure Manual where
  help : String
  /-- The line with the version. -/
  version : Option String := none

/-- Shows a text, once the option that is pending is settled. -/
def Scan.show (s : Scan) (text : String) : Except Halt Scan :=
  match s.settle with
  | .error e => .error e
  | .ok _ => .error (.shown text)

/-- Reads an argument that begins with two dashes, which are left off here. -/
def Scan.long (c : Command) (m : Manual) (s : Scan) (argument : List Char) : Except Halt Scan :=
  let name := String.ofList (argument.takeWhile (· != '='))
  let attached := match argument.dropWhile (· != '=') with
    | [] => none
    | _ :: value => some (String.ofList value)
  match c.options.find? fun o => o.long == name, attached with
  | some o, _ => s.begin o attached
  | none, value =>
    let told := if name = "help" then some m.help
      else if name = "version" then m.version else none
    match told, value with
    | none, _ => .error (.unexpected ("--" ++ name))
    | some _, some v => .error (.unneededValue v ("--" ++ name))
    | some text, none => s.show text

/-- Reads an argument that begins with one dash, which is left off here. -/
def Scan.short (c : Command) (m : Manual) (s : Scan) : List Char → Except Halt Scan
  | [] => .ok s
  | letter :: r =>
    match c.options.find? fun o => o.short == some letter with
    | some o =>
      s.begin o (match r with
        | [] => none
        | '=' :: value | value => some (String.ofList value))
    | none =>
      let told := if letter = 'h' then some m.help
        else if letter = 'V' then m.version else none
      match told with
      | some text => s.show text
      | none => .error (.unexpected (String.ofList ['-', letter]))

/-- Reads a word; `refused` is said of one more than the command needs. -/
def Scan.word (c : Command) (refused : Bool → String → Halt) (s : Scan) (argument : String) :
    Except Halt Scan :=
  if s.found.words.length < c.words.length then
    match s.settle with
    | .error e => .error e
    | .ok s => .ok { s with found := { s.found with words := s.found.words ++ [argument] } }
  else .error (refused s.wordsOnly argument)

/-- Reads one argument. -/
def Scan.step (c : Command) (m : Manual) (refused : Bool → String → Halt) (s : Scan)
    (argument : String) : Except Halt Scan :=
  let asValue : Except Halt Scan :=
    match s.pending with
    | some (o, none) => .ok { s with pending := some (o, some argument) }
    | _ => s.word c refused argument
  if s.wordsOnly then s.word c refused argument
  else match argument.toList with
    | ['-', '-'] => .ok { s with wordsOnly := true }
    | '-' :: '-' :: r => s.long c m r
    | '-' :: r => if r.isEmpty then asValue else s.short c m r
    | _ => asValue

/-- Reads the arguments up to a subcommand, which is given with the arguments after it. -/
def Scan.run (c : Command) (m : Manual) (refused : Bool → String → Halt)
    (isSubcommand : String → Bool) (s : Scan) : List String → Except Halt (Scan × Option (String × List String))
  | [] => .ok (s, none)
  | a :: r =>
    if !s.wordsOnly && !s.awaitsValue && isSubcommand a then .ok (s, some (a, r))
    else match s.step c m refused a with
      | .error e => .error e
      | .ok s => s.run c m refused isSubcommand r

/-- Lets the environment give the options that the command line does not. -/
def Matches.withEnvironment (env : String → Option String) (m : Matches) :
    List OptionSpec → Except Halt Matches
  | [] => .ok m
  | o :: r =>
    match o.fromEnv.bind env with
    | some value =>
      if (m.get? o.long).isSome then m.withEnvironment env r
      else match m.take o value with
        | .error e => .error e
        | .ok m => m.withEnvironment env r
    | none => m.withEnvironment env r

/-- Lets the defaults give the options that nothing else does. -/
def Matches.withDefaults (options : List OptionSpec) (m : Matches) : Matches :=
  { m with values := m.values ++ options.filterMap fun o =>
      if (m.get? o.long).isSome then none else o.default.map fun d => (o.long, d) }

namespace Program

-- ---------------------------------------------------------------------------
-- Subcommands
-- ---------------------------------------------------------------------------

/-- What the subcommand for help tells about the words after it. -/
def helpOn (env : String → Option String) (p : Program) : List String → Halt
  | [] => .shown (p.help env)
  | name :: r =>
    match p.subcommands.find? fun c => c.name == name, r with
    | some c, [] => .shown (p.subcommandHelp env c)
    | some _, other :: _ => .unknownSubcommand other
    | none, [] => if name = helpName then .shown p.helpHelp else .unknownSubcommand name
    | none, other :: _ =>
      if name = helpName then .unknownSubcommand other else .unknownSubcommand name

/-- Reads the arguments of a subcommand. -/
def parseSubcommand (env : String → Option String) (p : Program) (name : String)
    (arguments : List String) : Except Halt (List String) :=
  match p.subcommands.find? fun c => c.name == name with
  | none => .error (p.helpOn env arguments)
  | some c =>
    let manual : Manual := { help := p.subcommandHelp env c }
    match Scan.run c manual (fun _ => .unexpected) (fun _ => false) {} arguments with
    | .error e => .error e
    | .ok (s, _) =>
      match s.settle with
      | .error e => .error e
      | .ok s =>
        let missing := c.words.drop s.found.words.length
        if missing.isEmpty then .ok s.found.words else .error (.wordsNeeded missing)

-- ---------------------------------------------------------------------------
-- The program
-- ---------------------------------------------------------------------------

/-- What a program tells when it is asked to. -/
def manual (env : String → Option String) (p : Program) : Manual where
  help := p.help env
  version := p.command.version.map fun v => p.command.name ++ " " ++ v ++ "\n"

/-- What is said of a word that the program does not want. -/
def refusedWord (p : Program) (wordsOnly : Bool) (word : String) : Halt :=
  if p.subcommands.isEmpty || (wordsOnly && p.isSubcommand word) then .unexpected word
  else .unknownSubcommand word

/-- Reads the arguments of a program in an environment. -/
def parse (env : String → Option String) (p : Program) (arguments : List String) :
    Except Halt Matches := do
  let (s, rest) ← Scan.run p.command (p.manual env) p.refusedWord p.isSubcommand {} arguments
  let subcommand ← match rest with
    | none => pure none
    | some (name, more) => do
      let words ← p.parseSubcommand env name more
      pure (some (name, words))
  let s ← s.settle
  let m ← s.found.withEnvironment env p.command.options
  if p.subcommands.isEmpty || subcommand.isSome then
    pure { m.withDefaults p.command.options with subcommand }
  else if m.values.isEmpty then .error (.helpNeeded (p.help env))
  else .error (.subcommandNeeded p.command.name)

end Program

end Repeater.CommandLine
