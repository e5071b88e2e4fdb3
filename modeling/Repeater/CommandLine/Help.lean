import Repeater.CommandLine.Spec

/-!
# Help texts

The text that explains a command: what it is, how it is called, and its subcommands, words and options
in columns. Where the column of an option would be too wide, all explanations go on lines of their own.
-/

namespace Repeater.CommandLine

/-- The width that texts are laid out for. -/
def textWidth : Nat := 100

/-- A number of spaces. -/
def spaces (n : Nat) : String :=
  String.ofList (List.replicate n ' ')

/-- A row of a help text. -/
structure HelpRow where
  /-- The short form with its comma, or blanks of the same width, before the long form. -/
  lead : String := ""
  item : String
  help : String

namespace HelpRow

/-- The width of the first column. -/
def width (r : HelpRow) : Nat :=
  r.lead.length + r.item.length

/-- Whether the explanation does not fit beside a first column of this width. -/
def overflows (widest : Nat) (r : HelpRow) : Bool :=
  let taken := widest + 4
  taken ≤ textWidth && 2 * textWidth < 5 * taken && textWidth - taken < r.help.length

/-- The rows in two columns, or each explanation under its item. -/
def table (rows : List HelpRow) : String :=
  let widest := rows.foldl (fun n r => max n r.width) 2
  let below := rows.any (overflows widest)
  "\n".intercalate <| rows.map fun r =>
    "  " ++ r.lead ++ r.item ++
      (if below then "\n" ++ spaces 10 else spaces (widest + 2 - r.width)) ++ r.help

end HelpRow

/-- What is told of an option's value: where it may come from, and what it may be. -/
def OptionSpec.notes (env : String → Option String) (o : OptionSpec) : List String :=
  (match o.fromEnv with
    | none => []
    | some v =>
      ["[env: " ++ v ++ (if o.isSecret then "" else "=" ++ (env v).getD "") ++ "]"]) ++
  (match o.default with
    | none => []
    | some d => ["[default: " ++ d ++ "]"]) ++
  (if o.kind.choices.isEmpty then []
    else ["[possible values: " ++ ", ".intercalate o.kind.choices ++ "]"])

/-- The row of an option. -/
def OptionSpec.row (env : String → Option String) (o : OptionSpec) : HelpRow where
  lead := match o.short with
    | some c => String.ofList ['-', c, ',', ' ']
    | none => "    "
  item := o.text
  help := " ".intercalate ((if o.help = "" then [] else [o.help]) ++ o.notes env)

/-- The rows of the options that every command has. -/
def Command.commonRows (c : Command) : List HelpRow :=
  { lead := "-h, ", item := "--help", help := "Print help" } ::
    (if c.version.isSome then [{ lead := "-V, ", item := "--version", help := "Print version" }]
      else [])

/-- A part of a help text under its title. -/
def helpPart (title : String) (rows : List HelpRow) : List String :=
  if rows.isEmpty then [] else [title ++ ":\n" ++ HelpRow.table rows]

/-- The help text of a command; `path` is how it is called. -/
def Command.help (env : String → Option String) (path : String) (c : Command)
    (subcommands : List HelpRow) : String :=
  let usage := "Usage: " ++ path ++ (if c.options.isEmpty then "" else " [OPTIONS]") ++
    String.join (c.words.map fun w => " <" ++ w ++ ">") ++
    (if subcommands.isEmpty then "" else " <COMMAND>")
  let parts := helpPart "Commands" subcommands ++
    helpPart "Arguments" (c.words.map fun w => { item := "<" ++ w ++ ">", help := "" }) ++
    helpPart "Options" (c.options.map (OptionSpec.row env) ++ c.commonRows)
  c.about ++ "\n\n" ++ usage ++ "\n\n" ++ "\n\n".intercalate parts ++ "\n"

namespace Program

/-- What the subcommand for help is said to do. -/
def helpAbout : String := "Print this message or the help of the given subcommand(s)"

/-- The rows of the subcommands. -/
def subcommandRows (p : Program) : List HelpRow :=
  if p.subcommands.isEmpty then []
  else p.subcommands.map (fun c => { item := c.name, help := c.about }) ++
    [{ item := helpName, help := helpAbout }]

/-- The help text of the program. -/
def help (env : String → Option String) (p : Program) : String :=
  p.command.help env p.command.name p.subcommandRows

/-- The help text of a subcommand. -/
def subcommandHelp (env : String → Option String) (p : Program) (c : Command) : String :=
  c.help env (p.command.name ++ " " ++ c.name) []

/-- The help text of the subcommand for help. -/
def helpHelp (p : Program) : String :=
  helpAbout ++ "\n\nUsage: " ++ p.command.name ++ " " ++ helpName ++ " [COMMAND]...\n\n" ++
    "\n\n".intercalate (helpPart "Arguments"
      [{ item := "[COMMAND]...", help := "Print help for the subcommand(s)" }]) ++ "\n"

end Program

end Repeater.CommandLine
