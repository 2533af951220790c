import Specimen.Text.Column

/-!
# The use of the commands

Every command with its options, as a table that the command line is read by and that the help is
written from. The help on a command has a line for each of its options: its letter and its name with
what stands for its value, in one column, and what it is for behind that.
-/

namespace Specimen

open Text

/-- An option of a command. -/
structure OptionSpec where
  name : String
  letter : Option Char := none
  /-- What stands for the value in the help; an option without it takes no value. -/
  placeholder : Option String := none
  /-- Whether the value has to have a character at least. -/
  isPath : Bool := false
  /-- Whether the command needs the option. -/
  required : Bool := false
  /-- The variable of the environment that the value may also come from. -/
  setting : Option String := none
  about : String
  deriving DecidableEq, Repr

/-- A command by its name, with what it does and its options. -/
structure CommandSpec where
  name : String
  about : String
  options : List OptionSpec
  deriving DecidableEq, Repr

namespace Usage

/-! ## The commands -/

/-- The option for the schema. -/
def schema : OptionSpec :=
  { name := "schema", placeholder := "PATH", isPath := true, required := true
    setting := "SAMPLE_BUILDER_SCHEMA", about := "Path to the sample schema YAML file" }

/-- The option that asks for help, which every command has. -/
def help : OptionSpec := { name := "help", letter := 'h', about := "Print help" }

/-- The command that makes samples. -/
def generate : CommandSpec :=
  { name := "generate"
    about := "Generate sample collections for every type in a schema"
    options :=
      [schema,
        { name := "output", letter := 'o', placeholder := "PATH", isPath := true
          about := "Output file (default: stdout)" },
        { name := "member", placeholder := "MEMBER"
          about := "Name of the generated associated function (overrides the schema default)" },
        { name := "data-crate", placeholder := "DATA_CRATE"
          about :=
            "Path of the runtime data crate in generated code (overrides the schema default)" },
        help] }

/-- The command that only checks. -/
def check : CommandSpec :=
  { name := "check"
    about := "Validate a schema and report diagnostics without writing code"
    options :=
      [schema,
        { name := "quiet", letter := 'q'
          about := "Log diagnostics through tracing instead of printing them" },
        help] }

/-- The command that shows shapes. -/
def shape : CommandSpec :=
  { name := "shape"
    about := "Print the extracted construction shape of schema types as YAML"
    options :=
      [schema,
        { name := "type", placeholder := "NAME", about := "Only print the shape of this type" },
        help] }

/-- The command that lists categories. -/
def categories : CommandSpec :=
  { name := "categories", about := "List the supported value categories", options := [help] }

/-- All commands. -/
def commands : List CommandSpec := [generate, check, shape, categories]

/-- The name of the program. -/
def program : String := "sample-builder"

/-! ## Help -/

/-- Lines of two columns. -/
def columns (rows : List (String × String)) : String :=
  let width := widest (rows.map Prod.fst)
  String.join (rows.map fun (left, right) => s!"  {padded width left}  {right}\n")

/-- An option with what stands for its value. -/
def form (option : OptionSpec) : String :=
  "--" ++ option.name ++ match option.placeholder with
    | some value => s!" <{value}>"
    | none => ""

/-- What the help says about an option, with the value from the environment. -/
def note (environment : Option String) (option : OptionSpec) : String :=
  option.about ++ match option.setting with
    | some setting =>
      let value := environment.getD ""
      s!" [env: {setting}={value}]"
    | none => ""

/-- The line for an option. -/
def row (environment : Option String) (option : OptionSpec) : String × String :=
  let letter := match option.letter with
    | some c => String.ofList ['-', c, ',', ' ']
    | none => "    "
  (letter ++ form option, note environment option)

/-- The lines for options. -/
def optionLines (environment : Option String) (options : List OptionSpec) : String :=
  "Options:\n" ++ columns (options.map (row environment))

/-- The help on a command. -/
def ofCommand (environment : Option String) (command : CommandSpec) : String :=
  let (needed, others) := command.options.partition (·.required)
  let choice := if others.all (· == help) then "" else " [OPTIONS]"
  let needs := String.join (needed.map fun option => " " ++ form option)
  s!"{command.about}\n\nUsage: {program} {command.name}{choice}{needs}\n\n"
    ++ optionLines environment command.options

/-- The help on the program. -/
def ofProgram : String :=
  let rows := commands.map fun command => (command.name, command.about)
  s!"Generates static sample instances for annotated Rust types\n\nUsage: {program} <COMMAND>\n\n"
    ++ "Commands:\n"
    ++ columns (rows ++ [("help", "Print this message or the help of the given subcommand(s)")])
    ++ "\n" ++ optionLines none [help]

end Usage

end Specimen
