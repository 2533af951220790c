import Specimen.Command
import Specimen.Command.Usage

/-!
# The command line

The first word names the command, and the words behind it are its options. An option is written with
two dashes and its name, its value behind an equals sign or as the next word; some also have a letter,
behind which the value may follow directly. No option may come twice. A word that begins with a dash is
no value, unless it is a dash alone.

A path must not be empty. The path of the schema may also come from the environment.

Whoever asks for help gets it, whatever comes behind.
-/

namespace Specimen

/-- What a command line asks for. -/
inductive Request where
  | run (command : Command)
  | help (text : String)
  deriving DecidableEq, Repr

namespace Command

/-- The options that were given, with their values. -/
abbrev Given := List (String × String)

/-- Takes note of an option, which must not have been given before. -/
def note? (spec : OptionSpec) (value : String) (given : Given) : Option Given :=
  if (given.lookup spec.name).isSome || (spec.isPath && value.isEmpty) then none
  else some (given ++ [(spec.name, value)])

/-- Whether a word can be a value. -/
def isValue (word : String) : Bool :=
  match word.toList with
  | '-' :: _ :: _ => false
  | _ => true

/-- What a word says: an option with the value that is attached to it. -/
inductive Word where
  | option (spec : OptionSpec) (attached : Option String)
  /-- Several flags in one word, and maybe an option behind them. -/
  | flags (specs : List OptionSpec) (last : Option (OptionSpec × Option String))
  /-- Two dashes alone, behind which there are no options. -/
  | ending
  | unknown

/-- Reads letters behind a dash; behind the one for help no more are read. -/
def letters (specs : List OptionSpec) : (seen : List OptionSpec) → List Char → Word
  | seen, [] => .flags seen.reverse none
  | seen, c :: cs =>
    match specs.find? fun spec => spec.letter == some c with
    | none => .unknown
    | some spec =>
      if spec == Usage.help then .flags (spec :: seen).reverse none
      else if spec.placeholder.isNone then letters specs (spec :: seen) cs
      else
        match cs with
        | [] => .flags seen.reverse (some (spec, none))
        | '=' :: value => .flags seen.reverse (some (spec, some (String.ofList value)))
        | value => .flags seen.reverse (some (spec, some (String.ofList value)))

/-- Reads a word that is no value. -/
def readWord (specs : List OptionSpec) (word : String) : Word :=
  match word.toList with
  | ['-', '-'] => .ending
  | '-' :: '-' :: cs =>
    let name := String.ofList (cs.takeWhile (· != '='))
    let attached := match cs.dropWhile (· != '=') with
      | _ :: value => some (String.ofList value)
      | [] => none
    match specs.find? fun spec => spec.name == name with
    | some spec => .option spec attached
    | none => .unknown
  | '-' :: c :: cs => letters specs [] (c :: cs)
  | _ => .unknown

/-- Takes note of flags. -/
def noteFlags? (flags : List OptionSpec) (given : Given) : Option Given :=
  flags.foldlM (fun given spec => note? spec "" given) given

/-- Reads options. -/
def readOptions? (specs : List OptionSpec) : Given → List String → Option Given
  | given, [] => some given
  | given, word :: words =>
    if (given.lookup "help").isSome then some given
    else
      match readWord specs word with
      | .unknown => none
      | .ending => if words.isEmpty then some given else none
      | .option spec attached =>
        match spec.placeholder.isSome, attached, words with
        | false, none, words => (note? spec "" given).bind (readOptions? specs · words)
        | false, some _, _ => none
        | true, some value, words => (note? spec value given).bind (readOptions? specs · words)
        | true, none, value :: words =>
          if isValue value then (note? spec value given).bind (readOptions? specs · words) else none
        | true, none, [] => none
      | .flags flags last =>
        match noteFlags? flags given, last, words with
        | none, _, _ => none
        | some given, none, words => readOptions? specs given words
        | some given, some (spec, some value), words =>
          (note? spec value given).bind (readOptions? specs · words)
        | some given, some (spec, none), value :: words =>
          if isValue value then (note? spec value given).bind (readOptions? specs · words) else none
        | some _, some (_, none), [] => none

/-- The command with its options. -/
def ofOptions? (command : String) (given : Given) (environment : Option String) :
    Option Command :=
  let schema? := match given.lookup "schema" with
    | some path => some path
    | none => environment.filter fun path => !path.isEmpty
  if command = "generate" then
    schema?.map fun schema =>
      .generate schema (given.lookup "output") (given.lookup "member") (given.lookup "data-crate")
  else if command = "check" then
    schema?.map fun schema => .check schema (given.lookup "quiet").isSome
  else if command = "shape" then
    schema?.map fun schema => .shape schema (given.lookup "type")
  else if command = "categories" then some .categories
  else none

/-- Reads what stands behind the name of a command. -/
def ofSpec? (spec : CommandSpec) (words : List String) (environment : Option String) :
    Option Request :=
  (readOptions? spec.options [] words).bind fun given =>
    if (given.lookup "help").isSome then some (.help (Usage.ofCommand environment spec))
    else (ofOptions? spec.name given environment).map .run

end Command

/-- Reads a command line. `environment` is the path of the schema from the environment. -/
def Request.ofWords? (words : List String) (environment : Option String) : Option Request :=
  let spec? := fun (name : String) => Usage.commands.find? (·.name == name)
  match words with
  | [] => none
  | ["help"] => some (.help Usage.ofProgram)
  | ["help", name] => (spec? name).map fun spec => .help (Usage.ofCommand environment spec)
  | word :: words =>
    if word == "--help" || word.startsWith "-h" then some (.help Usage.ofProgram)
    else (spec? word).bind fun spec => Command.ofSpec? spec words environment

end Specimen
