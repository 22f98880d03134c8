import Reminders.Calendar.Instant
import Reminders.Report

namespace Reminders

/-!
# Options of the command line

Options are given by name after two hyphens, or by letter after one.  Some take a value and are
called settings, the others are switches.  The letters of several switches may share a hyphen, and a
setting may follow them as the last.  The value of a setting is the rest of its word, after an
equals sign if there is one, or else the next word.  Between a name and a value in the same word
there has to be an equals sign.

Words are read from left to right, and the first that stops the reading decides: a request for help,
a request for the version, or a fault.  Every setting and every switch may be given once.
-/

namespace CommandLine

/-- An option that takes a value. -/
inductive Setting where
  | file
  | days
  | limit
  | width
  | instant
deriving DecidableEq, Repr

/-- An option that takes no value. -/
inductive Switch where
  | json
  | verbose
  | help
  | version
deriving DecidableEq, Repr

/-- An option of either kind. -/
inductive Choice where
  | setting (setting : Setting)
  | switch (switch : Switch)
deriving DecidableEq, Repr

namespace Choice

/-- The option with the given name. -/
def ofName (name : String) : Option Choice :=
  match name with
  | "file" => some (.setting .file)
  | "days" => some (.setting .days)
  | "limit" => some (.setting .limit)
  | "width" => some (.setting .width)
  | "at" => some (.setting .instant)
  | "json" => some (.switch .json)
  | "verbose" => some (.switch .verbose)
  | "help" => some (.switch .help)
  | "version" => some (.switch .version)
  | _ => none

/-- The option with the given letter.  Not every option has one. -/
def ofLetter (letter : Char) : Option Choice :=
  match letter with
  | 'f' => some (.setting .file)
  | 'd' => some (.setting .days)
  | 'l' => some (.setting .limit)
  | 'w' => some (.setting .width)
  | 'v' => some (.switch .verbose)
  | 'h' => some (.switch .help)
  | 'V' => some (.switch .version)
  | _ => none

end Choice

/-! ## From words to arguments -/

/-- One option as it was given. -/
inductive Argument where
  | setting (setting : Setting) (value : String)
  | switch (switch : Switch)
  /-- Something that is no option, or a setting without a value. -/
  | fault
deriving DecidableEq, Repr

/-- What one word gives: arguments, and perhaps a setting whose value is to come. -/
structure WordReading where
  arguments : List Argument
  waiting : Option Setting
deriving DecidableEq, Repr

/-- Read the name of an option, perhaps with an equals sign and a value. -/
def readNamed (text : List Char) : WordReading :=
  let name := text.takeWhile (· != '=')
  match Choice.ofName (String.ofList name), text.drop name.length with
  | some (.setting setting), [] => ⟨[], some setting⟩
  | some (.setting setting), _ :: value => ⟨[.setting setting (String.ofList value)], none⟩
  | some (.switch switch), [] => ⟨[.switch switch], none⟩
  | _, _ => ⟨[.fault], none⟩

/-- Read the letters of options.  What follows the letter of a setting is its value. -/
def readLettered : List Char -> WordReading
  | [] => ⟨[], none⟩
  | letter :: rest =>
      match Choice.ofLetter letter, rest with
      | some (.setting setting), [] => ⟨[], some setting⟩
      | some (.setting setting), '=' :: value => ⟨[.setting setting (String.ofList value)], none⟩
      | some (.setting setting), value => ⟨[.setting setting (String.ofList value)], none⟩
      | some (.switch switch), rest =>
          let later := readLettered rest
          ⟨.switch switch :: later.arguments, later.waiting⟩
      | none, _ => ⟨[.fault], none⟩

/-- Read a word that is not the value of an earlier one. -/
def readWord (word : String) : WordReading :=
  match word.toList with
  | '-' :: '-' :: named => readNamed named
  | '-' :: letter :: further => readLettered (letter :: further)
  | _ => ⟨[.fault], none⟩

/-- Whether a word can be the value of the setting before it.  What looks like an option cannot; a
hyphen alone can. -/
def isValue (word : String) : Bool := word == "-" || word.toList.head? != some '-'

/-- The arguments that words give.  Two hyphens alone end the options, and no word may follow
them. -/
def readArguments : List String -> List Argument
  | [] => []
  | word :: rest =>
      if word = "--" then if rest.isEmpty then [] else [.fault]
      else
        let reading := readWord word
        match reading.waiting, rest with
        | none, rest => reading.arguments ++ readArguments rest
        | some _, [] => reading.arguments ++ [.fault]
        | some setting, value :: later =>
            if isValue value then
              reading.arguments ++ .setting setting value :: readArguments later
            else reading.arguments ++ [.fault]

/-! ## From arguments to options -/

/-- Why the reading of a command line stops early. -/
inductive Stop where
  | help
  | version
  | misuse
deriving DecidableEq, Repr

/-- What the command line asks for. -/
structure Options where
  file : Option String
  lookahead : Option Lookahead
  limit : Option Nat
  width : Option Nat
  /-- The instant as of which reminders are judged, if it is not to be the present. -/
  instant : Option Instant
  json : Bool
  verbose : Bool
deriving DecidableEq

/-- Read a run of digits.  The number has to fit into 64 bits. -/
def readMagnitude (digits : List Char) : Option Nat :=
  if digits ≠ [] ∧ digits.all Char.isDigit ∧ numeralValue digits < 0x10000000000000000 then
    some (numeralValue digits)
  else none

/-- Read a number, perhaps after a plus sign. -/
def readCount (value : String) : Option Nat :=
  match value.toList with
  | '+' :: digits => readMagnitude digits
  | digits => readMagnitude digits

/-- Read a number of days to look ahead.  It may be zero with a minus sign. -/
def readLookahead (value : String) : Option Lookahead :=
  match value.toList with
  | '-' :: digits => if readMagnitude digits = some 0 then Lookahead.ofDays 0 else none
  | _ => (readCount value).bind Lookahead.ofDays

/-- Fill a place that has to be empty with a value that has to exist. -/
def fill {α : Type} (place value : Option α) : Except Stop (Option α) :=
  match place, value with
  | none, some value => .ok (some value)
  | _, _ => .error .misuse

/-- Turn on a switch that has to be off. -/
def turnOn (switch : Bool) : Except Stop Bool := if switch then .error .misuse else .ok true

namespace Options

/-- The options of an empty command line. -/
def none : Options := ⟨.none, .none, .none, .none, .none, false, false⟩

/-- Give a value to a setting. -/
def set (options : Options) (setting : Setting) (value : String) : Except Stop Options :=
  match setting with
  | .file => do
      let file ← fill options.file (if value.isEmpty then .none else some value)
      .ok { options with file }
  | .days => do
      let lookahead ← fill options.lookahead (readLookahead value)
      .ok { options with lookahead }
  | .limit => do
      let limit ← fill options.limit (readCount value)
      .ok { options with limit }
  | .width => do
      let width ← fill options.width (readCount value)
      .ok { options with width }
  | .instant => do
      let instant ← fill options.instant (Instant.read value).toOption
      .ok { options with instant }

/-- Take in the next argument. -/
def add (options : Options) : Argument -> Except Stop Options
  | .setting setting value => options.set setting value
  | .switch .json => do
      let json ← turnOn options.json
      .ok { options with json }
  | .switch .verbose => do
      let verbose ← turnOn options.verbose
      .ok { options with verbose }
  | .switch .help => .error .help
  | .switch .version => .error .version
  | .fault => .error .misuse

/-- The options that the words of a command line give. -/
def read (words : List String) : Except Stop Options := (readArguments words).foldlM add none

/-- How the report is to be made. -/
def reportOptions (options : Options) : ReportOptions :=
  ⟨options.lookahead.getD .standard, options.limit, options.width.getD standardWidth⟩

end Options

/-! ## Fixed texts -/

/-- What the version switch prints. -/
def versionText : String := "remindo 0.1.0\n"

/-- What the help switch prints. -/
def helpText : String :=
  String.join ([
    "List pending and overdue reminders",
    "",
    "Usage: remindo [OPTIONS]",
    "",
    "Options:",
    "  -f, --file <FILE>    Root reminder file. Defaults to ~/.remindo/remindo.txt",
    "  -d, --days <DAYS>    Days to look ahead (0-6) [default: 3]",
    "  -l, --limit <LIMIT>  Print at most this many entries per file",
    "  -w, --width <WIDTH>  Output width used for wrapping reminder text [default: 80]",
    "      --at <AT>        Evaluate as of this instant (YYYY-MM-DD or YYYY-MM-DDTHH:MM) " ++
      "instead of now",
    "      --json           Emit JSON instead of the text report",
    "  -v, --verbose        Enable verbose logging for debugging",
    "  -h, --help           Print help",
    "  -V, --version        Print version"].map endLine)

end CommandLine

end Reminders
