import Reminders.CommandLine.Options
import Reminders.Files.Walk
import Reminders.Report.Json

namespace Reminders

/-!
# Outcomes of the command line

A command line either prints a report or fails.  A failure has a headline and causes, the nearest
first.  It is told on one line, or with the causes on indented lines below the headline.
-/

namespace CommandLine

/-! ## Failures -/

/-- Why there is no report. -/
inductive Failure where
  | noHome
  | load (failure : LoadError)
  /-- A reminder has no verdict. -/
  | report (failure : ReportError)
deriving DecidableEq, Repr

namespace Failure

def headline : Failure -> String
  | noHome => "cannot determine home directory for the default data file"
  | load failure => "loading " ++ quoted failure.path.text
  | report failure => failure.message

/-- The causes below the headline, from the nearest to the last. -/
def causes : Failure -> List String
  | noHome => []
  | load failure => [failure.message, failure.cause.message]
  | report failure => [failure.cause.message]

/-- The failure on one line, as far as its parts are. -/
def brief (failure : Failure) : String := ": ".intercalate (failure.headline :: failure.causes)

/-- A cause after its label.  Its further lines are indented as far as its first. -/
def indentedCause (label cause : String) : String :=
  let indentation := String.ofList (List.replicate label.length ' ')
  label ++ ("\n" ++ indentation).intercalate
    ((splitAtChar '\n' cause.toList).map String.ofList)

/-- Several causes with their numbers, which start at the given one. -/
def numberedCauses : (number : Nat) -> List String -> List String
  | _, [] => []
  | number, cause :: rest =>
      let digits := numeral number
      let label := String.ofList (List.replicate (5 - digits.length) ' ') ++ digits ++ ": "
      indentedCause label cause :: numberedCauses (number + 1) rest

/-- The failure with its causes on lines of their own.  A single cause has no number. -/
def detailed (failure : Failure) : String :=
  let told := match failure.causes with
    | [cause] => [indentedCause "    " cause]
    | causes => numberedCauses 0 causes
  if told.isEmpty then failure.headline
  else failure.headline ++ "\n\nCaused by:\n" ++ "\n".intercalate told

end Failure

/-! ## Outcomes -/

/-- How a command line ends. -/
inductive Outcome where
  /-- It prints a text.  Lines that are no reminders are told beside it. -/
  | printed (text : String) (unread : List UnreadLine)
  | failed (message : String)
  /-- The command line is not understood. -/
  | misused
  /-- The calendar ends too early to judge a reminder. -/
  | pastCalendar
deriving DecidableEq

/-- The number that tells the caller how a command line ended. -/
def Outcome.exitCode : Outcome -> UInt32
  | printed _ _ => 0
  | failed _ => 1
  | misused => 2
  | pastCalendar => 101

/-- How a command line ends that stops early. -/
def Stop.outcome : Stop -> Outcome
  | help => .printed helpText []
  | version => .printed versionText []
  | misuse => .misused

namespace Options

/-- The first file to load: the one that is asked for, or else the one that is kept in the home
directory for this purpose. -/
def root (options : Options) (home : Option Path) : Except Failure Path :=
  match options.file, home with
  | some file, _ => .ok (.ofText file)
  | .none, some home => .ok ((home.join (.ofText ".remindo")).join (.ofText "remindo.txt"))
  | .none, .none => .error .noHome

/-- The reference as of which reminders are judged. -/
def reference (options : Options) (now : Instant) : Reference :=
  let instant := options.instant.getD now
  .ofTime instant.date instant.hour instant.minute

/-- How a failure is told. -/
def fail (options : Options) (failure : Failure) : Outcome :=
  .failed ("error: " ++ if options.verbose then failure.detailed else failure.brief)

/-- Print a report in the form that is asked for. -/
def print (options : Options) (report : Report) : Outcome :=
  .printed (if options.json then report.toJson.text ++ "\n" else report.text) report.unread

/-- Report on loaded groups. -/
def reportOn (options : Options) (now : Instant) (groups : List Group) : Outcome :=
  match makeReport (options.reference now) options.reportOptions groups with
  | .ok report => options.print report
  | .error ⟨_, .pastCalendar⟩ => .pastCalendar
  | .error failure => options.fail (.report failure)

end Options

/-- Carry out a command line at the given moment, with the files of a tree. -/
def run (now : Instant) (tree : FileTree) (words : List String) : Outcome :=
  match Options.read words with
  | .error stop => stop.outcome
  | .ok options =>
      match options.root tree.home with
      | .error failure => options.fail failure
      | .ok root =>
          match loadGroups tree root with
          | .error failure => options.fail (.load failure)
          | .ok groups => options.reportOn now groups

end CommandLine

end Reminders
