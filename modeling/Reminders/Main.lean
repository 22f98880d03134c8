import Std.Time.Zoned
import Reminders.CommandLine.Outcome

namespace Reminders

/-!
# The program

Carries out its command line with the files and the clock of the system.  Only reading and printing
happen here; what is read and printed is decided by the functions on values.
-/

namespace Program

/-- The number of a refusal.  Some calls give it with a minus sign. -/
def errorNumber (code : UInt32) : UInt32 := min code (0 - code)

/-- Why the system refuses to read a file. -/
def readError (refusal : IO.Error) : ReadError :=
  match refusal with
  | .noFileOrDirectory _ _ _ => .notFound
  | .inappropriateType _ code _ =>
      if errorNumber code = 20 then .notDirectory
      else if errorNumber code = 21 then .isDirectory
      else .other (toString refusal)
  | other => .other (toString other)

/-- The location and the text of the file that a path leads to. -/
def readFile (path : Path) : IO (Except ReadError (Location × String)) := do
  try
    let bytes ← IO.FS.readBinFile path.text
    let location ← IO.FS.realPath path.text
    match String.fromUTF8? bytes with
    | some content =>
        let names := (Path.ofText location.toString).pieces.filter fun piece => !Path.isIdle piece
        return .ok (names, content)
    | none => return .error .notText
  catch refusal => return .error (readError refusal)

/-- Go on with a walk until no path is pending. -/
partial def finishWalk (home : Option Path) (walk : Walk) : IO (List Group) := do
  match walk.pending with
  | [] => return walk.groups
  | path :: pending =>
      let rest : Walk := ⟨walk.base, walk.visited, walk.groups, pending⟩
      match ← readFile path with
      | .error _ => finishWalk home rest
      | .ok (location, content) => finishWalk home (rest.visit home path location content)

/-- The groups of a file and of all files that it pulls in. -/
def load (home : Option Path) (root : Path) : IO (Except LoadError (List Group)) := do
  match ← readFile root with
  | .error problem => return .error ⟨root, problem⟩
  | .ok (location, content) =>
      let start : Walk := ⟨root.directory, [], [], []⟩
      return .ok (← finishWalk home (start.visit home root location content))

/-- The present moment, by the clock on the wall. -/
def now : IO Instant := do
  let moment ← Std.Time.PlainDateTime.now
  match Date.ofFields moment.date.year.toInt moment.date.month.val.toNat
      moment.date.day.val.toNat with
  | some date => return ⟨date, moment.time.hour.val.toNat, moment.time.minute.val.toNat⟩
  | none => throw (IO.userError "the clock shows a date that the calendar does not have")

/-- The home directory, if there is one. -/
def home : IO (Option Path) := do
  match ← IO.getEnv "HOME" with
  | some text => return if text.isEmpty then none else some (.ofText text)
  | none => return none

/-- Carry out a command line. -/
def outcome (words : List String) : IO CommandLine.Outcome := do
  match CommandLine.Options.read words with
  | .error stop => return stop.outcome
  | .ok options =>
      let home ← home
      match options.root home with
      | .error failure => return options.fail failure
      | .ok root =>
          match ← load home root with
          | .error failure => return options.fail (.load failure)
          | .ok groups => return options.reportOn (← now) groups

end Program

end Reminders

/-- Carry out the command line, and tell by the exit code how it ended. -/
def main (words : List String) : IO UInt32 := do
  let outcome ← Reminders.Program.outcome words
  match outcome with
  | .printed text unread =>
      for line in unread do
        IO.eprintln ("warning: " ++ line.message)
      IO.print text
  | .failed message => IO.eprintln message
  | .misused => IO.eprintln "error: the command line is not understood; try '--help'"
  | .pastCalendar => IO.eprintln "error: the calendar ends before the day looked for"
  return outcome.exitCode
