import Reminders.Entry.Order
import Reminders.Evaluation
import Reminders.Files.Group
import Reminders.Layout
import Reminders.Reminder.Reader

namespace Reminders

/-!
# Reports

A report has one section for each group, in the order of the groups, also where two groups share a
name.  A section lists what is pending or overdue in its group.  Lines that are no reminders are
reported beside the sections and stop nothing; a reminder that has no verdict stops the report.
-/

/-- A line of a group that no grammar matches. -/
structure UnreadLine where
  group : String
  line : String
deriving DecidableEq, Repr

/-- What is said of a line that no grammar matches. -/
def UnreadLine.message (unread : UnreadLine) : String :=
  "unrecognized line in " ++ unread.group ++ ": " ++ quoted unread.line

/-- Why there is no report: a reminder of the group has no verdict.  The cause stands under the name
of its group once.  No value of the type is a cause without a group, or a group around another. -/
structure ReportError where
  group : String
  cause : EvaluationError
deriving DecidableEq, Repr

/-- What is said of a group that stops a report, apart from the cause. -/
def ReportError.message (problem : ReportError) : String := "in " ++ problem.group

/-- How a report is made. -/
structure ReportOptions where
  lookahead : Lookahead
  /-- At most so many entries of each group are laid out. -/
  limit : Option Nat
  width : Nat
deriving DecidableEq

/-- What is pending or overdue in one group. -/
structure Section where
  name : String
  lines : List String
  /-- All entries in the order in which they are listed, also those beyond the limit. -/
  entries : List Entry
deriving DecidableEq

structure Report where
  sections : List Section
  unread : List UnreadLine
deriving DecidableEq

/-! ## Making a report -/

/-- What becomes of one line. -/
inductive LineOutcome where
  | unread (line : String)
  /-- A reminder that is not listed. -/
  | dropped
  | listed (entry : Entry)
deriving DecidableEq

namespace LineOutcome

def entry : LineOutcome -> Option Entry
  | listed entry => some entry
  | _ => none

def unreadLine : LineOutcome -> Option String
  | unread line => some line
  | _ => none

end LineOutcome

/-- Read and judge one line. -/
def judgeLine (reference : Reference) (lookahead : Lookahead) (line : String) :
    Except EvaluationError LineOutcome :=
  match Reminder.read line with
  | none => .ok (.unread line)
  | some reminder =>
      match reminder.evaluate reference lookahead with
      | .error problem => .error problem
      | .ok verdict =>
          .ok (if verdict.keep then .listed (.ofVerdict reminder verdict) else .dropped)

/-- Read and judge lines one after the other, up to the first that has no verdict. -/
def judgeLines (reference : Reference) (lookahead : Lookahead) :
    List String -> Except EvaluationError (List LineOutcome)
  | [] => .ok []
  | line :: rest =>
      match judgeLine reference lookahead line with
      | .error problem => .error problem
      | .ok outcome =>
          match judgeLines reference lookahead rest with
          | .error problem => .error problem
          | .ok outcomes => .ok (outcome :: outcomes)

/-- The section of a group, from what became of its lines. -/
def sectionOf (options : ReportOptions) (name : String) (outcomes : List LineOutcome) : Section :=
  let entries := Entry.sort (outcomes.filterMap LineOutcome.entry)
  ⟨name, listingLines options.width options.limit entries, entries⟩

/-- Make a report of groups as of a reference. -/
def makeReport (reference : Reference) (options : ReportOptions) :
    List Group -> Except ReportError Report
  | [] => .ok ⟨[], []⟩
  | group :: rest =>
      match judgeLines reference options.lookahead group.lines with
      | .error problem => .error ⟨group.name, problem⟩
      | .ok outcomes =>
          match makeReport reference options rest with
          | .error problem => .error problem
          | .ok report =>
              let unread :=
                (outcomes.filterMap LineOutcome.unreadLine).map (UnreadLine.mk group.name)
              .ok ⟨sectionOf options group.name outcomes :: report.sections,
                unread ++ report.unread⟩

/-! ## The text of a report -/

/-- A line with its end. -/
def endLine (line : String) : String := line ++ "\n"

/-- The text of a section: its name between double equals signs, and its lines. -/
def Section.text (part : Section) : String :=
  endLine ("== " ++ part.name ++ " ==") ++ String.join (part.lines.map endLine)

/-- The text of a report.  Sections without lines are left out; the others are set apart by blank
lines. -/
def Report.text (report : Report) : String :=
  let shown := report.sections.filter fun part => !part.lines.isEmpty
  "\n".intercalate (shown.map Section.text)

end Reminders
