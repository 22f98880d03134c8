import Reminders.Main
import Reminders.Proofs.Calendar.DayNumber
import Reminders.Proofs.Reminder.Bounds
import Reminders.Proofs.Evaluation.Refusal
import Reminders.Proofs.Report.Composition
import Reminders.Proofs.Report.Acceptance
import Reminders.Proofs.Entry.Listing
import Reminders.Proofs.Report.Completeness
import Reminders.Proofs.Files.Spelling
import Reminders.Proofs.Files.Following
import Reminders.Proofs.Files.Inclusion
import Reminders.Proofs.Files.Preorder
import Reminders.Proofs.Files.Naming
import Reminders.Proofs.Files.Steps
import Reminders.Proofs.Files.Reachability
import Reminders.Proofs.Files.Separation
import Reminders.Reminder.Writer
import Reminders.Proofs.Reminder.Spelling
import Reminders.Proofs.Reminder.Language
import Reminders.Proofs.Reminder.RoundTrip
import Reminders.Proofs.Evaluation.Verdict
import Reminders.Proofs.Report.Growth
import Reminders.Proofs.Report.Shape
import Reminders.Proofs.Evaluation.Timeline
import Reminders.Proofs.Text.Wrapping
import Reminders.Proofs.Entry.Lines
import Reminders.Proofs.Report.Limit
import Reminders.Proofs.Report.Text
import Reminders.Proofs.Report.Rearrangement
import Reminders.Proofs.Report.Repetition
import Reminders.Proofs.Evaluation.Completion
import Reminders.Proofs.Files.LineByLine
import Reminders.Proofs.Files.Rewriting
import Reminders.Proofs.Files.Unreadable
import Reminders.Proofs.Calendar.Weekday
import Reminders.Proofs.Evaluation.Mask
import Reminders.Proofs.Evaluation.Weekly
import Reminders.Proofs.Calendar.Month
import Reminders.Proofs.Evaluation.Occurrence
import Reminders.Proofs.Calendar.WeekNumber
import Reminders.Proofs.Evaluation.WholeWeeks
import Reminders.Proofs.Text.BestFit
import Reminders.Proofs.Text.Escapes
import Reminders.Proofs.Text.LineWidth
import Reminders.Proofs.Entry.Head
import Reminders.Proofs.Entry.Overhang
import Reminders.Proofs.Entry.KeptText
import Reminders.Proofs.Entry.Fields
import Reminders.Proofs.Files.BlankLine
import Reminders.Proofs.Files.Folding
import Reminders.Proofs.Files.Merging
import Reminders.Proofs.Files.ProperLines
import Reminders.Proofs.Calendar.WrittenInstant
import Reminders.Proofs.Evaluation.CalendarEnd
