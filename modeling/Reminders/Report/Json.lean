import Reminders.Report
import Reminders.Text.Json

namespace Reminders

/-!
# Reports as JSON

The sections of a report with all that is known of their entries.  Each value has its members in the
order given here.
-/

/-- A value that may be missing. -/
def JsonValue.orNull {α : Type} (encode : α -> JsonValue) : Option α -> JsonValue
  | some value => encode value
  | none => .null

def DateField.toJson : DateField -> JsonValue
  | wild => .string "wild"
  | exact value => .object [("exact", .number value.toNat)]

def Qualifier.toJson : Qualifier -> JsonValue
  | everyWeeks modulus => .object [("modulus", .number modulus)]
  | nthInMonth ordinal => .object [("ordinal", .number ordinal)]

/-- The days of a mask, Monday first. -/
def WeekMask.toJson (mask : WeekMask) : JsonValue :=
  .array ([mask.monday, mask.tuesday, mask.wednesday, mask.thursday, mask.friday, mask.saturday,
    mask.sunday].map .boolean)

def DatePattern.toJson : DatePattern -> JsonValue
  | specific year month day =>
      .object [("kind", .string "specific"), ("year", year.toJson), ("month", month.toJson),
        ("day", day.toJson)]
  | weekly mask qualifier =>
      .object [("kind", .string "weekly"), ("days", mask.toJson),
        ("qualifier", .orNull Qualifier.toJson qualifier)]

def TimeWindow.toJson (window : TimeWindow) : JsonValue :=
  .object [("start", .number window.start), ("end", .number window.finish)]

def Entry.toJson (entry : Entry) : JsonValue :=
  .object [("priority", .number entry.reminder.priority),
    ("date_kind", entry.reminder.pattern.toJson),
    ("window", .orNull TimeWindow.toJson entry.reminder.window),
    ("text", .string entry.reminder.text), ("raw_line", .string entry.reminder.source),
    ("overdue", .boolean entry.overdue),
    ("display_date", .orNull (fun date => .string date.isoText) entry.displayDate)]

def Section.toJson (part : Section) : JsonValue :=
  .object [("name", .string part.name), ("lines", .array (part.lines.map .string)),
    ("entries", .array (part.entries.map Entry.toJson))]

/-- All sections of a report, also those without lines. -/
def Report.toJson (report : Report) : JsonValue := .array (report.sections.map Section.toJson)

end Reminders
