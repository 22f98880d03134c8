namespace Reminders

/-!
# Groups

A group holds the lines of one file under the name of the file.  Groups are kept in the order in
which their names first came up.
-/

/-- Lines under a name. -/
structure Group where
  name : String
  lines : List String
deriving DecidableEq, Repr

/-- Add a group to a list of groups.  If its name is there already its lines go to the end of that
group, which keeps its place; otherwise it becomes the last group. -/
def Group.mergeInto (group : Group) : List Group -> List Group
  | [] => [group]
  | first :: rest =>
      if first.name = group.name then ⟨first.name, first.lines ++ group.lines⟩ :: rest
      else first :: group.mergeInto rest

end Reminders
