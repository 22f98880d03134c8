import Reminders.Proofs.Files.Inclusion

namespace Reminders

/-!
# Trees in which one text is changed

Writing another text into a file leaves the tree around it as it was.  Every path still leads where
it led, and reads what it read unless it leads to that file.
-/

namespace FileTree

/-- The tree with another text in the file at a location. -/
def withText (tree : FileTree) (location : Location) (content : String) : FileTree :=
  { tree with
    nodes := tree.nodes.map fun entry =>
      if entry.1 = location then (location, .text content) else entry }

variable {tree : FileTree} {location : Location} {old : String}

theorem lookup_withText (content : String) (other : Location) :
    (tree.withText location content).nodes.lookup other =
      if other = location then (tree.nodes.lookup location).map fun _ => .text content
      else tree.nodes.lookup other := by
  unfold withText
  induction tree.nodes with
  | nil => split <;> rfl
  | cons entry rest inductionHypothesis =>
      rcases entry with ⟨own, node⟩
      rw [List.map_cons, List.lookup_cons, List.lookup_cons, List.lookup_cons, inductionHypothesis]
      by_cases isOther : other = location
      · subst isOther
        by_cases isOwn : other = own
        · simp [isOwn]
        · have differs : (other == own) = false := beq_false_of_ne isOwn
          simp [Ne.symm isOwn, differs]
      · by_cases isOwn : own = location
        · subst isOwn
          have differs : (other == own) = false := beq_false_of_ne isOther
          simp [isOther, differs]
        · simp [isOwn, isOther]

section

variable (listed : tree.nodes.lookup location = some (.text old)) (content : String)
include listed

theorem node_withText (other : Location) :
    (tree.withText location content).node other =
      if other = location then some (.text content) else tree.node other := by
  have sameLocations : ((tree.withText location content).nodes.any fun entry =>
      other.isPrefixOf entry.1) = tree.nodes.any fun entry => other.isPrefixOf entry.1 := by
    unfold withText
    rw [List.any_map]
    congr 1
    funext entry
    rw [Function.comp_apply]
    split
    · next isOwn => rw [isOwn]
    · rfl
  unfold node
  rw [lookup_withText, sameLocations]
  by_cases isOwn : other = location
  · rw [if_pos isOwn, if_pos isOwn, listed]
    rfl
  · rw [if_neg isOwn, if_neg isOwn]

/-- Where pieces lead depends on where there are directories, and on no text. -/
theorem follow_withText (here : Location) (pieces : List String) :
    (tree.withText location content).follow here pieces = tree.follow here pieces := by
  have own : tree.node location = some (.text old) := by
    rw [node, listed]
  have sameNames (name : Location) : ((tree.withText location content).node name).isSome =
      (tree.node name).isSome := by
    rw [node_withText listed]
    split
    · next isOwn =>
        rw [isOwn, own]
        rfl
    · rfl
  induction pieces generalizing here with
  | nil => rfl
  | cons piece rest inductionHypothesis =>
      rw [follow, follow, node_withText listed]
      by_cases isOwn : here = location
      · rw [if_pos isOwn, isOwn, own]
      · rw [if_neg isOwn]
        simp only [inductionHypothesis, sameNames]

theorem locate_withText (path : Path) :
    (tree.withText location content).locate path = tree.locate path := by
  unfold locate
  simp only [follow_withText listed]
  rfl

/-- Only the text of the one file is read differently. -/
theorem read_withText (path : Path) :
    (tree.withText location content).read path =
      (tree.read path).map fun file => (file.1, if file.1 = location then content else file.2) := by
  unfold read
  rw [locate_withText listed]
  cases tree.locate path with
  | error problem => rfl
  | ok there =>
      dsimp only
      rw [lookup_withText]
      by_cases isOwn : there = location
      · subst isOwn
        rw [if_pos rfl, listed]
        simp only [Option.map_some, Except.map, if_true]
      · rw [if_neg isOwn]
        split
        · simp only [Except.map, if_neg isOwn]
        · rfl
        · rfl

theorem lines_withText (other : Location) :
    (tree.withText location content).lines other =
      if other = location then logicalLines content else tree.lines other := by
  unfold lines
  rw [lookup_withText]
  by_cases isOwn : other = location
  · rw [if_pos isOwn, if_pos isOwn, listed]
    rfl
  · rw [if_neg isOwn, if_neg isOwn]

end

end FileTree

end Reminders
