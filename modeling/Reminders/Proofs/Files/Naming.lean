import Reminders.Proofs.Files.Following

namespace Reminders

/-!
# The names of groups

A group is named by what is left of a path when the directory of the first file is stripped off, or
by the whole path where that directory does not stand at its beginning.  A name of the first kind is
never absolute.  Every path that a walk comes upon either lies within the directory of the first
file, by its spelling, or is absolute, so the two kinds of names cannot be confused, and paths
with one name lead to one file.
-/

namespace Path

theorem isAbsolute_join {directory path : Path} (absolute : directory.isAbsolute = true)
    (nonempty : path.pieces ≠ []) : (directory.join path).isAbsolute = true := by
  rcases isAbsolute_eq_true_iff.mp absolute with ⟨second, rest, pieces⟩
  unfold join
  split
  · assumption
  · split
    · next none =>
        rw [none] at absolute
        cases absolute
    · split
      · rw [isAbsolute_eq_decide (by rw [pieces]; rfl) (by simp [nonempty])]
        rfl
      · rw [isAbsolute_eq_decide (by rw [pieces]; rfl) (by simp)]
        rfl

theorem isAbsolute_directory {path : Path} (absolute : path.isAbsolute = true) :
    path.directory.isAbsolute = true := by
  rcases isAbsolute_eq_true_iff.mp absolute with ⟨second, rest, pieces⟩
  have nonempty : path.pieces ≠ [] := by simp [pieces]
  rcases pieces_cases nonempty with ⟨last, single⟩ | ⟨first, middle, last, several⟩
  · rw [single] at pieces
    cases pieces
  · have leading : first = "" := by
      rw [several] at pieces
      exact (List.cons.inj pieces).1
    rcases exists_directory_eq several with ⟨kept, idle, -, -, shape⟩
    rcases shape with ⟨-, -, shape⟩ | ⟨proper, -, shape⟩
    · rw [shape]
      rfl
    · rw [shape]
      cases kept with
      | nil => exact absurd (by rw [leading]; rfl) proper
      | cons piece others => rw [leading]; rfl

/-- A path of a walk: it lies within the base by its spelling, or it is absolute. -/
structure Placed (base path : Path) : Prop where
  spelled : path.Spelled
  position : base.steps <+: path.directory.steps ∨ path.isAbsolute = true

theorem placed_directory {root : Path} (spelled : root.Spelled) : Placed root.directory root where
  spelled := spelled
  position := Or.inl (List.prefix_refl _)

/-- Whatever a file pulls in is placed as well. -/
theorem Placed.resolveInclude {base includer : Path} {home : Option Path}
    (placed : Placed base includer)
    (homeAbsolute : forall directory, home = some directory ->
      directory.Spelled ∧ directory.isAbsolute = true) (target : String) :
    Placed base (resolveInclude home includer target) := by
  unfold Reminders.resolveInclude
  split
  · next directory rest _ =>
      rcases homeAbsolute directory rfl with ⟨spelledHome, absolute⟩
      have spelled := spelled_ofText (String.ofList rest)
      exact ⟨spelledHome.join spelled, Or.inr (isAbsolute_join absolute spelled.nonempty)⟩
  · have spelled := spelled_ofText target
    refine ⟨placed.spelled.directory.join spelled, ?_⟩
    cases absolute : (ofText target).isAbsolute with
    | true => exact Or.inr (by simp only [join, absolute, if_true])
    | false =>
        rcases placed.position with within | absoluteIncluder
        · refine Or.inl (within.trans ?_)
          exact isPrefix_steps_directory_join placed.spelled.nonempty spelled.nonempty absolute
        · exact Or.inr (isAbsolute_join (isAbsolute_directory absoluteIncluder) spelled.nonempty)

/-- Placed paths that keep the same text are spelled alike or take the same steps. -/
theorem Placed.eq_or_steps_eq {base left right : Path} (placedLeft : Placed base left)
    (placedRight : Placed base right)
    (same : ((base.within left).getD left).text = ((base.within right).getD right).text) :
    left = right ∨ left.steps = right.steps := by
  by_cases top : base.steps = []
  · rw [within_of_steps_eq_nil top, within_of_steps_eq_nil top] at same
    exact Or.inl (eq_of_text_eq placedLeft.spelled placedRight.spelled same)
  · -- What is left after stripping is relative, so it is no path that was not stripped.
    have different {stripped rest whole : Path} (spelledStripped : stripped.Spelled)
        (placedWhole : Placed base whole) (found : base.within stripped = some rest)
        (missing : base.within whole = none) : rest.text ≠ whole.text := by
      intro sameText
      rcases within_eq_some top spelledStripped found with ⟨-, isRelative, spelled⟩
      rcases placedWhole.position with within | absolute
      · have present := isSome_within (within.trans (isPrefix_steps_directory whole))
        rw [missing] at present
        cases present
      · rw [eq_of_text_eq spelled placedWhole.spelled sameText, absolute] at isRelative
        cases isRelative
    cases ofLeft : base.within left with
    | none =>
        cases ofRight : base.within right with
        | none =>
            rw [ofLeft, ofRight] at same
            exact Or.inl (eq_of_text_eq placedLeft.spelled placedRight.spelled same)
        | some rest =>
            rw [ofLeft, ofRight] at same
            exact absurd same.symm (different placedRight.spelled placedLeft ofRight ofLeft)
    | some rest =>
        cases ofRight : base.within right with
        | none =>
            rw [ofLeft, ofRight] at same
            exact absurd same (different placedLeft.spelled placedRight ofLeft ofRight)
        | some other =>
            rw [ofLeft, ofRight] at same
            rcases within_eq_some top placedLeft.spelled ofLeft with ⟨steps, -, spelled⟩
            rcases within_eq_some top placedRight.spelled ofRight with
              ⟨otherSteps, -, otherSpelled⟩
            have equal : rest = other := eq_of_text_eq spelled otherSpelled same
            exact Or.inr (by rw [steps, otherSteps, equal])

end Path

namespace FileTree

variable {tree : FileTree}

/-- The location that some steps lead to. -/
def followSteps (tree : FileTree) (steps : List String) : Except ReadError Location :=
  if steps.head? = some "/" then tree.follow [] steps.tail
  else tree.follow tree.workingDirectory (Path.moves steps)

/-- The location of a file depends on the steps of the path alone. -/
theorem followSteps_of_read {path : Path} {location : Location} {content : String}
    (spelled : path.Spelled) (found : tree.read path = .ok (location, content)) :
    tree.followSteps path.steps = .ok location := by
  rcases follow_of_read found with ⟨proper, reached⟩
  have moved := follow_moves reached
  cases pieces : path.pieces with
  | nil => exact absurd pieces spelled.nonempty
  | cons first rest =>
      have noSlash : first ≠ "/" := by
        intro same
        exact spelled.noSlash first (by simp [pieces]) (by rw [same]; decide)
      rw [pieces] at moved
      cases rest with
      | nil =>
          have isRelative : path.isAbsolute = false := by simp [Path.isAbsolute, pieces]
          have named : first ≠ "" := fun none => proper (by cases path; simp_all [Path.empty])
          have steps : path.steps = [first] := by simp [Path.steps, pieces, isRelative, named]
          rw [start, isRelative] at moved
          simpa [followSteps, steps, noSlash] using moved
      | cons second later =>
          rw [followSteps, Path.steps_eq pieces]
          rw [start, Path.isAbsolute_eq_decide pieces (by simp)] at moved
          by_cases leading : first = ""
          · simpa [Path.firstStep, leading, Path.moves, Path.isIdle] using moved
          · have again : Path.moves (first :: Path.moves (second :: later)) =
                Path.moves (first :: second :: later) := by
              rw [← List.singleton_append, Path.moves_append, Path.moves_moves,
                ← Path.moves_append]
              rfl
            simpa [Path.firstStep, leading, noSlash, again] using moved

end FileTree

namespace Walk

variable {tree : FileTree}

/-- Placed paths that give one name to their groups lead to one file. -/
theorem location_eq_of_groupName_eq {base left right : Path} {location other : Location}
    {content otherContent : String} (placedLeft : Path.Placed base left)
    (placedRight : Path.Placed base right) (foundLeft : tree.read left = .ok (location, content))
    (foundRight : tree.read right = .ok (other, otherContent))
    (same : groupName base left = groupName base right) : location = other := by
  rcases placedLeft.eq_or_steps_eq placedRight same with equal | steps
  · rw [equal, foundRight] at foundLeft
    cases foundLeft
    rfl
  · have reached := FileTree.followSteps_of_read placedLeft.spelled foundLeft
    rw [steps, FileTree.followSteps_of_read placedRight.spelled foundRight] at reached
    exact (Except.ok.inj reached).symm

/-- Relative paths from elsewhere may share a name with paths within the base. -/
example :
    groupName (.ofText "a") (resolveInclude (some (.ofText "b")) (.ofText "a/all") "~/x.txt") =
      groupName (.ofText "a") (resolveInclude none (.ofText "a/all") "b/x.txt") := by
  decide

end Walk

end Reminders
