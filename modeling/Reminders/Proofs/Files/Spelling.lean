import Mathlib.Data.List.DropRight
import Reminders.Files.Path

namespace Reminders

/-!
# The spelling of paths

Joining, shortening and stripping act on the pieces of a path, and what they leave is again a path
that some text spells.  A path that a text spells is determined by its text.

What a path within a directory has in common with that directory is seen in its steps: they are the
steps of the directory followed by the pieces that are not idle.
-/

theorem splitAtChar_of_not_mem {separator : Char} {part : List Char} (free : separator ∉ part) :
    splitAtChar separator part = [part] := by
  induction part with
  | nil => rfl
  | cons c rest inductionHypothesis =>
      simp only [List.mem_cons, not_or] at free
      rw [splitAtChar, if_neg (Ne.symm free.1), inductionHypothesis free.2]

/-- A text is cut at a separator into the parts of what stands before it and of what stands
behind. -/
theorem splitAtChar_append_cons (separator : Char) (front back : List Char) :
    splitAtChar separator (front ++ separator :: back) =
      splitAtChar separator front ++ splitAtChar separator back := by
  induction front with
  | nil => simp [splitAtChar]
  | cons c rest inductionHypothesis =>
      rw [List.cons_append, splitAtChar, splitAtChar, inductionHypothesis]
      split
      · rfl
      · cases parts : splitAtChar separator rest with
        | nil => exact absurd parts (splitAtChar_ne_nil separator rest)
        | cons part later => rfl

theorem splitAtChar_append {separator : Char} {part : List Char} (free : separator ∉ part)
    (text : List Char) :
    splitAtChar separator (part ++ separator :: text) = part :: splitAtChar separator text := by
  rw [splitAtChar_append_cons, splitAtChar_of_not_mem free, List.singleton_append]

/-- Parts that do not hold the separator are found again when they have been joined by it. -/
theorem splitAtChar_intercalate {separator : Char} {parts : List (List Char)}
    (nonempty : parts ≠ []) (free : forall part, part ∈ parts -> separator ∉ part) :
    splitAtChar separator ([separator].intercalate parts) = parts := by
  induction parts with
  | nil => exact absurd rfl nonempty
  | cons first rest inductionHypothesis =>
      have freeFirst := free first List.mem_cons_self
      cases rest with
      | nil => simpa [List.intercalate] using splitAtChar_of_not_mem freeFirst
      | cons second others =>
          have joined : [separator].intercalate (first :: second :: others) =
              first ++ separator :: [separator].intercalate (second :: others) := by
            simp [List.intercalate_cons_cons]
          have later := inductionHypothesis (by simp) fun part listed =>
            free part (List.mem_cons_of_mem first listed)
          rw [joined, splitAtChar_append freeFirst, later]

namespace Path

/-- Some text spells the path: there is a piece, and no piece holds a slash. -/
structure Spelled (path : Path) : Prop where
  nonempty : path.pieces ≠ []
  noSlash : forall piece, piece ∈ path.pieces -> '/' ∉ piece.toList

theorem spelled_ofText (text : String) : (ofText text).Spelled where
  nonempty := by simpa [ofText] using splitAtChar_ne_nil '/' text.toList
  noSlash := by
    intro piece listed
    rcases List.mem_map.mp listed with ⟨part, split, rfl⟩
    simpa using not_mem_of_mem_splitAtChar split

theorem spelled_empty : empty.Spelled where
  nonempty := by simp [empty]
  noSlash := by simp [empty]

theorem ofText_text {path : Path} (spelled : path.Spelled) : ofText path.text = path := by
  have free : forall part, part ∈ path.pieces.map String.toList -> '/' ∉ part := by
    intro part listed
    rcases List.mem_map.mp listed with ⟨piece, member, rfl⟩
    exact spelled.noSlash piece member
  have parts : splitAtChar '/' path.text.toList = path.pieces.map String.toList := by
    rw [text, String.toList_intercalate]
    exact splitAtChar_intercalate (by simpa using spelled.nonempty) free
  simp [ofText, parts]

theorem text_ofText (text : String) : (ofText text).text = text := by
  apply String.toList_injective
  rw [Path.text, String.toList_intercalate, ofText, List.map_map]
  simpa using intercalate_splitAtChar '/' text.toList

/-- Paths with one text are one path. -/
theorem eq_of_text_eq {left right : Path} (spelledLeft : left.Spelled)
    (spelledRight : right.Spelled) (same : left.text = right.text) : left = right := by
  rw [← ofText_text spelledLeft, same, ofText_text spelledRight]

theorem ofText_ne_empty {text : String} (nonempty : text ≠ "") : ofText text ≠ empty := by
  intro same
  apply nonempty
  have joined := intercalate_splitAtChar '/' text.toList
  have parts : splitAtChar '/' text.toList = [[]] := by
    cases split : splitAtChar '/' text.toList with
    | nil => exact absurd split (splitAtChar_ne_nil '/' text.toList)
    | cons part later => simp_all [ofText, empty]
  rw [parts] at joined
  exact String.toList_inj.mp (by simpa [List.intercalate] using joined.symm)

theorem isAbsolute_eq_true_iff {path : Path} :
    path.isAbsolute = true ↔ Exists fun second => Exists fun rest =>
      path.pieces = "" :: second :: rest := by
  unfold isAbsolute
  split
  · next second rest pieces => simp [pieces]
  · next other =>
      constructor
      · intro impossible
        cases impossible
      · rintro ⟨second, rest, pieces⟩
        exact absurd pieces (other second rest)

theorem isAbsolute_eq_decide {path : Path} {first : String} {rest : List String}
    (pieces : path.pieces = first :: rest) (more : rest ≠ []) :
    path.isAbsolute = decide (first = "") := by
  cases rest with
  | nil => exact absurd rfl more
  | cons second later =>
      unfold isAbsolute
      by_cases leading : first = "" <;> simp [pieces, leading]

/-! ## Joining and shortening -/

theorem Spelled.join {directory path : Path} (spelledDirectory : directory.Spelled)
    (spelled : path.Spelled) : (directory.join path).Spelled := by
  have appended {front : List String} (free : forall piece, piece ∈ front -> '/' ∉ piece.toList) :
      (⟨front ++ path.pieces⟩ : Path).Spelled := by
    refine ⟨by simp [spelled.nonempty], fun piece listed => ?_⟩
    rcases List.mem_append.mp listed with inFront | inPath
    · exact free piece inFront
    · exact spelled.noSlash piece inPath
  unfold Path.join
  split
  · exact spelled
  · split
    · exact spelled
    · split
      · exact appended fun piece listed =>
          spelledDirectory.noSlash piece (List.dropLast_subset _ listed)
      · exact appended spelledDirectory.noSlash

theorem Spelled.directory {path : Path} (spelled : path.Spelled) : path.directory.Spelled := by
  unfold Path.directory
  split
  · exact spelled_empty
  · next first rest shortened =>
      have free : forall piece, piece ∈ first :: rest -> '/' ∉ piece.toList := by
        rw [← shortened]
        exact fun piece listed => spelled.noSlash piece (List.dropLast_subset _ listed)
      dsimp only
      split
      · exact ⟨by simp, by simp⟩
      · refine ⟨by simp, fun piece listed => free piece ?_⟩
        rcases List.mem_cons.mp listed with rfl | later
        · exact List.mem_cons_self
        · exact List.mem_cons_of_mem _ ((List.rdropWhile_prefix isIdle _).subset later)

/-- A path consists of one piece or has a first and a last one. -/
theorem pieces_cases {path : Path} (nonempty : path.pieces ≠ []) :
    (Exists fun last => path.pieces = [last]) ∨
      Exists fun first => Exists fun middle => Exists fun last =>
        path.pieces = first :: (middle ++ [last]) := by
  cases pieces : path.pieces with
  | nil => exact absurd pieces nonempty
  | cons first rest =>
      rcases List.eq_nil_or_concat rest with rfl | ⟨middle, last, rfl⟩
      · exact Or.inl ⟨first, rfl⟩
      · exact Or.inr ⟨first, middle, last, by simp⟩

/-- The directory of a path with several pieces.  Its last piece is not idle, unless the path leads
to the root of the tree. -/
theorem exists_directory_eq {path : Path} {first last : String} {middle : List String}
    (pieces : path.pieces = first :: (middle ++ [last])) :
    Exists fun kept => Exists fun idle => middle = kept ++ idle ∧
      (forall piece, piece ∈ idle -> isIdle piece = true) ∧
      (first = "" ∧ kept = [] ∧ path.directory = ⟨["", ""]⟩ ∨
        (⟨first :: kept⟩ : Path) ≠ empty ∧ (first :: kept).getLast? ≠ some "" ∧
          path.directory = ⟨first :: kept⟩) := by
  have shortened : path.pieces.dropLast = first :: middle := by
    rw [pieces, ← List.cons_append, List.dropLast_concat]
  have split : middle = middle.rdropWhile isIdle ++ middle.rtakeWhile isIdle :=
    List.rdropWhile_append_rtakeWhile.symm
  refine ⟨middle.rdropWhile isIdle, middle.rtakeWhile isIdle, split,
    fun piece => List.mem_rtakeWhile_imp, ?_⟩
  unfold directory
  rw [shortened]
  change _ ∧ _ ∧ (if _ ∧ middle.rdropWhile isIdle = [] then _ else _) = _ ∨ _
  by_cases top : first = "" ∧ middle.rdropWhile isIdle = []
  · exact Or.inl ⟨top.1, top.2, if_pos top⟩
  · refine Or.inr ⟨?_, ?_, if_neg top⟩
    · intro same
      simp only [empty, mk.injEq, List.cons.injEq] at same
      exact top same
    · intro ending
      rcases List.eq_nil_or_concat (middle.rdropWhile isIdle) with none | ⟨front, final, some⟩
      · rw [none] at ending
        exact top ⟨Option.some.inj ending, none⟩
      · have moving := List.rdropWhile_last_not isIdle middle (by simp [some])
        simp only [some, List.concat_eq_append, List.getLast_append_singleton] at moving
        rw [some, List.concat_eq_append, ← List.cons_append, List.getLast?_concat] at ending
        exact moving (by rw [Option.some.inj ending]; rfl)

/-- A relative path that is joined to the directory of another takes the place of its last piece.
Only idle pieces before the last one are lost. -/
theorem exists_join_directory {path target : Path} {first last : String} {middle : List String}
    (pieces : path.pieces = first :: (middle ++ [last])) (isRelative : target.isAbsolute = false) :
    Exists fun kept => Exists fun idle => middle = kept ++ idle ∧
      (forall piece, piece ∈ idle -> isIdle piece = true) ∧
      (path.directory.join target).pieces = first :: (kept ++ target.pieces) := by
  rcases exists_directory_eq pieces with ⟨kept, idle, split, isIdle, shape⟩
  refine ⟨kept, idle, split, isIdle, ?_⟩
  unfold join
  rw [if_neg (by simp [isRelative])]
  rcases shape with ⟨rfl, rfl, shape⟩ | ⟨proper, lastMoves, shape⟩
  · rw [shape]
    rfl
  · rw [shape, if_neg proper, if_neg lastMoves]
    rfl

/-! ## Steps -/

/-- The pieces that are not idle. -/
def moves (pieces : List String) : List String := pieces.filter fun piece => !isIdle piece

theorem moves_append (front back : List String) :
    moves (front ++ back) = moves front ++ moves back :=
  List.filter_append front back

theorem moves_cons {piece : String} (moving : isIdle piece = false) (rest : List String) :
    moves (piece :: rest) = piece :: moves rest := by
  simp only [moves, List.filter_cons, moving, Bool.not_false, if_true]

theorem moves_moves (pieces : List String) : moves (moves pieces) = moves pieces := by
  simp [moves]

theorem moves_of_idle {pieces : List String}
    (idle : forall piece, piece ∈ pieces -> isIdle piece = true) : moves pieces = [] := by
  simpa [moves] using idle

theorem moves_dropWhile_isIdle (pieces : List String) :
    moves (pieces.dropWhile isIdle) = moves pieces := by
  have idle := moves_of_idle fun piece => List.mem_takeWhile_imp (p := isIdle) (l := pieces)
  conv_rhs => rw [← List.takeWhile_append_dropWhile (p := isIdle) (l := pieces), moves_append, idle]
  rfl

/-- The first step of a path whose first piece is given.  More pieces have to follow. -/
def firstStep (piece : String) : String := if piece = "" then "/" else piece

theorem steps_eq {path : Path} {first second : String} {rest : List String}
    (pieces : path.pieces = first :: second :: rest) :
    path.steps = firstStep first :: moves (second :: rest) := by
  unfold steps firstStep
  by_cases leading : first = ""
  · have absolute : path.isAbsolute = true := by simp [isAbsolute_eq_decide pieces, leading]
    simp only [pieces, absolute, leading, if_true]
    rfl
  · have isRelative : path.isAbsolute = false := by simp [isAbsolute_eq_decide pieces, leading]
    simp only [pieces, isRelative, leading, Bool.false_eq_true, if_false]
    rfl

theorem steps_eq_concat {path : Path} {first last : String} {middle : List String}
    (pieces : path.pieces = first :: (middle ++ [last])) :
    path.steps = firstStep first :: moves (middle ++ [last]) := by
  cases middle <;> exact steps_eq pieces

theorem steps_directory {path : Path} {first last : String} {middle : List String}
    (pieces : path.pieces = first :: (middle ++ [last])) :
    path.directory.steps = firstStep first :: moves middle := by
  rcases exists_directory_eq pieces with ⟨kept, idle, split, isIdle, shape⟩
  rw [split, moves_append, moves_of_idle isIdle, List.append_nil]
  rcases shape with ⟨rfl, rfl, shape⟩ | ⟨proper, -, shape⟩
  · rw [shape]
    rfl
  · rw [shape]
    cases kept with
    | nil =>
        have named : first ≠ "" := fun none => proper (by rw [none]; rfl)
        simp [steps, isAbsolute, firstStep, moves, named]
    | cons second rest => exact steps_eq rfl

theorem steps_directory_of_single {path : Path} (pieces : path.pieces.dropLast = []) :
    path.directory.steps = [] := by
  unfold directory
  rw [pieces]
  rfl

/-- The steps of a path begin with those of its directory. -/
theorem isPrefix_steps_directory (path : Path) : path.directory.steps <+: path.steps := by
  by_cases single : path.pieces.dropLast = []
  · rw [steps_directory_of_single single]
    exact List.nil_prefix
  · rcases pieces_cases (fun none => single (by rw [none]; rfl)) with
      ⟨last, pieces⟩ | ⟨first, middle, last, pieces⟩
    · exact absurd (by rw [pieces]; rfl) single
    · rw [steps_directory pieces, steps_eq_concat pieces, moves_append]
      exact ⟨moves [last], rfl⟩

/-- What is joined to the directory of a path stays within that directory. -/
theorem isPrefix_steps_directory_join {path target : Path} (nonempty : path.pieces ≠ [])
    (targetNonempty : target.pieces ≠ []) (isRelative : target.isAbsolute = false) :
    path.directory.steps <+: (path.directory.join target).directory.steps := by
  rcases pieces_cases nonempty with ⟨last, pieces⟩ | ⟨first, middle, last, pieces⟩
  · rw [steps_directory_of_single (by rw [pieces]; rfl)]
    exact List.nil_prefix
  · rcases exists_join_directory pieces isRelative with ⟨kept, idle, split, isIdle, joined⟩
    rcases List.eq_nil_or_concat target.pieces with none | ⟨front, final, some⟩
    · exact absurd none targetNonempty
    · rw [some, List.concat_eq_append, ← List.append_assoc] at joined
      rw [steps_directory pieces, steps_directory joined, split, moves_append, moves_append,
        moves_of_idle isIdle, List.append_nil]
      exact ⟨moves front, rfl⟩

/-! ## Stripping -/

theorem moves_eq_cons_of_dropWhile {pieces rest : List String} {piece : String}
    (moving : pieces.dropWhile isIdle = piece :: rest) :
    isIdle piece = false ∧ moves pieces = piece :: moves rest := by
  have nonempty : pieces.dropWhile isIdle ≠ [] := by simp [moving]
  have isMoving : isIdle piece = false := by
    simpa [moving] using List.head_dropWhile_not isIdle nonempty
  refine ⟨isMoving, ?_⟩
  rw [← moves_dropWhile_isIdle, moving, moves_cons isMoving]

theorem moves_of_takeSteps {steps pieces rest : List String}
    (taken : takeSteps steps pieces = some rest) :
    moves pieces = steps ++ moves rest ∧ rest ⊆ pieces := by
  induction steps generalizing pieces with
  | nil =>
      rw [takeSteps] at taken
      rw [Option.some.inj taken]
      exact ⟨rfl, List.Subset.refl rest⟩
  | cons step steps inductionHypothesis =>
      rw [takeSteps] at taken
      cases moving : pieces.dropWhile isIdle with
      | nil => simp [moving] at taken
      | cons piece later =>
          simp only [moving] at taken
          split at taken
          · next same =>
              have further := inductionHypothesis taken
              refine ⟨?_, fun other listed => (List.dropWhile_suffix isIdle).subset ?_⟩
              · rw [(moves_eq_cons_of_dropWhile moving).2, further.1, same]
                rfl
              · rw [moving]
                exact List.mem_cons_of_mem piece (further.2 listed)
          · cases taken

theorem isSome_takeSteps {steps pieces : List String} (begins : steps <+: moves pieces) :
    (takeSteps steps pieces).isSome = true := by
  induction steps generalizing pieces with
  | nil => rfl
  | cons step steps inductionHypothesis =>
      rw [takeSteps]
      cases moving : pieces.dropWhile isIdle with
      | nil =>
          rw [← moves_dropWhile_isIdle, moving] at begins
          exact absurd (List.prefix_nil.mp begins) (by simp)
      | cons piece rest =>
          rw [(moves_eq_cons_of_dropWhile moving).2, List.cons_prefix_cons] at begins
          simp only [begins.1, if_true]
          exact inductionHypothesis begins.2

theorem steps_tail {path : Path} {first own : String} {rest further : List String}
    (pieces : path.pieces = first :: rest) (steps : path.steps = own :: further) :
    further = moves rest := by
  cases rest with
  | nil =>
      by_cases named : first = "" <;>
        simp_all [Path.steps, isAbsolute, moves]
  | cons second later =>
      rw [steps_eq pieces] at steps
      exact (List.cons.inj steps).2.symm

/-- Stripping takes exactly the steps of the directory away.  What is left is never absolute. -/
theorem within_eq_some {directory path rest : Path} (nonempty : directory.steps ≠ [])
    (spelled : path.Spelled) (stripped : directory.within path = some rest) :
    path.steps = directory.steps ++ moves rest.pieces ∧ rest.isAbsolute = false ∧
      rest.Spelled := by
  unfold within at stripped
  split at stripped
  · next none => exact absurd none nonempty
  · next first further own others head tail above steps pieces =>
      split at stripped
      · next same =>
          rcases Option.map_eq_some_iff.mp stripped with ⟨left, taken, shape⟩
          rcases moves_of_takeSteps taken with ⟨split, subset⟩
          have free : forall piece, piece ∈ left -> '/' ∉ piece.toList := fun piece listed =>
            spelled.noSlash piece (by rw [pieces]; exact List.mem_cons_of_mem head (subset listed))
          rw [steps, steps_tail pieces steps, split, above, same]
          cases moving : left.dropWhile isIdle with
          | nil =>
              simp only [moving] at shape
              subst shape
              rw [← moves_dropWhile_isIdle left, moving]
              exact ⟨rfl, rfl, spelled_empty⟩
          | cons piece later =>
              simp only [moving] at shape
              subst shape
              have isMoving := (moves_eq_cons_of_dropWhile moving).1
              refine ⟨?_, ?_, by simp, fun other listed => ?_⟩
              · rw [← moves_dropWhile_isIdle left, moving]
                rfl
              · cases absolute : isAbsolute ⟨piece :: later⟩ with
                | false => rfl
                | true =>
                    rcases isAbsolute_eq_true_iff.mp absolute with ⟨_, _, shape⟩
                    cases shape
                    cases isMoving
              · rw [← moving] at listed
                exact free other ((List.dropWhile_suffix isIdle).subset listed)
      · cases stripped
  · cases stripped

theorem within_of_steps_eq_nil {directory : Path} (none : directory.steps = []) (path : Path) :
    directory.within path = some path := by
  unfold within
  rw [none]

theorem isSome_within {directory path : Path} (begins : directory.steps <+: path.steps) :
    (directory.within path).isSome = true := by
  unfold within
  cases above : directory.steps with
  | nil => rfl
  | cons first further =>
      rw [above] at begins
      cases steps : path.steps with
      | nil =>
          rw [steps] at begins
          exact absurd (List.prefix_nil.mp begins) (by simp)
      | cons own others =>
          rw [steps, List.cons_prefix_cons] at begins
          cases pieces : path.pieces with
          | nil => simp [Path.steps, pieces] at steps
          | cons head tail =>
              rw [steps_tail pieces steps] at begins
              simpa [begins.1] using isSome_takeSteps begins.2

end Path

end Reminders
