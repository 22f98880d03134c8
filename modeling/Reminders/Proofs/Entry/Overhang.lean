import Reminders.Proofs.Entry.Head
import Reminders.Proofs.Text.LineWidth

namespace Reminders

/-!
# How far an entry reaches

The lines of an entry are meant to fit the width of the output, and a line of the best fit may
exceed it all the same: where a word is too long for the rest of a line, a column too many may be
cheaper than the gap that is left without the word.  What the lines do keep to is the overhang.  It
is zero up to a width of 51 columns, and two columns at the standard width.
-/

/-- Text and head together are as wide as the output, or as the least text needs. -/
theorem textColumn_add_textWidth (width : Nat) :
    textColumn + Entry.textWidth width = max width (textColumn + leastTextWidth) := by
  simp only [Entry.textWidth, textColumn, leastTextWidth]
  omega

/-- No line of a text that is wrapped exceeds the width by more than the overhang. -/
theorem columns_le_of_mem_wrap {width : Nat} (wide : 5 ≤ width) {text line : List Char}
    (free : forall part, part ∈ splitAtChar '\n' text -> hidesHyphen .outside part = false)
    (member : line ∈ wrap width text) : columns line ≤ width + overhang width := by
  rcases List.mem_flatMap.mp member with ⟨part, isPart, isLine⟩
  exact columns_le_of_mem_wrapLine wide (free part isPart) isLine

/-- The hyphen of this command is a place to cut.  Read from there on, the digits belong to a
control sequence; read from the start they are shown, since the bell ends the command. -/
example :
    let text := "\x1b]a-b\x1b[\x07".toList ++ List.replicate 30 '1' ++ ['c']
    hidesHyphen .outside text = true ∧
      Exists fun line => line ∈ wrap 20 text ∧ 20 + overhang 20 < columns line := by
  decide +kernel

namespace Entry

/-- A line of an entry is a line of its text behind the head or as many spaces. -/
theorem exists_part_of_mem_lines {width : Nat} {entry : Entry} {line : String}
    (member : line ∈ entry.lines width) :
    Exists fun part => part ∈ wrap (textWidth width) entry.reminder.text.toList ∧
      (line = entry.head ++ String.ofList part ∨
        line = spaces textColumn ++ String.ofList part) := by
  unfold lines at member
  cases wrapped : wrap (textWidth width) entry.reminder.text.toList with
  | nil =>
      rw [wrapped] at member
      cases member
  | cons first further =>
      rw [wrapped, List.map_cons] at member
      rcases List.mem_cons.mp member with rfl | later
      · exact ⟨first, List.mem_cons_self, Or.inl rfl⟩
      · rw [List.map_map] at later
        rcases List.mem_map.mp later with ⟨part, isPart, rfl⟩
        exact ⟨part, List.mem_cons_of_mem first isPart, Or.inr rfl⟩

theorem columns_le_of_mem_lines {width : Nat} {entry : Entry} (fits : entry.FitsHead)
    (free : forall part, part ∈ splitAtChar '\n' entry.reminder.text.toList ->
      hidesHyphen .outside part = false) {line : String} (member : line ∈ entry.lines width) :
    columns line.toList ≤
      max width (textColumn + leastTextWidth) + overhang (textWidth width) := by
  rcases exists_part_of_mem_lines member with ⟨part, isPart, begins⟩
  have wide : 5 ≤ textWidth width := by
    unfold textWidth leastTextWidth
    omega
  have partColumns := columns_le_of_mem_wrap wide free isPart
  have whole : columns line.toList = textColumn + columns part := by
    rcases begins with rfl | rfl
    · rw [String.toList_append, fits.isField_head.columns_append, String.toList_ofList]
    · rw [String.toList_append, (isField_spaces textColumn).columns_append, String.toList_ofList]
  rw [whole, ← textColumn_add_textWidth]
  omega

end Entry

/-- A narrow line has no overhang: no gap in it is worth a column beyond it. -/
theorem overhang_eq_zero {width : Nat} (narrow : width ≤ 27) : overhang width = 0 := by
  have square : width * width ≤ 27 * 27 := Nat.mul_le_mul narrow narrow
  simp only [overhang, lineCost, overflowCost]
  omega

/-- The lines of an entry keep to the width of the output up to an overhang, if the numbers of the
head have their columns and the text hides no hyphens in escape sequences.  There is no overhang up
to a width of 51 columns, and at the standard width it is at most two columns. -/
theorem lines_keep_to_overhang (entry : Entry) (fits : entry.FitsHead)
    (free : forall part, part ∈ splitAtChar '\n' entry.reminder.text.toList ->
      hidesHyphen .outside part = false) :
    (forall (width : Nat) (line : String), line ∈ entry.lines width -> columns line.toList ≤
      max width (textColumn + leastTextWidth) + overhang (Entry.textWidth width)) ∧
    (forall (width : Nat) (line : String), width ≤ 51 -> line ∈ entry.lines width ->
      columns line.toList ≤ max width (textColumn + leastTextWidth)) ∧
    (forall line, line ∈ entry.lines standardWidth ->
      columns line.toList ≤ standardWidth + 2) := by
  refine ⟨fun width line member => Entry.columns_le_of_mem_lines fits free member, ?_, ?_⟩
  · intro width line narrow member
    have noOverhang : overhang (Entry.textWidth width) = 0 := by
      refine overhang_eq_zero ?_
      unfold Entry.textWidth textColumn leastTextWidth
      omega
    have bound := Entry.columns_le_of_mem_lines fits free member
    rwa [noOverhang, Nat.add_zero] at bound
  · intro line member
    have bound := Entry.columns_le_of_mem_lines fits free member
    exact bound

/-- A line reaches two columns beyond the standard width where its two words are short and so far
apart that each alone would leave almost the whole width empty. -/
theorem overhang_attained :
    let text := "a" ++ spaces 56 ++ "b " ++ String.ofList (List.replicate 56 'c')
    let reminder : Reminder :=
      ⟨1, .weekly ⟨true, false, false, false, false, false, false⟩ none, none, text, text⟩
    let entry : Entry := .unjudged reminder
    entry.FitsHead ∧
      (forall part, part ∈ splitAtChar '\n' entry.reminder.text.toList ->
        hidesHyphen .outside part = false) ∧
      (Exists fun line => line ∈ entry.lines standardWidth ∧
        columns line.toList = standardWidth + 2) ∧
      forall line, line ∈ entry.lines standardWidth ->
        columns line.toList ≤ standardWidth + 2 := by
  intro text reminder entry
  have fits : entry.FitsHead := ⟨by decide, by decide, by decide⟩
  have free : forall part, part ∈ splitAtChar '\n' entry.reminder.text.toList ->
      hidesHyphen .outside part = false := by decide +kernel
  have isLine : entry.head ++ ("a" ++ spaces 56 ++ "b") ∈ entry.lines standardWidth := by
    decide +kernel
  have reaches : columns (entry.head ++ ("a" ++ spaces 56 ++ "b")).toList = standardWidth + 2 := by
    decide
  exact ⟨fits, free, ⟨_, isLine, reaches⟩, (lines_keep_to_overhang entry fits free).2.2⟩

/-- The standard width is exceeded: a word of 53 letters is put behind a short one, as the line is
then one column too wide, and the short word alone would leave a gap of 53 columns. -/
theorem standard_width_exceeded :
    let word := String.ofList (List.replicate 53 'a')
    let reminder : Reminder :=
      ⟨1, .weekly ⟨true, false, false, false, false, false, false⟩ none, none, "see " ++ word,
        "see " ++ word⟩
    let entry : Entry := .unjudged reminder
    entry.FitsHead ∧
      (forall part, part ∈ splitAtChar '\n' entry.reminder.text.toList ->
        hidesHyphen .outside part = false) ∧
      Exists fun line => line ∈ entry.lines standardWidth ∧ columns line.toList = 81 ∧
        max standardWidth (textColumn + leastTextWidth) < columns line.toList := by
  intro word reminder entry
  have fits : entry.FitsHead := ⟨by decide, by decide, by decide⟩
  have free : forall part, part ∈ splitAtChar '\n' entry.reminder.text.toList ->
      hidesHyphen .outside part = false := by decide
  have isLine : entry.head ++ ("see " ++ word) ∈ entry.lines standardWidth := by decide +kernel
  have reaches : columns (entry.head ++ ("see " ++ word)).toList = 81 := by decide
  exact ⟨fits, free, _, isLine, reaches, by rw [reaches]; decide⟩

end Reminders
