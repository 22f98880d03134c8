namespace Reminders

/-!
# Splitting

A text is cut at each occurrence of a separating character.  The parts, joined by the separator,
are the text again.
-/

/-- Cut a text at each occurrence of a separator.  There is one part more than there are
occurrences. -/
def splitAtChar (separator : Char) : List Char -> List (List Char)
  | [] => [[]]
  | c :: rest =>
      if c = separator then [] :: splitAtChar separator rest
      else
        match splitAtChar separator rest with
        | part :: later => (c :: part) :: later
        | [] => [[c]]

/-- There is always a part. -/
theorem splitAtChar_ne_nil (separator : Char) (text : List Char) :
    splitAtChar separator text ≠ [] := by
  cases text with
  | nil => simp [splitAtChar]
  | cons c rest =>
      rw [splitAtChar]
      split
      · simp
      · split <;> simp

/-- The parts, joined by the separator, are the text. -/
theorem intercalate_splitAtChar (separator : Char) (text : List Char) :
    [separator].intercalate (splitAtChar separator text) = text := by
  induction text with
  | nil => rfl
  | cons c rest inductionHypothesis =>
      have nonempty := splitAtChar_ne_nil separator rest
      rw [splitAtChar]
      cases parts : splitAtChar separator rest with
      | nil => exact absurd parts nonempty
      | cons part later =>
          rw [parts] at inductionHypothesis
          split
          · next same => simp [List.intercalate_cons_cons, inductionHypothesis, same]
          · cases later with
            | nil => simpa [List.intercalate] using inductionHypothesis
            | cons second others =>
                simpa [List.intercalate_cons_cons] using inductionHypothesis

/-- No part holds the separator. -/
theorem not_mem_of_mem_splitAtChar {separator : Char} {text part : List Char}
    (member : part ∈ splitAtChar separator text) : separator ∉ part := by
  induction text generalizing part with
  | nil => simp_all [splitAtChar]
  | cons c rest inductionHypothesis =>
      rw [splitAtChar] at member
      split at member
      · cases List.mem_cons.mp member with
        | inl first => simp [first]
        | inr later => exact inductionHypothesis later
      · next different =>
          split at member
          · next head tail parts =>
              have fromRest {other : List Char} (listed : other ∈ head :: tail) :
                  separator ∉ other := inductionHypothesis (parts ▸ listed)
              cases List.mem_cons.mp member with
              | inl first =>
                  subst first
                  have differs : separator ≠ c := fun same => different same.symm
                  simpa [differs] using fromRest List.mem_cons_self
              | inr later => exact fromRest (List.mem_cons_of_mem head later)
          · next parts => exact absurd parts (splitAtChar_ne_nil separator rest)

end Reminders
