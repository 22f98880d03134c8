import Reminders.Text.LineBreak.Class
import Reminders.Text.Property.EastAsian

namespace Reminders

/-!
# Line break opportunities

Where a text may be broken into lines, by the Unicode line breaking algorithm, version 17.

A combining mark belongs to the character that it follows, so the text is first gathered into
units: a base character with its marks.  Between two neighbouring units a list of rules is tried
in order, and the first rule that says anything decides.  If none does, the line may be broken.

The text is a list of items of any type that show one character each.  An item is thereby kept
together with whatever is attached to it.
-/

/-- What the rules see of a base character with its combining marks. -/
structure BreakUnit where
  cls : BreakClass
  eastAsian : Bool
  /-- The dotted circle, which stands for a letter under a mark that is shown alone. -/
  dottedCircle : Bool
  reservedPictograph : Bool
  /-- Whether the last character is a zero width joiner. -/
  endsInJoiner : Bool
deriving DecidableEq, Repr

namespace BreakUnit

/-- The unit of one character.  A mark with nothing to attach to counts as alphabetic. -/
def ofChar (c : Char) : BreakUnit :=
  match breakClass c with
  | .combiningMark => ⟨.alphabetic, false, false, false, false⟩
  | .zeroWidthJoiner => ⟨.alphabetic, false, false, false, true⟩
  | cls => ⟨cls, isEastAsian c, c == '◌', isReservedPictograph c, false⟩

/-- Whether the class is one of the given ones. -/
def among (unit : BreakUnit) (classes : List BreakClass) : Bool := classes.contains unit.cls

/-- Whether a mark may attach to the unit: blanks and line ends take none. -/
def takesMarks (unit : BreakUnit) : Bool :=
  !unit.among [.mandatoryBreak, .carriageReturn, .lineFeed, .nextLine, .space, .zeroWidthSpace]

def isLineEnd (unit : BreakUnit) : Bool :=
  unit.among [.mandatoryBreak, .carriageReturn, .lineFeed, .nextLine]

def isSpace (unit : BreakUnit) : Bool := unit.cls == .space

def isLetter (unit : BreakUnit) : Bool := unit.among [.alphabetic, .hebrewLetter]

def isNumeric (unit : BreakUnit) : Bool := unit.cls == .numeric

def isQuotation (unit : BreakUnit) : Bool :=
  unit.among [.quotation, .initialQuotation, .finalQuotation]

def isHyphen (unit : BreakUnit) : Bool := unit.among [.hyphen, .unambiguousHyphen]

def isHangul (unit : BreakUnit) : Bool :=
  unit.among [.leadingJamo, .vowelJamo, .trailingJamo, .hangulOpen, .hangulClosed]

/-- Letters of a Brahmic script that may stand in for one another in a syllable. -/
def isAksara (unit : BreakUnit) : Bool :=
  unit.dottedCircle || unit.among [.aksara, .aksaraStart]

/-- Letters of a Brahmic script that may follow a virama in a syllable. -/
def isSubjoined (unit : BreakUnit) : Bool := unit.dottedCircle || unit.cls == .aksara

end BreakUnit

/-- The surroundings of a place between two units: the unit before it with all earlier ones, the
nearest first, and the unit after it with the two that follow.  No rule looks further ahead. -/
structure BreakPlace where
  before : BreakUnit
  earlier : List BreakUnit
  after : BreakUnit
  later : List BreakUnit

namespace BreakPlace

/-- Whether a neighbour that may be missing satisfies a test; the edge of the text does. -/
def edgeOr (test : BreakUnit -> Bool) (neighbours : List BreakUnit) : Bool :=
  neighbours.head?.all test

/-- Whether a neighbour that may be missing satisfies a test; the edge of the text does not. -/
def next (test : BreakUnit -> Bool) (neighbours : List BreakUnit) : Bool :=
  neighbours.head?.any test

/-- All units before the place, the nearest first, without the spaces just before it. -/
def beforeSpaces (place : BreakPlace) : List BreakUnit :=
  (place.before :: place.earlier).dropWhile BreakUnit.isSpace

/-- Whether the last unit before the place that is not a space has one of the given classes. -/
def followsSpaced (place : BreakPlace) (classes : List BreakClass) : Bool :=
  next (·.among classes) place.beforeSpaces

/-- Whether the units given, the nearest first, end in a number that may go on: digits, and behind
them any points, commas and slashes. -/
def endsInNumber (units : List BreakUnit) : Bool :=
  next BreakUnit.isNumeric (units.dropWhile (·.among [.breakSymbol, .infixNumeric]))

/-- Line ends break the line, except between a carriage return and its line feed, and never move to
the start of the next one. -/
def lineEndRule (place : BreakPlace) : Option Bool :=
  if place.before.cls == .carriageReturn && place.after.cls == .lineFeed then some false
  else if place.before.isLineEnd then some true
  else if place.after.isLineEnd then some false
  else none

/-- Spaces stay on their line, and a zero width space breaks it. -/
def zeroWidthSpaceRule (place : BreakPlace) : Option Bool :=
  if place.after.among [.space, .zeroWidthSpace] then some false
  else if place.followsSpaced [.zeroWidthSpace] then some true
  else none

/-- Joiners and glue hold their neighbours; glue lets a line break after spaces and hyphens. -/
def glueRule (place : BreakPlace) : Option Bool :=
  if place.before.endsInJoiner then some false
  else if place.before.among [.wordJoiner, .glue] || place.after.cls == .wordJoiner then some false
  else if place.after.cls == .glue &&
      !place.before.among [.space, .breakAfter, .hyphen, .unambiguousHyphen] then some false
  else none

/-- Closing punctuation stays with what it closes, and opening punctuation with what it opens, also
across spaces. -/
def punctuationRule (place : BreakPlace) : Option Bool :=
  if place.after.among [.closePunctuation, .closeParenthesis, .exclamation, .breakSymbol] then
    some false
  else if place.followsSpaced [.openPunctuation] then some false
  else none

/-- An opening quotation mark that begins a word stays with it, and a closing one that ends a word
likewise. -/
def directedQuotationRule (place : BreakPlace) : Option Bool :=
  let beginsWord (unit : BreakUnit) : Bool :=
    unit.isLineEnd || unit.isQuotation ||
      unit.among [.openPunctuation, .glue, .space, .zeroWidthSpace]
  let endsWord (unit : BreakUnit) : Bool :=
    unit.isLineEnd || unit.isQuotation ||
      unit.among [.space, .glue, .wordJoiner, .closePunctuation, .closeParenthesis, .exclamation,
        .infixNumeric, .breakSymbol, .zeroWidthSpace]
  if place.followsSpaced [.initialQuotation] && edgeOr beginsWord place.beforeSpaces.tail then
    some false
  else if place.after.cls == .finalQuotation && edgeOr endsWord place.later then some false
  else none

/-- A point or comma stays with what it follows, unless it begins a number after a space. -/
def infixRule (place : BreakPlace) : Option Bool :=
  if place.after.cls != .infixNumeric then none
  else some (place.before.isSpace && next BreakUnit.isNumeric place.later)

/-- Pairs that stay together across spaces.  Apart from these a line may be broken after spaces. -/
def spaceRule (place : BreakPlace) : Option Bool :=
  if place.after.cls == .nonstarter &&
      place.followsSpaced [.closePunctuation, .closeParenthesis] then some false
  else if place.after.cls == .breakBoth && place.followsSpaced [.breakBoth] then some false
  else if place.before.isSpace then some true
  else none

/-- Quotation marks stay with their neighbours.  Between East Asian characters the directed ones
hold only to the side that they face. -/
def quotationRule (place : BreakPlace) : Option Bool :=
  let narrow (unit : BreakUnit) : Bool := !unit.eastAsian
  if place.after.among [.quotation, .finalQuotation] then some false
  else if place.before.among [.quotation, .initialQuotation] then some false
  else if place.after.isQuotation && (narrow place.before || edgeOr narrow place.later) then
    some false
  else if place.before.isQuotation && (narrow place.after || edgeOr narrow place.earlier) then
    some false
  else none

/-- Objects whose behaviour is not known may be set apart on both sides. -/
def contingentRule (place : BreakPlace) : Option Bool :=
  if place.before.cls == .contingentBreak || place.after.cls == .contingentBreak then some true
  else none

/-- Hyphens stay with what they follow.  One that begins a word also stays with the word, and in
Hebrew also with what follows it. -/
def hyphenRule (place : BreakPlace) : Option Bool :=
  let beginsWord (unit : BreakUnit) : Bool :=
    unit.isLineEnd || unit.among [.space, .zeroWidthSpace, .contingentBreak, .glue]
  if place.before.isHyphen && place.after.isLetter && edgeOr beginsWord place.earlier then
    some false
  else if place.after.isHyphen || place.after.among [.breakAfter, .nonstarter] then some false
  else if place.before.cls == .breakBefore then some false
  else if place.before.isHyphen && place.after.cls != .hebrewLetter &&
      next (·.cls == .hebrewLetter) place.earlier then some false
  else if place.before.cls == .breakSymbol && place.after.cls == .hebrewLetter then some false
  else if place.after.cls == .inseparable then some false
  else none

/-- Words and numbers hold together, with the signs before and after them. -/
def wordRule (place : BreakPlace) : Option Bool :=
  let before := place.before
  let after := place.after
  let pictorial (unit : BreakUnit) : Bool :=
    unit.among [.ideographic, .emojiBase, .emojiModifier]
  let sign (unit : BreakUnit) : Bool := unit.among [.numericBefore, .numericAfter]
  if before.isLetter && after.isNumeric || before.isNumeric && after.isLetter then some false
  else if before.cls == .numericBefore && pictorial after then some false
  else if pictorial before && after.cls == .numericAfter then some false
  else if sign before && after.isLetter || before.isLetter && sign after then some false
  else none

/-- Numbers hold together with their digits, separators, brackets and signs. -/
def numberRule (place : BreakPlace) : Option Bool :=
  let before := place.before
  let after := place.after
  let sign (unit : BreakUnit) : Bool := unit.among [.numericBefore, .numericAfter]
  let opensNumber : Bool :=
    next BreakUnit.isNumeric place.later ||
      next (·.cls == .infixNumeric) place.later && next BreakUnit.isNumeric place.later.tail
  if sign after && before.among [.closePunctuation, .closeParenthesis] &&
      endsInNumber place.earlier then some false
  else if (sign after || after.isNumeric) && endsInNumber (before :: place.earlier) then some false
  else if sign before && after.cls == .openPunctuation && opensNumber then some false
  else if (sign before || before.among [.hyphen, .infixNumeric]) && after.isNumeric then some false
  else none

/-- Hangul letters hold together in their syllables, and syllables with the signs beside them. -/
def hangulRule (place : BreakPlace) : Option Bool :=
  let before := place.before
  let after := place.after
  if before.cls == .leadingJamo &&
      after.among [.leadingJamo, .vowelJamo, .hangulOpen, .hangulClosed] then some false
  else if before.among [.vowelJamo, .hangulOpen] && after.among [.vowelJamo, .trailingJamo] then
    some false
  else if before.among [.trailingJamo, .hangulClosed] && after.cls == .trailingJamo then some false
  else if before.isHangul && after.cls == .numericAfter then some false
  else if before.cls == .numericBefore && after.isHangul then some false
  else none

/-- Letters hold together. -/
def letterRule (place : BreakPlace) : Option Bool :=
  if place.before.isLetter && place.after.isLetter then some false else none

/-- Letters of a Brahmic script hold together in their syllables. -/
def syllableRule (place : BreakPlace) : Option Bool :=
  let before := place.before
  let after := place.after
  if before.cls == .aksaraPrebase && after.isAksara then some false
  else if before.isAksara && after.among [.virama, .viramaFinal] then some false
  else if before.cls == .virama && after.isSubjoined && next BreakUnit.isAksara place.earlier then
    some false
  else if before.isAksara && after.isAksara && next (·.cls == .viramaFinal) place.later then
    some false
  else none

/-- A point or comma inside a word holds, and so do brackets at the edge of words and numbers,
unless they are East Asian. -/
def bracketRule (place : BreakPlace) : Option Bool :=
  let before := place.before
  let after := place.after
  let wordPart (unit : BreakUnit) : Bool := unit.isLetter || unit.isNumeric
  if before.cls == .infixNumeric && after.isLetter then some false
  else if wordPart before && after.cls == .openPunctuation && !after.eastAsian then some false
  else if before.cls == .closeParenthesis && !before.eastAsian && wordPart after then some false
  else none

/-- Regional indicators hold together in pairs, and an emoji with its modifier. -/
def emojiRule (place : BreakPlace) : Option Bool :=
  let isIndicator (unit : BreakUnit) : Bool := unit.cls == .regionalIndicator
  if isIndicator place.before && isIndicator place.after &&
      ((place.before :: place.earlier).takeWhile isIndicator).length % 2 == 1 then some false
  else if (place.before.cls == .emojiBase || place.before.reservedPictograph) &&
      place.after.cls == .emojiModifier then some false
  else none

/-- The rules in the order in which they are tried. -/
def rules : List (BreakPlace -> Option Bool) :=
  [lineEndRule, zeroWidthSpaceRule, glueRule, punctuationRule, directedQuotationRule, infixRule,
    spaceRule, quotationRule, contingentRule, hyphenRule, wordRule, numberRule, hangulRule,
    letterRule, syllableRule, bracketRule, emojiRule]

/-- Whether a line may be broken at the place. -/
def allowsBreak (place : BreakPlace) : Bool := (rules.findSome? (· place)).getD true

end BreakPlace

/-! ## Cutting a text at its opportunities -/

/-- Gather items into units, each with the items that it is made of. -/
def breakUnits {α : Type} (glyph : α -> Char) (items : List α) : List (BreakUnit × List α) :=
  (items.foldl attach []).reverse.map fun (unit, members) => (unit, members.reverse)
where
  /-- Add an item to the units so far, the last one first. -/
  attach (units : List (BreakUnit × List α)) (item : α) : List (BreakUnit × List α) :=
    let isJoiner := breakClass (glyph item) == .zeroWidthJoiner
    match units with
    | (unit, members) :: earlier =>
        if (isJoiner || breakClass (glyph item) == .combiningMark) && unit.takesMarks then
          ({ unit with endsInJoiner := isJoiner }, item :: members) :: earlier
        else (.ofChar (glyph item), [item]) :: units
    | [] => [(.ofChar (glyph item), [item])]

/-- The members of all units are the items. -/
theorem flatMap_breakUnits {α : Type} (glyph : α -> Char) (items : List α) :
    (breakUnits glyph items).flatMap Prod.snd = items := by
  have gathered (units : List (BreakUnit × List α)) :
      ((items.foldl (breakUnits.attach glyph) units).reverse.map
        fun (unit, members) => (unit, members.reverse)).flatMap Prod.snd =
      (units.reverse.map fun (unit, members) => (unit, members.reverse)).flatMap Prod.snd ++
        items := by
    induction items generalizing units with
    | nil => simp
    | cons item rest inductionHypothesis =>
        rw [List.foldl_cons, inductionHypothesis]
        cases units with
        | nil => simp [breakUnits.attach]
        | cons last earlier =>
            obtain ⟨unit, members⟩ := last
            simp only [breakUnits.attach]
            split <;> simp
  simpa [breakUnits] using gathered []

/-- Join the members of units into the stretches between opportunities.  The units before those
given are passed along, the nearest first. -/
def breakStretches {α : Type} (earlier : List BreakUnit) :
    List (BreakUnit × List α) -> List (List α)
  | [] => []
  | [(_, members)] => [members]
  | (unit, members) :: (after, afterMembers) :: later =>
      let stretches := breakStretches (unit :: earlier) ((after, afterMembers) :: later)
      if BreakPlace.allowsBreak ⟨unit, earlier, after, (later.take 2).map Prod.fst⟩ then
        members :: stretches
      else
        match stretches with
        | stretch :: rest => (members ++ stretch) :: rest
        | [] => [members]

/-- The stretches, one behind the other, are the members of the units. -/
theorem flatten_breakStretches {α : Type} (earlier : List BreakUnit)
    (units : List (BreakUnit × List α)) :
    (breakStretches earlier units).flatten = units.flatMap Prod.snd := by
  fun_induction breakStretches earlier units with
  | case1 => rfl
  | case2 => simp
  | case3 _ _ members _ _ _ stretches _ inductionHypothesis =>
      change stretches.flatten = _ at inductionHypothesis
      simp only [List.flatten_cons, inductionHypothesis, List.flatMap_cons]
  | case4 _ _ members _ _ _ stretches _ stretch rest joined inductionHypothesis =>
      change stretches.flatten = _ at inductionHypothesis
      rw [joined] at inductionHypothesis
      rw [List.flatMap_cons, ← inductionHypothesis]
      simp only [List.flatten_cons, List.append_assoc]
  | case5 _ _ members _ _ _ stretches _ joined inductionHypothesis =>
      change stretches.flatten = _ at inductionHypothesis
      rw [joined] at inductionHypothesis
      rw [List.flatMap_cons, ← inductionHypothesis]
      simp only [List.flatten_cons]

/-- Cut a text at all its line break opportunities. -/
def breakText {α : Type} (glyph : α -> Char) (items : List α) : List (List α) :=
  breakStretches [] (breakUnits glyph items)

/-- Nothing is lost between the opportunities. -/
theorem flatten_breakText {α : Type} (glyph : α -> Char) (items : List α) :
    (breakText glyph items).flatten = items := by
  rw [breakText, flatten_breakStretches, flatMap_breakUnits]

end Reminders
