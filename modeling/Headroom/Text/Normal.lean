import Headroom.Text.Normal.Canonical

/-!
# Normal form

Texts that are canonically equivalent have one normal form.  It is found in three
steps: every character is taken apart, the marks on each letter are put in order,
and what can be written as one character is put together again.
-/

namespace Headroom.Text.Normal

/-- The syllables of Hangul follow from their letters by their numbers: the first syllable, and the
first of the leading, middle and final letters, where the first final letter stands for none. -/
structure Hangul where
  syllable : Nat
  leading : Nat
  middle : Nat
  final : Nat

/-- Where the syllables and letters of Hangul stand. -/
def hangul : Hangul := ⟨0xAC00, 0x1100, 0x1161, 0x11A7⟩

def leadings : Nat := 19

def middles : Nat := 21

/-- The number of final letters, with the one that stands for none. -/
def finals : Nat := 28

def letters? (code : Nat) : Option (List Nat) :=
  if hangul.syllable ≤ code ∧ code < hangul.syllable + leadings * middles * finals then
    let number := code - hangul.syllable
    let front := [hangul.leading + number / finals / middles,
      hangul.middle + number / finals % middles]
    some (if number % finals = 0 then front else front ++ [hangul.final + number % finals])
  else none

/-- The syllable of two letters of Hangul, or of a syllable without a final letter and one. -/
def syllable? (first second : Nat) : Option Nat :=
  if hangul.leading ≤ first ∧ first < hangul.leading + leadings ∧
      hangul.middle ≤ second ∧ second < hangul.middle + middles then
    some (hangul.syllable +
      ((first - hangul.leading) * middles + (second - hangul.middle)) * finals)
  else if hangul.syllable ≤ first ∧ first < hangul.syllable + leadings * middles * finals ∧
      (first - hangul.syllable) % finals = 0 ∧
      hangul.final < second ∧ second < hangul.final + finals then
    some (first + (second - hangul.final))
  else none

/-- How often a character can be taken apart into others that can be taken apart again. -/
def depth : Nat := 4

/-- Takes a character apart, and what comes of it again, so many times. -/
def takeApart : Nat → Nat → List Nat
  | 0, code => [code]
  | fuel + 1, code =>
    match letters? code with
    | some letters => letters
    | none =>
      match (Table.find? compositions code).or (Table.find? replacements code) with
      | some parts => parts.flatMap (takeApart fuel)
      | none => [code]

/-- The place of a mark in the order of those on one letter; none of its own is 0. -/
def orderOf (code : Nat) : Nat :=
  match markOrder.find? (·.covers code) with
  | some entry => entry.target.headD 0
  | none => 0

/-- Puts a character before others, behind the marks that belong before it. -/
def insertMark (code : Nat) : List Nat → List Nat
  | [] => [code]
  | other :: rest =>
    if 0 < orderOf other ∧ orderOf other < orderOf code then other :: insertMark code rest
    else code :: other :: rest

/-- Puts the marks on each letter in order. -/
def ordered (codes : List Nat) : List Nat := codes.foldr insertMark []

/-- The character that two others are the same as. -/
def together? (first second : Nat) : Option Nat :=
  match syllable? first second with
  | some code => some code
  | none => (compositions.find? fun entry => entry.target == [first, second]).map (·.first)

/-- What has been put together: what is settled, the last first, the letter that may still take
marks, and the marks behind it that it did not take, the last first. -/
structure Assembly where
  settled : List Nat
  letter : Option Nat
  marks : List Nat

/-- Adds a character.  A mark that stands before it in the same order keeps it from the letter. -/
def Assembly.add (assembly : Assembly) (code : Nat) : Assembly :=
  let isFree := match assembly.marks with
    | [] => true
    | mark :: _ => decide (orderOf mark < orderOf code)
  let joined := if isFree then assembly.letter.bind fun letter => together? letter code else none
  match joined with
  | some whole => { assembly with letter := some whole }
  | none =>
    if orderOf code = 0 then
      ⟨assembly.marks ++ assembly.letter.toList ++ assembly.settled, some code, []⟩
    else { assembly with marks := code :: assembly.marks }

def Assembly.toList (assembly : Assembly) : List Nat :=
  (assembly.marks ++ assembly.letter.toList ++ assembly.settled).reverse

def normal (codes : List Nat) : List Nat :=
  ((ordered (codes.flatMap (takeApart depth))).foldl Assembly.add ⟨[], none, []⟩).toList

end Headroom.Text.Normal
