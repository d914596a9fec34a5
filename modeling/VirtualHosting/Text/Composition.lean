/-
# Text.Composition — one spelling for letters with marks

A letter with marks can be written as one character or as several, and the marks
in more than one order. To compare two texts, each is taken apart into pieces, the
marks after a letter are put in order of their classes, and each letter is joined
with the marks after it as far as there is a character for both.

Syllables of the Korean alphabet are made of two or three letters by arithmetic;
the other characters are listed.

* `arranged_perm`: arranging marks neither adds nor loses a character;
* `arranged_of_letters`: without marks nothing moves.
-/
import VirtualHosting.Text.Composition.Order
import VirtualHosting.Text.Composition.Pieces

namespace VirtualHosting.Text.Composition

set_option autoImplicit false

/-! ## Syllables -/

/-- The codes of the first syllable and of the letters before the first leading
letter, vowel and tail that syllables have. -/
def firstSyllable : Nat := 0xAC00
def firstLead : Nat := 0x1100
def firstVowel : Nat := 0x1161
def noTail : Nat := 0x11A7

def leads : Nat := 19
def vowels : Nat := 21
def tails : Nat := 28

/-- The letters of a syllable. -/
def lettersOf? (c : Char) : Option (List Char) :=
  let index := c.toNat - firstSyllable
  if firstSyllable ≤ c.toNat && index < leads * vowels * tails then
    let lead := Char.ofNat (firstLead + index / (vowels * tails))
    let vowel := Char.ofNat (firstVowel + index % (vowels * tails) / tails)
    if index % tails = 0 then some [lead, vowel]
    else some [lead, vowel, Char.ofNat (noTail + index % tails)]
  else none

/-- The syllable that a letter, or a syllable without a tail, makes with a letter. -/
def syllable? (first second : Char) : Option Char :=
  let lead := first.toNat - firstLead
  let vowel := second.toNat - firstVowel
  let index := first.toNat - firstSyllable
  let tail := second.toNat - noTail
  if firstLead ≤ first.toNat && lead < leads && firstVowel ≤ second.toNat && vowel < vowels then
    some (Char.ofNat (firstSyllable + (lead * vowels + vowel) * tails))
  else if firstSyllable ≤ first.toNat && index < leads * vowels * tails && index % tails == 0
      && noTail < second.toNat && tail < tails then
    some (Char.ofNat (first.toNat + tail))
  else none

/-! ## Taking apart -/

/-- What a character is the same as, taken apart at most `depth` times. -/
def piecesWithin : Nat → Char → List Char
  | 0, c => [c]
  | depth + 1, c =>
    match lettersOf? c <|> pieceTable.find? c with
    | none => [c]
    | some pieces => pieces.flatMap (piecesWithin depth)

/-- The pieces of a character. No piece has to be taken apart more often than this. -/
def pieces (c : Char) : List Char :=
  piecesWithin 3 c

/-- Puts a character in front of a text, past the marks of lower classes that start it. -/
def place (c : Char) : List Char → List Char
  | [] => [c]
  | d :: rest =>
    if 0 < combiningClass d && combiningClass d < combiningClass c then d :: place c rest
    else c :: d :: rest

/-- A text with the marks after each letter in order. -/
def arranged (cs : List Char) : List Char :=
  cs.foldr place []

/-! ## Joining -/

/-- The listed characters of two pieces that may be made from them. -/
def joints : Array (Char × Char × Char) :=
  (pieceTable.toList.filterMap fun (whole, pieces) =>
    match pieces with
    | [first, second] => if neverComposed.contains whole then none else some (first, second, whole)
    | _ => none).toArray

/-- The character that two are the same as. -/
def joined? (first second : Char) : Option Char :=
  syllable? first second <|>
    (joints.find? fun joint => joint.1 == first && joint.2.1 == second).map (·.2.2)

/-- Joins `letter` with what follows it. `between` are the marks that it was not
joined with, last first: a mark reaches the letter past marks of lower classes. -/
def joinedFrom (letter : Char) : List Char → List Char → List Char
  | between, [] => letter :: between.reverse
  | between, c :: rest =>
    let reaches := between.head?.all fun b => combiningClass b < combiningClass c
    match if reaches then joined? letter c else none with
    | some whole => joinedFrom whole between rest
    | none =>
      if combiningClass c = 0 then letter :: between.reverse ++ joinedFrom c [] rest
      else joinedFrom letter (c :: between) rest

/-- A text with its letters and marks joined. -/
def joined (cs : List Char) : List Char :=
  let marks := cs.takeWhile (combiningClass · != 0)
  match cs.drop marks.length with
  | [] => marks
  | letter :: rest => marks ++ joinedFrom letter [] rest

/-- The one spelling of a text. -/
def composed (cs : List Char) : List Char :=
  joined (arranged (cs.flatMap pieces))

/-! ## First facts -/

theorem place_perm (c : Char) (cs : List Char) : (place c cs).Perm (c :: cs) := by
  induction cs with
  | nil => exact .refl _
  | cons d rest ih =>
    unfold place
    split
    · exact (ih.cons d).trans (.swap c d rest)
    · exact .refl _

theorem arranged_perm (cs : List Char) : (arranged cs).Perm cs := by
  induction cs with
  | nil => exact .refl _
  | cons c rest ih => exact (place_perm c _).trans (ih.cons c)

theorem arranged_of_letters (cs : List Char) (letters : ∀ c ∈ cs, combiningClass c = 0) :
    arranged cs = cs := by
  induction cs with
  | nil => rfl
  | cons c rest ih =>
    have settled : arranged rest = rest :=
      ih fun d inside => letters d (List.mem_cons_of_mem _ inside)
    show place c (arranged rest) = c :: rest
    rw [settled]
    cases rest with
    | nil => rfl
    | cons d rest => simp [place, letters d (by simp)]

end VirtualHosting.Text.Composition
