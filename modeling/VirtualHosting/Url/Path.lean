/-
# Url.Path — the path of a URL

A path is a list of segments. A segment of one dot names the directory it stands
in and one of two dots the directory above, also where the dots are written as
`%2e`; both are followed while the path is read, so that none is left. Nothing
lies above the top, and a segment such as `C:` or `C|`, which could be a drive, is
not left again. Tabs and line ends inside a segment are read past.

In a `file` URL the first segment can name a drive, which is written with a colon.
If a tab or line end parts a drive from what follows it, both are segments of their
own, whatever they are.

* `Walk.not_dots_of_mem_follow`: no dots are left of a path that is no file's.
-/
import VirtualHosting.Text.Fold
import VirtualHosting.Text.Slice
import VirtualHosting.Url.Percent

namespace VirtualHosting.Url.Path

set_option autoImplicit false

/-! ## Segments -/

/-- Whether a character is read past. -/
def isBreak (c : Char) : Bool :=
  c ∈ ['\t', '\n', '\r']

/-- A text without the characters that are read past. -/
def unbroken (cs : List Char) : List Char :=
  cs.filter (!isBreak ·)

/-- Whether a segment names the directory it stands in. -/
def isDot (segment : List Char) : Bool :=
  segment.map Text.lower ∈ [['.'], ['%', '2', 'e']]

/-- Whether a segment names the directory above. -/
def isDoubleDot (segment : List Char) : Bool :=
  segment.map Text.lower ∈
    [['.', '.'], ['.', '%', '2', 'e'], ['%', '2', 'e', '.'], ['%', '2', 'e', '%', '2', 'e']]

/-- The letter of a drive, if a segment names one. -/
def drive? : List Char → Option Char
  | [letter, mark] => if letter.isAlpha && (mark = ':' || mark = '|') then some letter else none
  | _ => none

/-- Whether a segment names a drive, with a backslash behind it at most. -/
def startsWithDrive (segment : List Char) : Bool :=
  (drive? (segment.take 2)).isSome && (segment.drop 2).head?.all (· = '\\')

/-- A drive and what follows it in the same segment, if it is parted from that right
behind its colon. -/
def partedDrive? (raw : List Char) : Option (List Char × List Char) :=
  match raw.dropWhile isBreak with
  | [] => none
  | letter :: rest =>
    match rest.dropWhile isBreak with
    | ':' :: c :: rest =>
      let more := unbroken rest
      if letter.isAlpha && isBreak c && !more.isEmpty then some ([letter, ':'], more) else none
    | _ => none

/-! ## Following segments -/

/-- Where following segments has led to. -/
structure Walk where
  /-- The segments to there, last first. -/
  kept : List (List Char) := []
  /-- Whether the first of them was read as the name of a drive. -/
  onDrive : Bool := false

namespace Walk

/-- One level up, unless that would leave a drive. -/
def climb (w : Walk) : Walk :=
  match w.kept with
  | [] => w
  | top :: below => if startsWithDrive top then w else { w with kept := below }

/-- Enters the first segment of a file's path. -/
def enterDrive (raw : List Char) : Walk :=
  match partedDrive? raw with
  | some (drive, more) => { kept := [encode inPathSet more, drive] }
  | none =>
    match drive? (unbroken raw) with
    | some letter => { kept := [[letter, ':']], onDrive := true }
    | none => { kept := [encode inPathSet (unbroken raw)] }

/-- Follows a segment. -/
def step (isFile : Bool) (w : Walk) (raw : List Char) : Walk :=
  let segment := encode inPathSet (unbroken raw)
  if isDoubleDot segment then w.climb
  else if isDot segment then w
  else if isFile && w.kept.isEmpty then enterDrive raw
  else { w with kept := segment :: w.kept }

/-- Follows segments. Dots at the end leave an empty segment, the directory itself. -/
def follow (isFile : Bool) : Walk → List (List Char) → Walk
  | w, [] => w
  | w, raw :: rest =>
    let segment := encode inPathSet (unbroken raw)
    let next := w.step isFile raw
    if rest.isEmpty && (isDoubleDot segment || isDot segment) then
      { next with kept := [] :: next.kept }
    else follow isFile next rest

/-- The segments in order. -/
def segments (w : Walk) : List (List Char) :=
  w.kept.reverse

end Walk

/-- Follows the path that a text spells behind its first slash. -/
def walk (isFile separatesBack : Bool) (cs : List Char) : Walk :=
  let slashed := if separatesBack then cs.map fun c => if c = '\\' then '/' else c else cs
  ({ : Walk}).follow isFile (Text.splitAt '/' slashed)

/-- A path as it is written. -/
def written (segments : List (List Char)) : List Char :=
  '/' :: List.intercalate ['/'] segments

/-! ## First facts -/

theorem Walk.mem_of_mem_climb {w : Walk} {segment : List Char}
    (inside : segment ∈ w.climb.kept) : segment ∈ w.kept := by
  unfold climb at inside
  split at inside
  · exact inside
  · rename_i top below same
    split at inside
    · exact inside
    · rw [same]
      exact List.mem_cons_of_mem _ inside

theorem Walk.not_dots_of_mem_step {w : Walk} (raw : List Char)
    (clear : ∀ s ∈ w.kept, isDot s = false ∧ isDoubleDot s = false) :
    ∀ s ∈ (w.step false raw).kept, isDot s = false ∧ isDoubleDot s = false := by
  intro s inside
  unfold step at inside
  simp only [Bool.false_and, Bool.false_eq_true, if_false] at inside
  split at inside
  · exact clear s (mem_of_mem_climb inside)
  · rename_i level
    split at inside
    · exact clear s inside
    · rename_i named
      rcases List.mem_cons.1 inside with rfl | inside
      · exact ⟨by simpa using named, by simpa using level⟩
      · exact clear s inside

theorem Walk.not_dots_of_mem_follow (raws : List (List Char)) :
    ∀ w : Walk, (∀ s ∈ w.kept, isDot s = false ∧ isDoubleDot s = false) →
      ∀ s ∈ (w.follow false raws).kept, isDot s = false ∧ isDoubleDot s = false := by
  induction raws with
  | nil => exact fun _ clear => clear
  | cons raw rest ih =>
    intro w clear s inside
    have next := not_dots_of_mem_step raw clear
    unfold follow at inside
    simp only at inside
    split at inside
    · rcases List.mem_cons.1 inside with rfl | inside
      · exact ⟨by decide, by decide⟩
      · exact next s inside
    · exact ih _ next s inside

end VirtualHosting.Url.Path
