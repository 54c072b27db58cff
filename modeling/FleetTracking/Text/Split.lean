/-!
# Splitting text

Text is split at every separator (`splitBy`) or at the first one (`splitFirst`). The separators
themselves are left out.
-/

namespace FleetTracking.Text

/-- The parts of a text between its separators, at least one. -/
def splitBy (isSeparator : Char → Bool) : List Char → List (List Char)
  | [] => [[]]
  | c :: cs =>
    if isSeparator c then [] :: splitBy isSeparator cs
    else
      match splitBy isSeparator cs with
      | part :: parts => (c :: part) :: parts
      | [] => [[c]]

/-- The text in front of the first separator, and the text behind it, if there is a separator. -/
def splitFirst (isSeparator : Char → Bool) (cs : List Char) : List Char × Option (List Char) :=
  (cs.takeWhile (!isSeparator ·),
    match cs.dropWhile (!isSeparator ·) with
    | [] => none
    | _ :: rest => some rest)

/-- There is one part more than there are separators. -/
theorem length_splitBy (isSeparator : Char → Bool) (cs : List Char) :
    (splitBy isSeparator cs).length = cs.countP isSeparator + 1 := by
  induction cs with
  | nil => rfl
  | cons c cs ih =>
    by_cases h : isSeparator c = true
    · simp [splitBy, h, ih]
    · cases hs : splitBy isSeparator cs with
      | nil => simp [hs] at ih
      | cons part parts => simp_all [splitBy]

end FleetTracking.Text
