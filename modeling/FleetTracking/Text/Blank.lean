/-!
# Blank characters

The characters that count as white space when text is trimmed: the separators of Unicode
together with the control characters that move the cursor or separate records.
-/

namespace FleetTracking.Text

/-- Code points of white space, in increasing order. -/
def blankCodes : List Nat :=
  [0x09, 0x0A, 0x0B, 0x0C, 0x0D, 0x1C, 0x1D, 0x1E, 0x1F, 0x20, 0x85, 0xA0, 0x1680,
   0x2000, 0x2001, 0x2002, 0x2003, 0x2004, 0x2005, 0x2006, 0x2007, 0x2008, 0x2009, 0x200A,
   0x2028, 0x2029, 0x202F, 0x205F, 0x3000]

/-- White space, as trimming understands it. -/
def isBlank (c : Char) : Bool := blankCodes.contains c.toNat

example : blankCodes.length = 29 := rfl

/-- Drops the white space at both ends. -/
def trim (cs : List Char) : List Char :=
  ((cs.dropWhile isBlank).reverse.dropWhile isBlank).reverse

/-- Text with nothing but white space in it. -/
def isAllBlank (s : String) : Bool := s.toList.all isBlank

/-- Every character that the core library calls white space is blank. -/
theorem isBlank_of_isWhitespace {c : Char} (h : c.isWhitespace = true) : isBlank c = true := by
  simp only [Char.isWhitespace, Bool.or_eq_true, decide_eq_true_eq] at h
  rcases h with ((h | h) | h) | h <;> subst h <;> decide

end FleetTracking.Text
