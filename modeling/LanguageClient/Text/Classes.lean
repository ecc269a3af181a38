/-!
# Classes of characters

A property that Unicode gives to many characters is a table of ranges of code points.

White space are the characters that Unicode lists as `White_Space`, and texts are trimmed by them.
JSON and TOML have blank sets of their own, much smaller; what is trimmed here is text a person or a
server wrote: header lines, locations, mode names, log messages.
-/

namespace LanguageClient.Text

/-- Whether the character lies in one of the ranges, both ends of each included. -/
def inRanges (ranges : List (Nat × Nat)) (c : Char) : Bool :=
  ranges.any fun (low, high) => low ≤ c.toNat && c.toNat ≤ high

theorem inRanges_append (rs ss : List (Nat × Nat)) (c : Char) :
    inRanges (rs ++ ss) c = (inRanges rs c || inRanges ss c) := by
  simp [inRanges]

/-- The Unicode property `White_Space`. -/
def isBlank (c : Char) : Bool :=
  let n := c.toNat
  (0x09 ≤ n && n ≤ 0x0D) || n == 0x20 || n == 0x85 || n == 0xA0 || n == 0x1680
    || (0x2000 ≤ n && n ≤ 0x200A) || n == 0x2028 || n == 0x2029 || n == 0x202F || n == 0x205F
    || n == 0x3000

theorem isBlank_of_isWhitespace {c : Char} (h : c.isWhitespace = true) : isBlank c = true := by
  simp only [Char.isWhitespace, Bool.or_eq_true, decide_eq_true_eq] at h
  rcases h with ((rfl | rfl) | rfl) | rfl <;> decide

/-- Without the blanks at its front. -/
def trimStart (cs : List Char) : List Char :=
  cs.dropWhile isBlank

/-- Without the blanks at its back. -/
def trimEnd (cs : List Char) : List Char :=
  (cs.reverse.dropWhile isBlank).reverse

/-- Without the blanks at either end. -/
def trim (cs : List Char) : List Char :=
  trimEnd (trimStart cs)

end LanguageClient.Text
