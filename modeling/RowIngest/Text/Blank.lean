/-!
Blank characters and trimming. White space is the property White_Space; blanks are white
space and the four information separators. Main statement: trimmed text is a piece of the text
that neither begins nor ends with a character of the kind that is dropped.
-/
namespace RowIngest.Text

def isWhiteSpace (c : Char) : Bool :=
  let n := c.toNat
  (0x09 ≤ n && n ≤ 0x0D) || n == 0x20 || n == 0x85 || n == 0xA0 || n == 0x1680
    || (0x2000 ≤ n && n ≤ 0x200A) || n == 0x2028 || n == 0x2029 || n == 0x202F
    || n == 0x205F || n == 0x3000

def isBlank (c : Char) : Bool :=
  isWhiteSpace c || (0x1C ≤ c.toNat && c.toNat ≤ 0x1F)

/-- Drops the characters of a class at the end. -/
def trimEnd (p : Char → Bool) (cs : List Char) : List Char := (cs.reverse.dropWhile p).reverse

/-- Drops the characters of a class at both ends. -/
def trimChars (p : Char → Bool) (cs : List Char) : List Char := trimEnd p (cs.dropWhile p)

def trim (s : String) : String := String.ofList (trimChars isBlank s.toList)

def isBlankText (s : String) : Bool := s.toList.all isBlank

variable {p : Char → Bool} {cs : List Char} {c : Char}

theorem trimEnd_isPrefix (p : Char → Bool) (cs : List Char) : trimEnd p cs <+: cs := by
  have hsuffix : cs.reverse.dropWhile p <:+ cs.reverse := List.dropWhile_suffix p
  rwa [← List.reverse_prefix, List.reverse_reverse] at hsuffix

theorem trimChars_infix (p : Char → Bool) (cs : List Char) : trimChars p cs <:+: cs :=
  (trimEnd_isPrefix p _).isInfix.trans (List.dropWhile_suffix p).isInfix

theorem not_of_head?_dropWhile (h : (cs.dropWhile p).head? = some c) : p c = false := by
  have hstop := List.head?_dropWhile_not p cs
  rw [h] at hstop
  simpa using hstop

/-- What is left begins and ends with characters that are not dropped. -/
theorem not_of_head?_trimChars (h : (trimChars p cs).head? = some c) : p c = false := by
  obtain ⟨dropped, hsplit⟩ := trimEnd_isPrefix p (cs.dropWhile p)
  have hhead : (cs.dropWhile p).head? = some c := by
    change (trimEnd p (cs.dropWhile p)).head? = some c at h
    rw [← hsplit, List.head?_append, h]
    rfl
  exact not_of_head?_dropWhile hhead

theorem not_of_getLast?_trimChars (h : (trimChars p cs).getLast? = some c) : p c = false := by
  rw [trimChars, trimEnd, List.getLast?_reverse] at h
  exact not_of_head?_dropWhile h

theorem dropWhile_eq_self (h : ∀ c, cs.head? = some c → p c = false) : cs.dropWhile p = cs := by
  cases cs with
  | nil => rfl
  | cons c cs => simp [h c rfl]

/-- Nothing is dropped if there is nothing to drop at either end. -/
theorem trimChars_eq_self (hfirst : ∀ c, cs.head? = some c → p c = false)
    (hlast : ∀ c, cs.getLast? = some c → p c = false) : trimChars p cs = cs := by
  have hreverse : cs.reverse.dropWhile p = cs.reverse := by
    refine dropWhile_eq_self fun c hc => hlast c ?_
    rwa [List.head?_reverse] at hc
  rw [trimChars, trimEnd, dropWhile_eq_self hfirst, hreverse, List.reverse_reverse]

end RowIngest.Text
