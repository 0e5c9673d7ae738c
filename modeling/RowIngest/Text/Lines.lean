/-!
Line ends. Text from files has one kind of line end, whichever kind the file was written with.
Text that is shown has a line end at every character that separates lines or parts of a text.
-/
namespace RowIngest.Text

/-- The characters that end a line of shown text. -/
def isLineEnd (c : Char) : Bool :=
  let n := c.toNat
  (0x0A ≤ n && n ≤ 0x0D) || (0x1C ≤ n && n ≤ 0x1E) || n == 0x85 || n == 0x2028 || n == 0x2029

/-- The lines of shown text, without what ends them. -/
def shownLines : List Char → List (List Char)
  | [] => [[]]
  | c :: cs =>
    if isLineEnd c then [] :: shownLines cs
    else
      match shownLines cs with
      | [] => [[c]]
      | line :: lines => (c :: line) :: lines

/-- Makes every line end a line feed. -/
def unifyLineEnds : List Char → List Char
  | [] => []
  | '\r' :: '\n' :: cs => '\n' :: unifyLineEnds cs
  | '\r' :: cs => '\n' :: unifyLineEnds cs
  | c :: cs => c :: unifyLineEnds cs

theorem carriageReturn_not_mem_unifyLineEnds (cs : List Char) : '\r' ∉ unifyLineEnds cs := by
  fun_induction unifyLineEnds cs with
  | case1 => simp
  | case2 cs ih => simp [ih]
  | case3 cs _ ih => simp [ih]
  | case4 c cs _ h ih =>
    simp only [List.mem_cons, not_or]
    exact ⟨fun e => h e.symm, ih⟩

end RowIngest.Text
