/-!
Sets of code points, given by ranges with both ends in them.
-/
namespace RowIngest.Text

abbrev Ranges := List (Nat × Nat)

def Ranges.holds (ranges : Ranges) (n : Nat) : Bool :=
  ranges.any fun (first, last) => first ≤ n && n ≤ last

/-- What is below all ranges is in none. -/
theorem Ranges.holds_of_lt {ranges : Ranges} {bound n : Nat}
    (h : ranges.all (bound ≤ ·.1)) (hn : n < bound) : ranges.holds n = false := by
  simp only [List.all_eq_true, decide_eq_true_eq] at h
  simp only [Ranges.holds, List.any_eq_false, Bool.and_eq_true, decide_eq_true_eq]
  intro r hr
  have := h r hr
  omega

end RowIngest.Text
