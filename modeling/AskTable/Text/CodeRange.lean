/-!
# Ranges of code points

A property of characters that no short rule gives is kept as the list of its ranges of code points,
in ascending order.

## Main definitions

* `CodeRange.covers` - is a code point in one of the ranges?
-/

namespace AskTable

/-- A range of code points, given by its first and its last one. -/
abbrev CodeRange := Nat × Nat

namespace CodeRange

/-- Is the code point in one of the ranges? The ranges ascend, so the search ends at the first one
that begins after the code point. -/
def covers : List CodeRange → Nat → Bool
  | [], _ => false
  | (first, last) :: ranges, n =>
    if n < first then false else if n ≤ last then true else covers ranges n

/-- What a list of ranges covers lies in one of them. -/
theorem exists_of_covers {ranges : List CodeRange} {n : Nat} (h : covers ranges n = true) :
    ∃ r ∈ ranges, r.1 ≤ n ∧ n ≤ r.2 := by
  induction ranges with
  | nil => simp [covers] at h
  | cons r ranges ih =>
    obtain ⟨first, last⟩ := r
    unfold covers at h
    split at h
    · contradiction
    · split at h
      · exact ⟨(first, last), by simp, by omega, by omega⟩
      · obtain ⟨r, hr, hn⟩ := ih h
        exact ⟨r, List.mem_cons_of_mem _ hr, hn⟩

end CodeRange

end AskTable
