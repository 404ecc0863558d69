/-! Properties of characters that are given by tables of code points. -/

namespace BlobDispatch.Text

/-- Membership in ascending closed ranges; the search ends at the first range above `c`. -/
def inRanges (c : Nat) : List (Nat × Nat) → Bool
  | [] => false
  | (first, last) :: rest =>
    if c < first then false else if c ≤ last then true else inRanges c rest

end BlobDispatch.Text
