import BlobDispatch.Proofs.Listing.Page

/-! Cursors: which queries they continue, and what a page leaves in the one that it gives out. -/

namespace BlobDispatch.Listing

theorem Cursor.validate_eq_ok_iff {cursor : Cursor} {query : Query} :
    cursor.validate query = .ok () ↔ cursor.query = query ∧ ∃ target,
      query.target = .ok target ∧ Text.startsWith target.namePrefix cursor.lastKey = true := by
  unfold validate
  by_cases same : cursor.query = query
  · rw [if_neg (not_not_intro same)]
    cases query.target with
    | error error => simp
    | ok target =>
      simp only
      split <;> simp_all
  · simp [same]

theorem Cursor.validate_of_other {cursor : Cursor} {query : Query} (other : cursor.query ≠ query) :
    cursor.validate query = .error (.invalidCursor .otherQuery) := by
  rw [validate, if_pos other]

/-- Items of a page have keys under the prefix, so its cursor has as well. -/
theorem next_of_page {query : Query} {target : Target} {blobs : List Blob} {after : Option String}
    {size : Nat} (under : ∀ blob ∈ blobs, Text.startsWith target.namePrefix blob.name = true)
    {next : Cursor} (continued : (page query target blobs after size).next = some next) :
    next.query = query ∧ Text.startsWith target.namePrefix next.lastKey = true := by
  simp only [page] at continued
  split at continued
  · rename_i last _ ends
    cases continued
    refine ⟨rfl, ?_⟩
    have listed := (List.dropWhile_sublist _).subset
      (List.mem_of_mem_take (List.mem_of_getLast? ends))
    obtain ⟨blob, member, rfl⟩ := mem_fold_iff.1 listed
    exact startsWith_entry_key query.flat (under blob member)
  · cases continued

end BlobDispatch.Listing
