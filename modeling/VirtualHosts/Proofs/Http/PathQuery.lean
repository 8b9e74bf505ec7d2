import Mathlib
import VirtualHosts.Http.RequestTarget
import VirtualHosts.Proofs.Text.Cuts

/-!
A path with a query is read back from its text, so that what a request target
asks for can be asked for again elsewhere.
-/

namespace VirtualHosts.Http

open VirtualHosts.Text

namespace PathQuery

/-- A path and a query that reading can give. -/
structure IsValid (place : PathQuery) : Prop where
  path : place.path.toList.all isPathChar = true
  query : ∀ query, place.query? = some query →
    query.toList.all isQueryChar = true

theorem isValid_of_ofText? {s : List Char} {place : PathQuery}
    (read : ofText? s = some place) : place.IsValid := by
  rw [ofText?] at read
  split at read
  · split at read
    · rename_i isPath
      cases read
      exact ⟨by simpa using isPath, by simp⟩
    · contradiction
  · split at read
    · rename_i both
      rw [Bool.and_eq_true] at both
      cases read
      refine ⟨by simpa using both.1, ?_⟩
      intro query same
      cases same
      simpa using both.2
    · contradiction

/-- An empty path is written as a slash. -/
def rooted (place : PathQuery) : PathQuery :=
  { place with
    path := if place.path.toList.isEmpty then "/" else place.path }

theorem IsValid.rooted {place : PathQuery} (valid : place.IsValid) :
    place.rooted.IsValid := by
  refine ⟨?_, valid.query⟩
  rw [PathQuery.rooted]
  split
  · change "/".toList.all isPathChar = true
    decide
  · exact valid.path

/-- The text of a path and a query has one reading. -/
theorem ofText?_text {place : PathQuery} (valid : place.IsValid) :
    ofText? place.text.toList = some place.rooted := by
  have isPath := valid.rooted.path
  have noMark := not_mem_of_all isPath '?' rfl
  have noHash := not_mem_of_all isPath '#' rfl
  cases asked : place.query? with
  | none =>
      have written : place.text = place.rooted.path := by
        simp [text, PathQuery.rooted, asked]
      rw [written, ofText?, takeWhile_ne_of_not_mem noHash,
        cutFirst?_eq_none noMark]
      simp only [isPath, if_true, String.ofList_toList]
      simp [PathQuery.rooted, asked]
  | some query =>
      have isQuery := valid.query query asked
      have written : place.text.toList =
          place.rooted.path.toList ++ '?' :: query.toList := by
        simp [text, PathQuery.rooted, asked]
      have plain : '#' ∉ place.rooted.path.toList ++ '?' :: query.toList := by
        have noHash' := not_mem_of_all isQuery '#' rfl
        simp [noHash, noHash']
      rw [written, ofText?, takeWhile_ne_of_not_mem plain,
        cutFirst?_append noMark]
      simp only [isPath, isQuery, Bool.and_self, if_true,
        String.ofList_toList]
      simp [PathQuery.rooted, asked]

end PathQuery

namespace RequestTarget

/-- The path and the query that a target asks for.  A target that is an
authority alone asks for a slash. -/
def place : RequestTarget → PathQuery
  | .origin place => place.rooted
  | .absolute _ _ place => place.rooted
  | .authority _ => ⟨"/", none⟩
  | .asterisk => ⟨"*", none⟩

theorem ofText?_slash : PathQuery.ofText? "/".toList = some ⟨"/", none⟩ := by
  decide

theorem ofText?_star : PathQuery.ofText? "*".toList = some ⟨"*", none⟩ := by
  decide

theorem exists_of_absolute? {scheme rest : List Char} {target : RequestTarget}
    (read : absolute? scheme rest = some target) :
    ∃ scheme named place, target = .absolute scheme named place ∧
      place.IsValid := by
  rw [absolute?] at read
  split at read
  · contradiction
  · obtain ⟨place, placed, rfl⟩ := Option.map_eq_some_iff.mp read
    exact ⟨_, _, place, rfl, PathQuery.isValid_of_ofText? placed⟩

/-- What a target that was read asks for can be read again. -/
theorem ofText?_pathQuery {text : String} {target : RequestTarget}
    (read : ofText? text = some target) :
    PathQuery.ofText? target.pathQuery.toList = some target.place := by
  rw [ofText?] at read
  split at read
  · contradiction
  split at read
  · contradiction
  · cases read
    exact ofText?_star
  · obtain ⟨place, placed, rfl⟩ := Option.map_eq_some_iff.mp read
    exact PathQuery.ofText?_text (PathQuery.isValid_of_ofText? placed)
  · split at read
    · obtain ⟨_, _, place, rfl, valid⟩ := exists_of_absolute? read
      exact PathQuery.ofText?_text valid
    · split at read
      · cases read
        exact ofText?_slash
      · contradiction

end RequestTarget

end VirtualHosts.Http
