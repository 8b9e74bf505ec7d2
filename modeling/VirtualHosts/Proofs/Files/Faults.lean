import Mathlib
import VirtualHosts.Proofs.Files.Containment

/-!
Files that are found and cannot be opened.  A fault of the system is answered
exactly if the file that a path leads to has one, and any file that is served
could have one: whatever leads to it is looked at all the same.
-/

namespace VirtualHosts.Files

open VirtualHosts.Http

/-! A tree with one more fault.  No search looks at faults. -/

namespace Tree

def withFault (tree : Tree) (location : Location) (fault : OpenFault) : Tree :=
  { tree with faults := (location, fault) :: tree.faults }

section

variable (tree : Tree) (place : Location) (fault : OpenFault)

theorem fault?_withFault :
    (tree.withFault place fault).fault? place = some fault := by
  simp [fault?, withFault]

theorem isDirectory_withFault (location : Location) :
    (tree.withFault place fault).isDirectory location =
      tree.isDirectory location := rfl

theorem entry?_withFault (location : Location) :
    Tree.entry? (tree.withFault place fault) location =
      tree.entry? location := rfl

theorem follow_withFault (links : Nat) (start : Location)
    (path : List String) :
    (tree.withFault place fault).follow links start path =
      tree.follow links start path := by
  -- Both searches see the same entries, so they take the same branch.
  fun_induction Tree.follow tree links start path with
  | case1 => rw [Tree.follow]
  | case11 start piece rest directory notIdle notUp fits next target entry
      links begins ih =>
      rw [Tree.follow]
      simp only [next] at entry
      simp only [isDirectory_withFault, entry?_withFault, directory, notIdle,
        notUp, fits, entry, Bool.false_eq_true, if_false]
      exact ih
  | _ =>
      rw [Tree.follow]
      simp +zetaDelta only [isDirectory_withFault, entry?_withFault, *,
        Bool.false_eq_true, if_true, if_false]

theorem resolve_withFault (path : Path) :
    (tree.withFault place fault).resolve path = tree.resolve path := by
  simp only [resolve, follow_withFault]
  rfl

theorem below_withFault (directory : Location) (names : List String) :
    (tree.withFault place fault).below directory names =
      tree.below directory names := by
  simp only [below, follow_withFault, isDirectory_withFault]

theorem reach_withFault (location : Location) :
    (tree.withFault place fault).reach location = tree.reach location := by
  simp only [reach, follow_withFault]

theorem look_withFault (location : Location) :
    (tree.withFault place fault).look location = tree.look location := by
  simp only [look, reach_withFault]
  rfl

end

end Tree

theorem locate_withFault (tree : Tree) (place : Location) (fault : OpenFault)
    (root : Path) (names : List String) (path : String) :
    locate (tree.withFault place fault) root names path =
      locate tree root names path := by
  simp only [locate, entrance, Tree.resolve_withFault, Tree.below_withFault,
    Tree.look_withFault]

/-! Faults as answers. -/

theorem openRefusal_eq_unreadable_iff {path reason : String}
    {fault : OpenFault} :
    openRefusal path fault = .unreadable reason ↔
      fault ≠ .path .missing ∧ fault.message = reason := by
  rw [openRefusal]
  split
  · rename_i gone
    simp [gone]
  · rename_i present
    simp [present]

theorem RefusesPath.ne_unreadable {path reason : String} :
    ¬RefusesPath path (.unreadable reason) := by
  simp [RefusesPath]

/-- The system's fault is the answer exactly if the file that the path leads
to is there and has that fault. -/
theorem serve_eq_unreadable_iff {tree : Tree} {root : Path}
    {method path reason : String} :
    serve tree root method path = .error (.unreadable reason) ↔
      MayServe method ∧ ∃ names location finish fault,
        segments path = .ok names ∧
        locate tree root names path = .ok location ∧
        tree.reach location = .ok finish ∧
        tree.fault? finish = some fault ∧
        fault ≠ .path .missing ∧ fault.message = reason := by
  rw [serve_eq_error_iff, openFor_eq_error_iff]
  constructor
  · intro failed
    rcases failed with
      ⟨_, other⟩ | ⟨allowed, unnamed | ⟨names, named, refused⟩⟩
    · contradiction
    · exact absurd (refusesPath_of_segments unnamed)
        RefusesPath.ne_unreadable
    · rcases openNamed_cases tree root names path with
        ⟨refusal, unlocated, same⟩ | ⟨location, finish, _, located, reached, _,
          made⟩
      · cases same.symm.trans refused
        exact absurd (refusesPath_of_locate unlocated)
          RefusesPath.ne_unreadable
      · split at made
        · cases made.symm.trans refused
        · rename_i fault faulty
          have kind := Except.error.inj (made.symm.trans refused)
          exact ⟨allowed, names, location, finish, fault, named, located,
            reached, faulty, openRefusal_eq_unreadable_iff.mp kind⟩
  · intro holds
    obtain ⟨allowed, names, location, finish, fault, named, located, reached,
      faulty, kind⟩ := holds
    refine Or.inr ⟨allowed, Or.inr ⟨names, named, ?_⟩⟩
    rw [openNamed_of_fault located reached faulty,
      openRefusal_eq_unreadable_iff.mpr kind]

/-- The secret behind the index link, when it may not be read. -/
theorem serve_unreadable_leakyTree :
    serve (leakyTree.withFault ["secret"] (.system "Permission denied"))
        ⟨"/root"⟩ "GET" "/" =
      .error (.unreadable "Permission denied") := by
  refine serve_eq_unreadable_iff.mpr ⟨Or.inl rfl, [], ["root", indexName],
    ["secret"], .system "Permission denied", by decide, ?_, ?_,
    Tree.fault?_withFault _ _ _, by decide, rfl⟩
  · rw [locate_withFault]
    exact locate_leakyTree
  · rw [Tree.reach_withFault]
    exact reach_leakyTree_index

/-- The file that is served is located with a fault as it was without, and then
the fault is the answer. -/
theorem serve_withFault {tree : Tree} {root : Path} {method path : String}
    {response : Response}
    (served : serve tree root method path = .ok response) :
    ∃ base names finish, tree.resolve root = .ok base ∧
      segments path = .ok names ∧ tree.Answers base names finish ∧
      ∀ fault, serve (tree.withFault finish fault) root method path =
        .error (openRefusal path fault) := by
  obtain ⟨opened, opens, _⟩ := serve_eq_ok_iff.mp served
  obtain ⟨allowed, names, named, opens⟩ := openFor_eq_ok_iff.mp opens
  have located := (openNamed_eq_ok_iff.mp opens).1
  obtain ⟨finish, _, reached, _⟩ := reach_of_locate located
  obtain ⟨base, resolved, answers, _⟩ := answers_of_locate located reached
  refine ⟨base, names, finish, resolved, named, answers, fun fault => ?_⟩
  have refused : openNamed (tree.withFault finish fault) root names path =
      .error (openRefusal path fault) := by
    rw [← locate_withFault tree finish fault] at located
    rw [← tree.reach_withFault finish fault] at reached
    exact openNamed_of_fault located reached
      (tree.fault?_withFault finish fault)
  exact serve_eq_error_iff.mpr (openFor_eq_error_iff.mpr
    (Or.inr ⟨allowed, Or.inr ⟨names, named, refused⟩⟩))

end VirtualHosts.Files
