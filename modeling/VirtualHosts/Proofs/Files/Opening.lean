import Mathlib
import VirtualHosts.Proofs.Files.Resolution
import VirtualHosts.Proofs.Files.Serving

/-!
Opening what was found.  A location that a search ends at is reached from the
top through directories alone, so its names lead to it again when it is looked
at and when it is opened.  What is opened is the file that was looked at, unless
that file has a fault.
-/

namespace VirtualHosts.Files

open VirtualHosts.Http

namespace Tree

/-- A directory that its names lead to from the top without a link. -/
inductive Grounded (tree : Tree) : Location → Prop
  | top : Grounded tree []
  | inside {directory : Location} {name : String}
      (grounded : Grounded tree directory) (isName : IsName name)
      (fits : ¬nameLimit < name.utf8ByteSize)
      (isDirectory : tree.isDirectory (directory ++ [name]) = true) :
      Grounded tree (directory ++ [name])

/-- What stands at a location that its names lead to without a link. -/
inductive Placed (tree : Tree) : Location → Handle → Prop
  | directory {location : Location} (grounded : tree.Grounded location) :
      Placed tree location .directory
  | file {directory : Location} {name : String} {content : List UInt8}
      (grounded : tree.Grounded directory) (isName : IsName name)
      (fits : ¬nameLimit < name.utf8ByteSize)
      (entry : tree.entry? (directory ++ [name]) = some (.file content)) :
      Placed tree (directory ++ [name]) (.file content)

variable {tree : Tree} {directory location : Location}

theorem Grounded.isDirectory (grounded : tree.Grounded location) :
    tree.isDirectory location = true := by
  cases grounded with
  | top => simp [Tree.isDirectory, entry?]
  | inside _ _ _ isDirectory => exact isDirectory

theorem Grounded.dropLast (grounded : tree.Grounded location) :
    tree.Grounded location.dropLast := by
  cases grounded with
  | top => exact .top
  | inside grounded => rwa [List.dropLast_concat]

theorem Grounded.linkStart (grounded : tree.Grounded directory)
    (target : Path) : tree.Grounded (linkStart directory target) := by
  rw [Tree.linkStart]
  split
  · exact .top
  · exact grounded

/-- A search from a grounded directory ends at a place. -/
theorem placed_of_follow {links : Nat} {start finish : Location}
    {path : List String} (grounded : tree.Grounded start)
    (found : tree.follow links start path = .ok finish) :
    ∃ handle, tree.Placed finish handle := by
  -- Every directory on the way is grounded: a step up takes a name away, a step
  -- down adds one, and a link starts from where it stands or from the top.
  fun_induction Tree.follow tree links start path with
  | case1 =>
      cases found
      exact ⟨_, .directory grounded⟩
  | case2 => contradiction
  | case3 links start piece rest directory isIdle ih => exact ih grounded found
  | case4 links start rest directory notIdle ih =>
      exact ih grounded.dropLast found
  | case5 => contradiction
  | case6 => contradiction
  | case7 links start piece directory notIdle notUp fits next content entry =>
      rw [← Except.ok.inj found]
      exact ⟨_, .file grounded (isName_of_tests notIdle notUp) fits entry⟩
  | case8 => contradiction
  | case9 links start piece rest directory notIdle notUp fits next entry ih =>
      have isDirectory : tree.isDirectory next = true := by
        simp [Tree.isDirectory, entry]
      exact ih (.inside grounded (isName_of_tests notIdle notUp) fits
        isDirectory) found
  | case10 => contradiction
  | case11 start piece rest directory notIdle notUp fits next target entry
      links begins ih => exact ih (grounded.linkStart target) found

/-- The names of a directory can be left out of a search from the top. -/
theorem Grounded.follow_append (grounded : tree.Grounded directory)
    (links : Nat) (rest : List String) :
    tree.follow links [] (directory ++ rest) =
      tree.follow links directory rest := by
  induction grounded generalizing rest with
  | top => rfl
  | @inside front name grounded isName fits isDirectory ih =>
      have entry : tree.entry? (front ++ [name]) = some .directory := by
        simpa [Tree.isDirectory] using isDirectory
      rw [List.append_assoc, ih, List.singleton_append, Tree.follow]
      simp [grounded.isDirectory, isName.nonempty, isName.notHere,
        isName.notUp, fits, entry]

theorem Grounded.follow_self (grounded : tree.Grounded location)
    (links : Nat) : tree.follow links [] location = .ok location := by
  have whole := grounded.follow_append links []
  rwa [List.append_nil, Tree.follow] at whole

theorem Placed.endOf_eq {handle : Handle}
    (placed : tree.Placed location handle) : tree.endOf location = handle := by
  cases placed with
  | directory grounded =>
      have entry : tree.entry? location = some .directory := by
        simpa [Tree.isDirectory] using grounded.isDirectory
      simp [endOf, fileAt?, entry]
  | file _ _ _ entry => simp [endOf, fileAt?, entry]

theorem Placed.follow_self {handle : Handle}
    (placed : tree.Placed location handle) :
    tree.follow linkLimit [] location = .ok location := by
  cases placed with
  | directory grounded => exact grounded.follow_self linkLimit
  | @file front name content grounded isName fits entry =>
      rw [grounded.follow_append, Tree.follow]
      simp [grounded.isDirectory, isName.nonempty, isName.notHere,
        isName.notUp, fits, entry]

theorem placed_of_below {base : Location} {names : List String}
    (grounded : tree.Grounded base)
    (found : tree.below base names = .ok location) :
    ∃ handle, tree.Placed location handle := by
  rw [below, if_pos grounded.isDirectory] at found
  exact placed_of_follow grounded found

theorem Placed.grounded_of_below {base : Location} {names : List String}
    {handle : Handle} (placed : tree.Placed base handle)
    (found : tree.below base names = .ok location) :
    tree.Grounded base := by
  rw [below] at found
  split at found
  · rename_i isDirectory
    cases placed with
    | directory grounded => exact grounded
    | file _ _ _ entry => simp [Tree.isDirectory, entry] at isDirectory
  · contradiction

theorem placed_of_resolve {root : Path}
    (found : tree.resolve root = .ok location) :
    ∃ handle, tree.Placed location handle := by
  simp only [Tree.resolve] at found
  split at found
  · contradiction
  · split at found
    · contradiction
    · exact placed_of_follow .top found

/-! Looking and opening. -/

theorem reach_eq_ok_iff {finish : Location} :
    tree.reach location = .ok finish ↔
      ¬pathLimit < location.text.utf8ByteSize ∧
        tree.follow linkLimit [] location = .ok finish := by
  rw [reach]
  split
  · rename_i long
    simp [long]
  · rename_i fits
    simp [fits]

theorem look_eq_ok_iff {handle : Handle} :
    tree.look location = .ok handle ↔
      ∃ finish, tree.reach location = .ok finish ∧
        tree.endOf finish = handle := by
  rw [look]
  cases tree.reach location <;> simp [Except.map]

theorem endOf_eq_file_iff {content : List UInt8} :
    tree.endOf location = .file content ↔
      tree.entry? location = some (.file content) := by
  rw [endOf, fileAt?]
  cases tree.entry? location with
  | none => simp
  | some entry => cases entry <;> simp

theorem Placed.reach_eq {finish : Location} {handle : Handle}
    (placed : tree.Placed location handle)
    (reached : tree.reach location = .ok finish) : finish = location := by
  have found := (reach_eq_ok_iff.mp reached).2
  rw [placed.follow_self] at found
  exact (Except.ok.inj found).symm

theorem Grounded.follow_of_reach {finish : Location} {names : List String}
    (grounded : tree.Grounded directory)
    (reached : tree.reach (directory ++ names) = .ok finish) :
    tree.follow linkLimit directory names = .ok finish := by
  rw [← grounded.follow_append]
  exact (reach_eq_ok_iff.mp reached).2

theorem openAt_of_reach {finish : Location}
    (reached : tree.reach location = .ok finish) :
    tree.openAt location = tree.handleOf finish := by
  rw [openAt, reached]
  rfl

theorem handleOf_of_fault {fault : OpenFault}
    (faulty : tree.fault? location = some fault) :
    tree.handleOf location = .error fault := by
  rw [handleOf, faulty]

theorem handleOf_of_no_fault (sound : tree.fault? location = none) :
    tree.handleOf location = .ok (tree.endOf location) := by
  rw [handleOf, sound]

end Tree

/-! What is opened was looked at, and was seen to be a file. -/

theorem entrance_eq_ok_iff {tree : Tree} {location opening : Location}
    {path : String} :
    entrance tree location path = .ok opening ↔
      (∃ content, tree.look location = .ok (.file content) ∧
        opening = location) ∨
      (tree.look location = .ok .directory ∧
        ∃ content, tree.look (location ++ [indexName]) = .ok (.file content) ∧
          opening = location ++ [indexName]) := by
  rw [entrance]
  split
  · rename_i unseen
    simp [unseen]
  · rename_i content seen
    simp [seen, eq_comm]
  · rename_i seen
    split
    · rename_i content index
      simp [seen, index, eq_comm]
    · rename_i noFile
      simp only [seen, reduceCtorEq, Except.ok.injEq, false_and, exists_false,
        true_and, false_or, false_iff, not_exists, not_and]
      exact fun content index => absurd index (noFile content)

theorem locate_eq_ok_iff {tree : Tree} {root : Path} {names : List String}
    {path : String} {opening : Location} :
    locate tree root names path = .ok opening ↔
      ∃ base location, tree.resolve root = .ok base ∧
        tree.below base names = .ok location ∧ base <+: location ∧
        entrance tree location path = .ok opening := by
  rw [locate]
  cases tree.resolve root with
  | error fault => simp
  | ok base =>
      cases below : tree.below base names with
      | error fault => simp [below]
      | ok location =>
          cases inside : base.isPrefixOf location <;>
            simp [below, inside, ← List.isPrefixOf_iff_prefix]

theorem look_of_entrance {tree : Tree} {location opening : Location}
    {path : String} (entered : entrance tree location path = .ok opening) :
    ∃ content, tree.look opening = .ok (.file content) := by
  rcases entrance_eq_ok_iff.mp entered with
    ⟨content, seen, rfl⟩ | ⟨_, content, seen, rfl⟩
  · exact ⟨content, seen⟩
  · exact ⟨content, seen⟩

/-- The file that a location to open leads to. -/
theorem reach_of_locate {tree : Tree} {root : Path} {names : List String}
    {path : String} {location : Location}
    (located : locate tree root names path = .ok location) :
    ∃ finish content, tree.reach location = .ok finish ∧
      tree.entry? finish = some (.file content) := by
  obtain ⟨_, _, _, _, _, entered⟩ := locate_eq_ok_iff.mp located
  obtain ⟨content, seen⟩ := look_of_entrance entered
  obtain ⟨finish, reached, isFile⟩ := Tree.look_eq_ok_iff.mp seen
  exact ⟨finish, content, reached, Tree.endOf_eq_file_iff.mp isFile⟩

section

variable {tree : Tree} {root : Path} {names : List String} {path : String}
variable {location finish : Location}

theorem openNamed_of_fault
    (located : locate tree root names path = .ok location)
    (reached : tree.reach location = .ok finish) {fault : OpenFault}
    (faulty : tree.fault? finish = some fault) :
    openNamed tree root names path = .error (openRefusal path fault) := by
  refine openNamed_eq_error_iff.mpr (Or.inr ⟨location, fault, located, ?_, rfl⟩)
  rw [Tree.openAt_of_reach reached, Tree.handleOf_of_fault faulty]

theorem openNamed_of_no_fault
    (located : locate tree root names path = .ok location)
    (reached : tree.reach location = .ok finish)
    (sound : tree.fault? finish = none) {content : List UInt8}
    (entry : tree.entry? finish = some (.file content)) :
    openNamed tree root names path = .ok ⟨location, .file content⟩ := by
  refine openNamed_eq_ok_iff.mpr ⟨located, ?_⟩
  rw [Tree.openAt_of_reach reached, Tree.handleOf_of_no_fault sound,
    Tree.endOf_eq_file_iff.mpr entry]

end

/-- Opening ends with a file, unless nothing is found to open or the file that
is found has a fault. -/
theorem openNamed_cases (tree : Tree) (root : Path) (names : List String)
    (path : String) :
    (∃ refusal, locate tree root names path = .error refusal ∧
      openNamed tree root names path = .error refusal) ∨
    ∃ location finish content, locate tree root names path = .ok location ∧
      tree.reach location = .ok finish ∧
      tree.entry? finish = some (.file content) ∧
      match tree.fault? finish with
      | none =>
          openNamed tree root names path = .ok ⟨location, .file content⟩
      | some fault =>
          openNamed tree root names path =
            .error (openRefusal path fault) := by
  cases located : locate tree root names path with
  | error refusal =>
      exact Or.inl ⟨refusal, rfl,
        openNamed_eq_error_iff.mpr (Or.inl located)⟩
  | ok location =>
      obtain ⟨finish, content, reached, entry⟩ := reach_of_locate located
      refine Or.inr ⟨location, finish, content, rfl, reached, entry, ?_⟩
      cases faulty : tree.fault? finish with
      | none => exact openNamed_of_no_fault located reached faulty entry
      | some fault => exact openNamed_of_fault located reached faulty

end VirtualHosts.Files
