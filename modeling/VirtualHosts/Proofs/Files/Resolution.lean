import Mathlib
import VirtualHosts.Files.Tree

/-!
Where a path leads in a file tree, as rules: every link is replaced by its
target, however many there are.  A search keeps to these rules, and they never
lead to two places.
-/

namespace VirtualHosts.Files.Tree

/-- A piece of a path that stands for an entry. -/
structure IsName (piece : String) : Prop where
  nonempty : piece ≠ ""
  notHere : piece ≠ "."
  notUp : piece ≠ ".."

/-- Where the target of a link in a directory starts. -/
def linkStart (directory : Location) (target : Path) : Location :=
  if target.isAbsolute then [] else directory

def linkPieces (target : Path) : List String :=
  target.pieces.map String.ofList

inductive Leads (tree : Tree) : Location → List String → Location → Prop
  | here (start : Location) : Leads tree start [] start
  | idle {start finish : Location} {piece : String} {rest : List String}
      (directory : tree.isDirectory start = true)
      (isIdle : piece = "" ∨ piece = ".")
      (later : Leads tree start rest finish) :
      Leads tree start (piece :: rest) finish
  | up {start finish : Location} {rest : List String}
      (directory : tree.isDirectory start = true)
      (later : Leads tree start.dropLast rest finish) :
      Leads tree start (".." :: rest) finish
  | file {start : Location} {piece : String} {content : List UInt8}
      (directory : tree.isDirectory start = true) (isName : IsName piece)
      (entry : tree.entry? (start ++ [piece]) = some (.file content)) :
      Leads tree start [piece] (start ++ [piece])
  | enter {start finish : Location} {piece : String} {rest : List String}
      (directory : tree.isDirectory start = true) (isName : IsName piece)
      (entry : tree.entry? (start ++ [piece]) = some .directory)
      (later : Leads tree (start ++ [piece]) rest finish) :
      Leads tree start (piece :: rest) finish
  | link {start finish : Location} {piece : String} {rest : List String}
      {target : Path} (directory : tree.isDirectory start = true)
      (isName : IsName piece)
      (entry : tree.entry? (start ++ [piece]) = some (.link target))
      (later : Leads tree (linkStart start target)
        (linkPieces target ++ rest) finish) :
      Leads tree start (piece :: rest) finish

theorem isName_of_tests {piece : String}
    (notIdle : ¬(decide (piece = "") || decide (piece = ".")) = true)
    (notUp : ¬piece = "..") : IsName piece := by
  simp only [Bool.or_eq_true, decide_eq_true_eq, not_or] at notIdle
  exact ⟨notIdle.1, notIdle.2, notUp⟩

theorem leads_of_follow {tree : Tree} {links : Nat}
    {start finish : Location} {path : List String}
    (found : tree.follow links start path = .ok finish) :
    tree.Leads start path finish := by
  -- Each step of the search is a rule; the cases that stop it find nothing.
  fun_induction Tree.follow tree links start path with
  | case1 =>
      cases found
      exact .here _
  | case2 => contradiction
  | case3 links start piece rest directory isIdle ih =>
      exact .idle (by simpa using directory) (by simpa using isIdle) (ih found)
  | case4 links start rest directory notIdle ih =>
      exact .up (by simpa using directory) (ih found)
  | case5 => contradiction
  | case6 => contradiction
  | case7 links start piece directory notIdle notUp fits next content entry =>
      rw [← Except.ok.inj found]
      exact .file (by simpa using directory) (isName_of_tests notIdle notUp)
        entry
  | case8 => contradiction
  | case9 links start piece rest directory notIdle notUp fits next entry ih =>
      exact .enter (by simpa using directory) (isName_of_tests notIdle notUp)
        entry (ih found)
  | case10 => contradiction
  | case11 start piece rest directory notIdle notUp fits next target entry
      links begins ih =>
      exact .link (by simpa using directory) (isName_of_tests notIdle notUp)
        entry (ih found)

theorem not_isName_of_idle {piece : String}
    (isIdle : piece = "" ∨ piece = ".") : ¬IsName piece := by
  intro isName
  rcases isIdle with rfl | rfl
  · exact isName.nonempty rfl
  · exact isName.notHere rfl

theorem not_isName_up : ¬IsName ".." :=
  fun isName => isName.notUp rfl

theorem Leads.unique {tree : Tree} {start finish other : Location}
    {path : List String} (first : tree.Leads start path finish)
    (second : tree.Leads start path other) : finish = other := by
  induction first with
  | here start =>
      cases second
      rfl
  | idle directory isIdle later ih =>
      cases second with
      | idle _ _ later => exact ih later
      | up => simp at isIdle
      | file _ isName => exact absurd isName (not_isName_of_idle isIdle)
      | enter _ isName => exact absurd isName (not_isName_of_idle isIdle)
      | link _ isName => exact absurd isName (not_isName_of_idle isIdle)
  | up directory later ih =>
      cases second with
      | idle _ isIdle => simp at isIdle
      | up _ later => exact ih later
      | file _ isName => exact absurd isName not_isName_up
      | enter _ isName => exact absurd isName not_isName_up
      | link _ isName => exact absurd isName not_isName_up
  | file directory isName entry =>
      cases second with
      | idle _ isIdle => exact absurd isName (not_isName_of_idle isIdle)
      | up => exact absurd isName not_isName_up
      | file => rfl
      | enter _ _ entry' => simp [entry] at entry'
      | link _ _ entry' => simp [entry] at entry'
  | enter directory isName entry later ih =>
      cases second with
      | idle _ isIdle => exact absurd isName (not_isName_of_idle isIdle)
      | up => exact absurd isName not_isName_up
      | file _ _ entry' => simp [entry] at entry'
      | enter _ _ _ later => exact ih later
      | link _ _ entry' => simp [entry] at entry'
  | link directory isName entry later ih =>
      cases second with
      | idle _ isIdle => exact absurd isName (not_isName_of_idle isIdle)
      | up => exact absurd isName not_isName_up
      | file _ _ entry' => simp [entry] at entry'
      | enter _ _ entry' => simp [entry] at entry'
      | link _ _ entry' later =>
          rw [entry] at entry'
          cases entry'
          exact ih later

end VirtualHosts.Files.Tree
