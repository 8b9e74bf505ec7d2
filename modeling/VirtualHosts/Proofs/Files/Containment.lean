import Mathlib
import VirtualHosts.Proofs.Files.Opening

/-!
What is served lies under the root, with one exception: the location of a
directory is compared with the root, but the index file in it may be a link
that leads out again.
-/

namespace VirtualHosts.Files

open VirtualHosts.Header
open VirtualHosts.Http
open VirtualHosts.Text

namespace Tree

theorem leads_of_below {tree : Tree} {directory finish : Location}
    {names : List String} (found : tree.below directory names = .ok finish) :
    tree.Leads directory names finish := by
  rw [below] at found
  split at found
  · exact leads_of_follow found
  · contradiction

theorem Leads.of_name {tree : Tree} {start finish : Location}
    {piece : String} (isName : IsName piece)
    (leads : tree.Leads start [piece] finish) :
    finish = start ++ [piece] ∨
      ∃ target, tree.entry? (start ++ [piece]) = some (.link target) ∧
        tree.Leads (linkStart start target) (linkPieces target) finish := by
  cases leads with
  | idle _ isIdle => exact absurd isName (not_isName_of_idle isIdle)
  | up => exact absurd isName not_isName_up
  | file => exact Or.inl rfl
  | enter _ _ _ later =>
      cases later
      exact Or.inl rfl
  | link _ _ entry later =>
      rw [List.append_nil] at later
      exact Or.inr ⟨_, entry, later⟩

/-- The regular files that names below a base are answered from: the one that
they lead to, or the index file of the directory that they lead to. -/
inductive Answers (tree : Tree) (base : Location) (names : List String) :
    Location → Prop
  | file {finish : Location} {content : List UInt8}
      (leads : tree.Leads base names finish)
      (entry : tree.entry? finish = some (.file content)) :
      Answers tree base names finish
  | index {directory finish : Location}
      (leads : tree.Leads base names directory)
      (isDirectory : tree.isDirectory directory = true)
      (index : tree.Leads directory [indexName] finish) :
      Answers tree base names finish

/-- The names lead to a directory, and the index file in it is a link that
leads to a place outside the base. -/
def IndexEscapes (tree : Tree) (base : Location) (names : List String) :
    Prop :=
  ∃ directory target finish, tree.Leads base names directory ∧
    tree.isDirectory directory = true ∧
    tree.entry? (directory ++ [indexName]) = some (.link target) ∧
    tree.Leads (linkStart directory target) (linkPieces target) finish ∧
    ¬base <+: finish

theorem isName_indexName : IsName indexName := by
  constructor <;> decide

end Tree

/-- The file that is opened inside a directory lies outside a base above the
directory exactly if the index link in the directory leads out of the base. -/
theorem Tree.outside_iff_of_index {tree : Tree}
    {base directory finish : Location} {names : List String}
    (leads : tree.Leads base names directory)
    (isDirectory : tree.isDirectory directory = true)
    (inside : base <+: directory)
    (index : tree.Leads directory [indexName] finish) :
    ¬base <+: finish ↔ tree.IndexEscapes base names := by
  constructor
  · intro outside
    rcases index.of_name Tree.isName_indexName with
      rfl | ⟨target, link, later⟩
    · exact absurd (inside.trans (List.prefix_append directory _)) outside
    · exact ⟨directory, target, finish, leads, isDirectory, link, later,
        outside⟩
  · intro holds
    obtain ⟨same, target, other, leads', _, link, later, outside⟩ := holds
    have sameDirectory := leads'.unique leads
    subst sameDirectory
    have index' : tree.Leads same [indexName] other :=
      .link isDirectory Tree.isName_indexName link (by simpa using later)
    rwa [index.unique index']

theorem Tree.not_indexEscapes_of_file {tree : Tree} {base finish : Location}
    {names : List String} {content : List UInt8}
    (leads : tree.Leads base names finish)
    (entry : tree.entry? finish = some (.file content)) :
    ¬tree.IndexEscapes base names := by
  intro holds
  obtain ⟨directory, _, _, leads', isDirectory, _⟩ := holds
  -- Names that lead to a file do not lead to a directory as well.
  rw [leads'.unique leads, Tree.isDirectory, entry] at isDirectory
  simp at isDirectory

/-- The file that is found is one that answers the names, and it lies outside
the base exactly if it was reached by an index link that does. -/
theorem answers_of_locate {tree : Tree} {root : Path} {names : List String}
    {path : String} {location finish : Location}
    (located : locate tree root names path = .ok location)
    (reached : tree.reach location = .ok finish) :
    ∃ base, tree.resolve root = .ok base ∧ tree.Answers base names finish ∧
      (¬base <+: finish ↔ tree.IndexEscapes base names) := by
  obtain ⟨base, place, resolved, below, inside, entered⟩ :=
    locate_eq_ok_iff.mp located
  have leads := Tree.leads_of_below below
  obtain ⟨_, basePlaced⟩ := Tree.placed_of_resolve resolved
  obtain ⟨handle, placed⟩ := Tree.placed_of_below
    (basePlaced.grounded_of_below below) below
  refine ⟨base, resolved, ?_⟩
  rcases entrance_eq_ok_iff.mp entered with
    ⟨content, seen, rfl⟩ | ⟨seen, content, _, rfl⟩
  · obtain ⟨place', reached', isFile⟩ := Tree.look_eq_ok_iff.mp seen
    have entry := Tree.endOf_eq_file_iff.mp isFile
    rw [placed.reach_eq reached'] at entry
    rw [placed.reach_eq reached]
    refine ⟨.file leads entry, ?_⟩
    simp only [inside, not_true_eq_false, false_iff]
    exact Tree.not_indexEscapes_of_file leads entry
  · obtain ⟨place', reached', isDirectory⟩ := Tree.look_eq_ok_iff.mp seen
    rw [placed.reach_eq reached', placed.endOf_eq] at isDirectory
    subst isDirectory
    cases placed with
    | directory grounded =>
        have index := Tree.leads_of_follow (grounded.follow_of_reach reached)
        exact ⟨.index leads grounded.isDirectory index,
          Tree.outside_iff_of_index leads grounded.isDirectory inside index⟩

/-- What is opened is the file that answers the names. -/
theorem answers_of_openNamed {tree : Tree} {root : Path}
    {names : List String} {path : String} {opened : Opened}
    (opens : openNamed tree root names path = .ok opened) :
    ∃ base finish content, tree.resolve root = .ok base ∧
      tree.Answers base names finish ∧
      tree.entry? finish = some (.file content) ∧
      opened.handle = .file content ∧
      (¬base <+: finish ↔ tree.IndexEscapes base names) := by
  rcases openNamed_cases tree root names path with
    ⟨_, _, refused⟩ | ⟨location, finish, content, located, reached, entry, made⟩
  · cases refused.symm.trans opens
  · obtain ⟨base, resolved, answers, outside⟩ :=
      answers_of_locate located reached
    split at made
    · cases made.symm.trans opens
      exact ⟨base, finish, content, resolved, answers, entry, rfl, outside⟩
    · cases made.symm.trans opens

/-- A file that is served is the one that the path leads to, with its bytes and
its length.  It lies outside the root exactly if the path leads to a directory
whose index file is a link out of the root. -/
theorem serve_outside_root_iff {tree : Tree} {root : Path}
    {method path : String} {response : Response}
    (served : serve tree root method path = .ok response) :
    ∃ base names finish content,
      tree.resolve root = .ok base ∧ segments path = .ok names ∧
      tree.Answers base names finish ∧
      tree.entry? finish = some (.file content) ∧
      response.status = 200 ∧
      response.fields.values .contentLength =
        [.literal (decimal content.length)] ∧
      response.body = (if method = "GET" then content else []) ∧
      (¬base <+: finish ↔ tree.IndexEscapes base names) := by
  obtain ⟨opened, opens, rfl⟩ := serve_eq_ok_iff.mp served
  obtain ⟨_, names, named, opens⟩ := openFor_eq_ok_iff.mp opens
  obtain ⟨base, finish, content, resolved, answers, entry, handle, outside⟩ :=
    answers_of_openNamed opens
  have content_eq : opened.handle.content = content := by
    rw [handle]
    rfl
  subst content_eq
  exact ⟨base, names, finish, opened.handle.content, resolved, named, answers,
    entry, rfl, by simp [Opened.response], by simp [Opened.response], outside⟩

/-- A root with an index file that is a link out of it. -/
def leakyTree : Tree where
  entries :=
    [(["root"], .directory), (["secret"], .file [115]),
      (["root", "index.html"], .link ⟨"../secret"⟩)]
  current := []

theorem resolve_leakyTree : leakyTree.resolve ⟨"/root"⟩ = .ok ["root"] := by
  have fits : ¬Tree.nameLimit < "root".utf8ByteSize := by decide
  simp [leakyTree, Tree.resolve, Path.isAbsolute, Path.isEmpty, Path.pieces,
    pieces, Tree.follow, Tree.isDirectory, Tree.entry?, fits]

theorem reach_leakyTree_root : leakyTree.reach ["root"] = .ok ["root"] := by
  have fits : ¬Tree.nameLimit < "root".utf8ByteSize := by decide
  refine Tree.reach_eq_ok_iff.mpr ⟨by decide, ?_⟩
  simp [leakyTree, Tree.follow, Tree.isDirectory, Tree.entry?, fits]

theorem reach_leakyTree_index :
    leakyTree.reach ["root", indexName] = .ok ["secret"] := by
  have fits : ¬Tree.nameLimit < "root".utf8ByteSize := by decide
  have fits' : ¬Tree.nameLimit < "secret".utf8ByteSize := by decide
  have fits'' : ¬Tree.nameLimit < "index.html".utf8ByteSize := by decide
  refine Tree.reach_eq_ok_iff.mpr ⟨by decide, ?_⟩
  simp [leakyTree, Tree.follow, Tree.isDirectory, Tree.entry?, Tree.linkLimit,
    indexName, fits, fits', fits'', Path.isAbsolute, Path.pieces, pieces]

theorem locate_leakyTree :
    locate leakyTree ⟨"/root"⟩ [] "/" = .ok ["root", indexName] := by
  have below : leakyTree.below ["root"] [] = .ok ["root"] := by
    simp [leakyTree, Tree.below, Tree.follow, Tree.isDirectory, Tree.entry?]
  have directory : leakyTree.look ["root"] = .ok .directory :=
    Tree.look_eq_ok_iff.mpr ⟨_, reach_leakyTree_root, by decide⟩
  have index : leakyTree.look ["root", indexName] = .ok (.file [115]) :=
    Tree.look_eq_ok_iff.mpr ⟨_, reach_leakyTree_index, by decide⟩
  exact locate_eq_ok_iff.mpr ⟨_, _, resolve_leakyTree, below,
    List.prefix_refl _, entrance_eq_ok_iff.mpr
      (Or.inr ⟨directory, _, index, rfl⟩)⟩

theorem serve_leakyTree :
    serve leakyTree ⟨"/root"⟩ "GET" "/" =
      .ok (Opened.response ⟨["root", indexName], .file [115]⟩ true) := by
  have opens : openNamed leakyTree ⟨"/root"⟩ [] "/" =
      .ok ⟨["root", indexName], .file [115]⟩ :=
    openNamed_of_no_fault locate_leakyTree reach_leakyTree_index (by decide)
      (by decide)
  exact serve_eq_ok_iff.mpr
    ⟨_, openFor_eq_ok_iff.mpr ⟨Or.inl rfl, [], by decide, opens⟩, by simp⟩

theorem serve_outside_root_leakyTree :
    serve leakyTree ⟨"/root"⟩ "GET" "/" =
        .ok (Opened.response ⟨["root", indexName], .file [115]⟩ true) ∧
      ∃ base names finish content,
        leakyTree.resolve ⟨"/root"⟩ = .ok base ∧
        segments "/" = .ok names ∧
        leakyTree.Answers base names finish ∧
        leakyTree.entry? finish = some (.file content) ∧
        (¬base <+: finish ↔ leakyTree.IndexEscapes base names) := by
  refine ⟨serve_leakyTree, ?_⟩
  obtain ⟨base, names, finish, content, resolved, named, answers, entry, _, _,
    _, outside⟩ := serve_outside_root_iff serve_leakyTree
  exact ⟨base, names, finish, content, resolved, named, answers, entry,
    outside⟩

/-- The file is served although it is not under the root. -/
theorem serve_index_link_out_of_root :
    ∃ response, serve leakyTree ⟨"/root"⟩ "GET" "/" = .ok response ∧
      response.body = [115] ∧
      leakyTree.resolve ⟨"/root"⟩ = .ok ["root"] ∧
      segments "/" = .ok [] ∧
      leakyTree.Answers ["root"] [] ["secret"] ∧
      leakyTree.entry? ["secret"] = some (.file [115]) ∧
      ¬["root"] <+: ["secret"] := by
  have link :
      leakyTree.entry? ["root", indexName] = some (.link ⟨"../secret"⟩) := by
    decide
  have file : leakyTree.entry? ["secret"] = some (.file [115]) := by decide
  refine ⟨_, serve_leakyTree, rfl, resolve_leakyTree, by decide, ?_, file,
    by decide⟩
  refine .index (.here ["root"]) (by decide) ?_
  refine .link (by decide) Tree.isName_indexName link ?_
  exact .up (by decide)
    (.file (by decide) ⟨by decide, by decide, by decide⟩ file)

end VirtualHosts.Files
