import Mathlib
import VirtualHosts.Proofs.Files.Containment

/-!
The methods that files are served for.  GET and HEAD are refused alike, or are
answered from one file with the same fields, and HEAD without its bytes; any
other method is refused before the path is looked at.  Where every file can be
opened, only the method and the path are ever refused.
-/

namespace VirtualHosts.Files

open VirtualHosts.Header
open VirtualHosts.Http
open VirtualHosts.Text

theorem Tree.Answers.unique {tree : Tree} {base finish other : Location}
    {names : List String} (first : tree.Answers base names finish)
    (second : tree.Answers base names other) : finish = other := by
  cases first with
  | file leads entry =>
      cases second with
      | file leads' _ => exact leads.unique leads'
      | index leads' isDirectory _ =>
          rw [leads'.unique leads, Tree.isDirectory, entry] at isDirectory
          simp at isDirectory
  | index leads isDirectory index =>
      cases second with
      | file leads' entry =>
          rw [leads.unique leads', Tree.isDirectory, entry] at isDirectory
          simp at isDirectory
      | index leads' _ index' =>
          cases leads.unique leads'
          exact index.unique index'

/-- The answers to GET and HEAD from a file with this content. -/
structure Twins (content : List UInt8) (get head : Response) : Prop where
  status : get.status = 200
  sameStatus : head.status = get.status
  sameFields : head.fields = get.fields
  length : get.fields.values .contentLength =
    [.literal (decimal content.length)]
  body : get.body = content
  empty : head.body = []

theorem Opened.twins (location : Location) (content : List UInt8) :
    Twins content (response ⟨location, .file content⟩ true)
      (response ⟨location, .file content⟩ false) where
  status := rfl
  sameStatus := rfl
  sameFields := rfl
  length := by simp [response, Handle.content]
  body := rfl
  empty := rfl

/-- Every file that is there can be opened. -/
def Tree.Readable (tree : Tree) : Prop :=
  ∀ location content, tree.entry? location = some (.file content) →
    tree.fault? location = none

/-- A refusal of a path for what the path is, or for a file that cannot be
opened. -/
def RefusesFile (tree : Tree) (path : String) (refusal : Refusal) : Prop :=
  RefusesPath path refusal ∨
    ¬tree.Readable ∧ ∃ reason, refusal = .unreadable reason

theorem refusesFile_of_openNamed {tree : Tree} {root : Path}
    {names : List String} {path : String} {refusal : Refusal}
    (refused : openNamed tree root names path = .error refusal) :
    RefusesFile tree path refusal := by
  rcases openNamed_cases tree root names path with
    ⟨other, unlocated, same⟩ | ⟨_, finish, content, _, _, entry, made⟩
  · cases same.symm.trans refused
    exact Or.inl (refusesPath_of_locate unlocated)
  · cases faulty : tree.fault? finish with
    | none =>
        simp only [faulty] at made
        cases made.symm.trans refused
    | some fault =>
        simp only [faulty] at made
        cases made.symm.trans refused
        rcases openRefusal_cases path fault with gone | unreadable
        · exact Or.inl (Or.inl gone)
        · refine Or.inr ⟨fun readable => ?_, _, unreadable⟩
          cases (readable finish content entry).symm.trans faulty

/-- The path alone decides whether a file is opened. -/
def seek (tree : Tree) (root : Path) (path : String) :
    Except Refusal Opened :=
  segments path >>= fun names => openNamed tree root names path

theorem openFor_eq_seek {method : String} (allowed : MayServe method)
    (tree : Tree) (root : Path) (path : String) :
    openFor tree root method path = seek tree root path :=
  openFor_of_mayServe allowed tree root path

theorem refusesFile_of_seek {tree : Tree} {root : Path} {path : String}
    {refusal : Refusal} (refused : seek tree root path = .error refusal) :
    RefusesFile tree path refusal := by
  rcases bind_eq_error_iff.mp refused with unnamed | ⟨names, _, unopened⟩
  · exact Or.inl (refusesPath_of_segments unnamed)
  · exact refusesFile_of_openNamed unopened

/-- Opening for a request ends with a file or with a refusal that is no fault
of the file system, if the tree has no such faults. -/
theorem openFor_cases (tree : Tree) (root : Path) (method path : String) :
    (∃ location content,
      openFor tree root method path = .ok ⟨location, .file content⟩) ∨
      ∃ refusal, openFor tree root method path = .error refusal ∧
        (refusal = .methodNotAllowed method ∨
          RefusesFile tree path refusal) := by
  by_cases allowed : MayServe method
  · rw [openFor_eq_seek allowed]
    cases sought : seek tree root path with
    | error refusal =>
        exact Or.inr ⟨refusal, rfl, Or.inr (refusesFile_of_seek sought)⟩
    | ok opened =>
        obtain ⟨names, _, opens⟩ := bind_eq_ok_iff.mp sought
        obtain ⟨_, _, content, _, _, _, handle, _⟩ :=
          answers_of_openNamed opens
        exact Or.inl ⟨opened.location, content, by rw [← handle]⟩
  · exact Or.inr ⟨_, openFor_of_not_mayServe allowed tree root path,
      Or.inl rfl⟩

theorem openFor_ne_directory (tree : Tree) (root : Path)
    (method path : String) (location : Location) :
    openFor tree root method path ≠ .ok ⟨location, .directory⟩ := by
  intro opens
  rcases openFor_cases tree root method path with
    ⟨_, _, isFile⟩ | ⟨_, refused, _⟩
  · cases isFile.symm.trans opens
  · cases refused.symm.trans opens

theorem openFor_ne_unreadable {tree : Tree} (readable : tree.Readable)
    (root : Path) (method path : String) (reason : String) :
    openFor tree root method path ≠ .error (.unreadable reason) := by
  intro faulty
  rcases openFor_cases tree root method path with
    ⟨_, _, isFile⟩ | ⟨refusal, refused, kind⟩
  · cases isFile.symm.trans faulty
  · cases refused.symm.trans faulty
    rcases kind with other | (other | other) | ⟨unreadable, _⟩
    · contradiction
    · contradiction
    · contradiction
    · exact unreadable readable

/-- Every answer is made from the file that was opened, and every refusal is
one of opening it. -/
structure ServedByHandle (tree : Tree) (root : Path) (path : String) :
    Prop where
  answered : ∀ method response,
    serve tree root method path = .ok response ↔
      ∃ location content,
        openFor tree root method path = .ok ⟨location, .file content⟩ ∧
        response =
          Opened.response ⟨location, .file content⟩ (method = "GET")
  refused : ∀ method refusal,
    serve tree root method path = .error refusal ↔
      openFor tree root method path = .error refusal

theorem servedByHandle (tree : Tree) (root : Path) (path : String) :
    ServedByHandle tree root path := by
  refine ⟨fun method response => ?_, fun _ _ => serve_eq_error_iff⟩
  rw [serve_eq_ok_iff]
  constructor
  · intro made
    obtain ⟨⟨location, handle⟩, opens, made⟩ := made
    cases handle with
    | file content => exact ⟨location, content, opens, made⟩
    | directory =>
        exact absurd opens (openFor_ne_directory tree root method path location)
  · intro made
    obtain ⟨location, content, opens, made⟩ := made
    exact ⟨_, opens, made⟩

/-- GET and HEAD of a path get the same refusal or answers from the one file
that the path leads to, and the refusal is about the path if every file can be
opened.  Other methods are refused whatever the path.  Opening never ends with
a directory, nor with a fault of the system if every file can be opened, and is
what the answers are made from. -/
theorem serve_get_head (tree : Tree) (root : Path) (path : String) :
    ((∃ refusal, RefusesFile tree path refusal ∧
        serve tree root "GET" path = .error refusal ∧
        serve tree root "HEAD" path = .error refusal) ∨
      ∃ base names finish content get head,
        tree.resolve root = .ok base ∧ segments path = .ok names ∧
        (∀ other, tree.Answers base names other ↔ other = finish) ∧
        tree.entry? finish = some (.file content) ∧
        serve tree root "GET" path = .ok get ∧
        serve tree root "HEAD" path = .ok head ∧ Twins content get head) ∧
    (∀ method, method ≠ "GET" → method ≠ "HEAD" →
      serve tree root method path = .error (.methodNotAllowed method)) ∧
    (∀ method location,
      openFor tree root method path ≠ .ok ⟨location, .directory⟩) ∧
    (tree.Readable → ∀ method reason,
      openFor tree root method path ≠ .error (.unreadable reason)) ∧
    ServedByHandle tree root path := by
  have get := openFor_eq_seek (Or.inl rfl) tree root path
  have head := openFor_eq_seek (Or.inr rfl) tree root path
  refine ⟨?_, ?_, fun method => openFor_ne_directory tree root method path,
    fun readable method => openFor_ne_unreadable readable root method path,
    servedByHandle tree root path⟩
  · cases sought : seek tree root path with
    | error refusal =>
        rw [sought] at get head
        exact Or.inl ⟨refusal, refusesFile_of_seek sought,
          serve_eq_error_iff.mpr get, serve_eq_error_iff.mpr head⟩
    | ok opened =>
        rw [sought] at get head
        obtain ⟨names, named, opens⟩ := bind_eq_ok_iff.mp sought
        obtain ⟨base, finish, content, resolved, answers, entry, handle, _⟩ :=
          answers_of_openNamed opens
        obtain ⟨location, _⟩ := opened
        subst handle
        refine Or.inr ⟨base, names, finish, content, _, _, resolved, named,
          fun other => ⟨?_, ?_⟩, entry, serve_eq_ok_iff.mpr ⟨_, get, rfl⟩,
          serve_eq_ok_iff.mpr ⟨_, head, rfl⟩, Opened.twins location content⟩
        · exact fun others => others.unique answers
        · rintro rfl
          exact answers
  · intro method notGet notHead
    exact serve_of_not_mayServe (by simp [MayServe, notGet, notHead]) tree root
      path

/-- The index file of a root, opened for GET and measured for HEAD. -/
theorem serve_get_head_leakyTree :
    leakyTree.Readable ∧
      (∀ reason, serve leakyTree ⟨"/root"⟩ "GET" "/" ≠
        .error (.unreadable reason)) ∧
      (∃ location, openFor leakyTree ⟨"/root"⟩ "GET" "/" =
        .ok ⟨location, .file [115]⟩) ∧
      ∃ head, serve leakyTree ⟨"/root"⟩ "HEAD" "/" = .ok head ∧
        head.fields.values .contentLength = [.literal (decimal 1)] ∧
        head.body = [] := by
  have readable : leakyTree.Readable := fun _ _ _ => rfl
  obtain ⟨same, _, _, sound, byHandle⟩ :=
    serve_get_head leakyTree ⟨"/root"⟩ "/"
  refine ⟨readable, ?_, ?_, ?_⟩
  · exact fun reason refused =>
      sound readable "GET" reason ((byHandle.refused _ _).mp refused)
  · obtain ⟨location, content, opens, shape⟩ :=
      (byHandle.answered "GET" _).mp serve_leakyTree
    have read : [115] = content := congrArg Response.body shape
    exact ⟨location, by rw [opens, read]⟩
  · rcases same with
      ⟨refusal, _, refused, _⟩ |
        ⟨_, _, _, content, get, head, _, _, _, _, answered, answered', twins⟩
    · cases serve_leakyTree.symm.trans refused
    · cases serve_leakyTree.symm.trans answered
      have read : [115] = content := twins.body
      refine ⟨head, answered', ?_, twins.empty⟩
      rw [twins.sameFields, twins.length, ← read]
      rfl

end VirtualHosts.Files
