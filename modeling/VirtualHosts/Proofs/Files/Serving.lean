import Mathlib
import VirtualHosts.Files.Serve
import VirtualHosts.Proofs.Bind

/-!
The steps of serving a file: the method is looked at first, then the segments
of the path, then the file tree, and at last the file is opened.
-/

namespace VirtualHosts.Files

open VirtualHosts.Http

def MayServe (method : String) : Prop :=
  method = "GET" ∨ method = "HEAD"

theorem isRefused_iff {method : String} :
    (decide (method ≠ "GET") && decide (method ≠ "HEAD")) = true ↔
      ¬MayServe method := by
  simp [MayServe]

theorem openFor_of_mayServe {method : String} (allowed : MayServe method)
    (tree : Tree) (root : Path) (path : String) :
    openFor tree root method path =
      segments path >>= fun names => openNamed tree root names path := by
  rw [openFor]
  rw [if_neg (isRefused_iff.not_left.mpr allowed)]

theorem openFor_of_not_mayServe {method : String}
    (refused : ¬MayServe method) (tree : Tree) (root : Path)
    (path : String) :
    openFor tree root method path = .error (.methodNotAllowed method) := by
  rw [openFor]
  rw [if_pos (isRefused_iff.mpr refused)]

theorem openFor_eq_ok_iff {tree : Tree} {root : Path} {method path : String}
    {opened : Opened} :
    openFor tree root method path = .ok opened ↔
      MayServe method ∧ ∃ names, segments path = .ok names ∧
        openNamed tree root names path = .ok opened := by
  by_cases allowed : MayServe method
  · rw [openFor_of_mayServe allowed]
    simp [bind_eq_ok_iff, allowed]
  · rw [openFor_of_not_mayServe allowed]
    simp [allowed]

theorem openFor_eq_error_iff {tree : Tree} {root : Path}
    {method path : String} {refusal : Refusal} :
    openFor tree root method path = .error refusal ↔
      (¬MayServe method ∧ refusal = .methodNotAllowed method) ∨
      (MayServe method ∧ (segments path = .error refusal ∨
        ∃ names, segments path = .ok names ∧
          openNamed tree root names path = .error refusal)) := by
  by_cases allowed : MayServe method
  · rw [openFor_of_mayServe allowed]
    simp [bind_eq_error_iff, allowed]
  · rw [openFor_of_not_mayServe allowed]
    simp [allowed, eq_comm]

theorem openNamed_eq_ok_iff {tree : Tree} {root : Path}
    {names : List String} {path : String} {opened : Opened} :
    openNamed tree root names path = .ok opened ↔
      locate tree root names path = .ok opened.location ∧
        tree.openAt opened.location = .ok opened.handle := by
  simp only [openNamed, bind_eq_ok_iff, mapError_eq_ok_iff]
  constructor
  · intro steps
    obtain ⟨location, located, handle, opens, made⟩ := steps
    cases made
    exact ⟨located, opens⟩
  · intro steps
    obtain ⟨located, opens⟩ := steps
    exact ⟨_, located, _, opens, rfl⟩

theorem openNamed_eq_error_iff {tree : Tree} {root : Path}
    {names : List String} {path : String} {refusal : Refusal} :
    openNamed tree root names path = .error refusal ↔
      locate tree root names path = .error refusal ∨
        ∃ location fault, locate tree root names path = .ok location ∧
          tree.openAt location = .error fault ∧
          openRefusal path fault = refusal := by
  simp only [openNamed, bind_eq_error_iff, mapError_eq_error_iff]
  constructor
  · intro failed
    rcases failed with
      unlocated | ⟨location, located, ⟨fault, faulty, made⟩ | ⟨_, _, made⟩⟩
    · exact Or.inl unlocated
    · exact Or.inr ⟨location, fault, located, faulty, made⟩
    · contradiction
  · intro failed
    rcases failed with unlocated | ⟨location, fault, located, faulty, made⟩
    · exact Or.inl unlocated
    · exact Or.inr ⟨location, located, Or.inl ⟨fault, faulty, made⟩⟩

/-! What is answered is made from what was opened. -/

theorem serve_eq_ok_iff {tree : Tree} {root : Path} {method path : String}
    {response : Response} :
    serve tree root method path = .ok response ↔
      ∃ opened, openFor tree root method path = .ok opened ∧
        response = opened.response (method = "GET") := by
  rw [serve, bind_eq_ok_iff]
  exact exists_congr fun opened => and_congr_right fun _ =>
    ⟨fun made => (Except.ok.inj made).symm, fun made => congrArg _ made.symm⟩

theorem serve_eq_error_iff {tree : Tree} {root : Path}
    {method path : String} {refusal : Refusal} :
    serve tree root method path = .error refusal ↔
      openFor tree root method path = .error refusal := by
  rw [serve, bind_eq_error_iff]
  constructor
  · intro failed
    rcases failed with refused | ⟨_, _, other⟩
    · exact refused
    · contradiction
  · exact Or.inl

theorem serve_of_not_mayServe {method : String}
    (refused : ¬MayServe method) (tree : Tree) (root : Path)
    (path : String) :
    serve tree root method path = .error (.methodNotAllowed method) :=
  serve_eq_error_iff.mpr (openFor_of_not_mayServe refused tree root path)

/-! What refuses a path says that nothing was found there, or that the path
leaves the root. -/

def RefusesPath (path : String) (refusal : Refusal) : Prop :=
  refusal = .notFound path ∨ refusal = .outsideRoot path

theorem refusesPath_of_segments {path : String} {refusal : Refusal}
    (refused : segments path = .error refusal) : RefusesPath path refusal := by
  rw [segments] at refused
  split at refused
  · cases refused
    exact Or.inl rfl
  · simp only at refused
    split at refused
    · cases refused
      exact Or.inr rfl
    · contradiction

theorem refusesPath_of_entrance {tree : Tree} {location : Location}
    {path : String} {refusal : Refusal}
    (refused : entrance tree location path = .error refusal) :
    RefusesPath path refusal := by
  rw [entrance] at refused
  split at refused
  · cases refused
    exact Or.inl rfl
  · contradiction
  · split at refused
    · contradiction
    · cases refused
      exact Or.inl rfl

theorem refusesPath_of_locate {tree : Tree} {root : Path}
    {names : List String} {path : String} {refusal : Refusal}
    (refused : locate tree root names path = .error refusal) :
    RefusesPath path refusal := by
  rw [locate] at refused
  split at refused
  · cases refused
    exact Or.inl rfl
  · split at refused
    · cases refused
      exact Or.inl rfl
    · split at refused
      · cases refused
        exact Or.inr rfl
      · exact refusesPath_of_entrance refused

/-- A file that was found and is not opened has gone, or the system says why
not. -/
theorem openRefusal_cases (path : String) (fault : OpenFault) :
    openRefusal path fault = .notFound path ∨
      openRefusal path fault = .unreadable fault.message := by
  rw [openRefusal]
  split
  · exact Or.inl rfl
  · exact Or.inr rfl

theorem openFor_error_cases {tree : Tree} {root : Path}
    {method path : String} {refusal : Refusal}
    (refused : openFor tree root method path = .error refusal) :
    refusal = .methodNotAllowed method ∨ RefusesPath path refusal ∨
      ∃ reason, refusal = .unreadable reason := by
  rcases openFor_eq_error_iff.mp refused with
    ⟨_, byMethod⟩ | ⟨_, unnamed | ⟨names, _, unopened⟩⟩
  · exact Or.inl byMethod
  · exact Or.inr (Or.inl (refusesPath_of_segments unnamed))
  · rcases openNamed_eq_error_iff.mp unopened with
      unlocated | ⟨_, fault, _, _, rfl⟩
    · exact Or.inr (Or.inl (refusesPath_of_locate unlocated))
    · rcases openRefusal_cases path fault with gone | unreadable
      · exact Or.inr (Or.inl (Or.inl gone))
      · exact Or.inr (Or.inr ⟨_, unreadable⟩)

/-- Serving never says that a host has no route. -/
theorem serve_ne_noRoute (tree : Tree) (root : Path)
    (method path : String) (host? : Option String) :
    serve tree root method path ≠ .error (.noRoute host?) := by
  intro refused
  rcases openFor_error_cases (serve_eq_error_iff.mp refused) with
    other | (other | other) | ⟨_, other⟩ <;> contradiction

end VirtualHosts.Files
