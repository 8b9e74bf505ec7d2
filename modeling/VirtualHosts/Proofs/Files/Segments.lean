import Mathlib
import VirtualHosts.Files.Relative
import VirtualHosts.Proofs.Bind
import VirtualHosts.Proofs.Files.Resolution
import VirtualHosts.Proofs.Text.Cuts
import VirtualHosts.Proofs.Text.Escapes

/-!
The names that a request path asks for.  A path is refused exactly if its bytes
are no text once they are unescaped, or if that text has a character or a
segment that may not stand there; and every list of plain names can be asked
for, however its bytes are escaped.
-/

namespace VirtualHosts.Files

open VirtualHosts.Http
open VirtualHosts.Text

/-- A name that a path can ask for. -/
structure IsPlainName (name : String) : Prop extends Tree.IsName name where
  noSlash : '/' ∉ name.toList
  noBackslash : '\\' ∉ name.toList
  noNul : '\x00' ∉ name.toList

/-- A text that does not try to leave the root. -/
structure IsHarmless (text : String) : Prop where
  noBackslash : '\\' ∉ text.toList
  noNul : '\x00' ∉ text.toList
  noParent : ['.', '.'] ∉ pieces '/' text.toList

/-- The segments of a text other than empty ones and single dots. -/
def namesIn (text : String) : List String :=
  ((pieces '/' text.toList).filter fun segment =>
    segment ≠ [] ∧ segment ≠ ['.']).map String.ofList

/-- What a request path reads as once its escapes are read. -/
def ReadsAs (path text : String) : Prop :=
  Unescapes (utf8 path) (utf8 text)

theorem isForbidden_iff {segment : List Char} :
    isForbidden segment = true ↔
      segment = ['.', '.'] ∨ '\\' ∈ segment ∨ '\x00' ∈ segment := by
  simp [isForbidden, or_assoc]

theorem isIdle_iff {segment : List Char} :
    isIdle segment = true ↔ segment = [] ∨ segment = ['.'] := by
  simp [isIdle]

theorem isHarmless_iff {text : String} :
    IsHarmless text ↔ (pieces '/' text.toList).any isForbidden = false := by
  have backslash : ('\\' : Char) ≠ '/' := by decide
  have nul : ('\x00' : Char) ≠ '/' := by decide
  simp only [Bool.eq_false_iff, ne_eq, List.any_eq_true, isForbidden_iff]
  constructor
  · rintro ⟨noBackslash, noNul, noParent⟩ ⟨segment, member, parent | bad | bad⟩
    · exact noParent (parent ▸ member)
    · exact noBackslash ((exists_mem_pieces_iff backslash).mp
        ⟨segment, member, bad⟩)
    · exact noNul ((exists_mem_pieces_iff nul).mp ⟨segment, member, bad⟩)
  · intro clean
    refine ⟨fun bad => ?_, fun bad => ?_, fun member => ?_⟩
    · obtain ⟨segment, member, inside⟩ :=
        (exists_mem_pieces_iff backslash).mpr bad
      exact clean ⟨segment, member, .inr (.inl inside)⟩
    · obtain ⟨segment, member, inside⟩ := (exists_mem_pieces_iff nul).mpr bad
      exact clean ⟨segment, member, .inr (.inr inside)⟩
    · exact clean ⟨_, member, .inl rfl⟩

theorem namesIn_eq (text : String) :
    namesIn text =
      ((pieces '/' text.toList).filter (!isIdle ·)).map String.ofList := by
  rw [namesIn]
  congr 2
  funext segment
  cases segment <;> simp [isIdle]

theorem readsAs_iff {path text : String} :
    ReadsAs path text ↔ ofUtf8? (unescape (utf8 path)) = some text := by
  rw [ofUtf8?_eq_some_iff, ReadsAs, unescape_eq_iff]

theorem readsAs_of_escapes {path text : String}
    (escapes : Escapes (utf8 text) (utf8 path)) : ReadsAs path text :=
  escapes.unescapes

/-! The three ways in which the segments of a path can turn out. -/

theorem segments_of_unreadable {path : String}
    (unreadable : ¬∃ text, ReadsAs path text) :
    segments path = .error (.notFound path) := by
  have undecoded : ofUtf8? (unescape (utf8 path)) = none := by
    rw [Option.eq_none_iff_forall_ne_some]
    intro text read
    exact unreadable ⟨text, readsAs_iff.mpr read⟩
  rw [segments, undecoded]

theorem segments_of_harmful {path text : String} (reads : ReadsAs path text)
    (harmful : ¬IsHarmless text) :
    segments path = .error (.outsideRoot path) := by
  rw [isHarmless_iff, Bool.not_eq_false] at harmful
  rw [segments, readsAs_iff.mp reads]
  exact if_pos harmful

theorem segments_of_harmless {path text : String} (reads : ReadsAs path text)
    (harmless : IsHarmless text) : segments path = .ok (namesIn text) := by
  rw [isHarmless_iff] at harmless
  rw [segments, readsAs_iff.mp reads, namesIn_eq]
  simp only [harmless, Bool.false_eq_true, if_false]

theorem segments_cases (path : String) :
    (segments path = .error (.notFound path) ∧ ¬∃ text, ReadsAs path text) ∨
    ∃ text, ReadsAs path text ∧
      ((segments path = .error (.outsideRoot path) ∧ ¬IsHarmless text) ∨
        (segments path = .ok (namesIn text) ∧ IsHarmless text)) := by
  by_cases readable : ∃ text, ReadsAs path text
  · obtain ⟨text, reads⟩ := readable
    refine .inr ⟨text, reads, ?_⟩
    by_cases harmless : IsHarmless text
    · exact .inr ⟨segments_of_harmless reads harmless, harmless⟩
    · exact .inl ⟨segments_of_harmful reads harmless, harmless⟩
  · exact .inl ⟨segments_of_unreadable readable, readable⟩

theorem segments_eq_ok_iff {path : String} {names : List String} :
    segments path = .ok names ↔
      ∃ text, ReadsAs path text ∧ IsHarmless text ∧ names = namesIn text := by
  constructor
  · intro named
    rcases segments_cases path with
      ⟨shape, _⟩ | ⟨text, reads, ⟨shape, _⟩ | ⟨shape, harmless⟩⟩
    · simp [shape] at named
    · simp [shape] at named
    · rw [shape] at named
      cases named
      exact ⟨text, reads, harmless, rfl⟩
  · rintro ⟨text, reads, harmless, rfl⟩
    exact segments_of_harmless reads harmless

theorem segments_eq_error_iff {path : String} {refusal : Refusal} :
    segments path = .error refusal ↔
      (refusal = .notFound path ∧ ¬∃ text, ReadsAs path text) ∨
        (refusal = .outsideRoot path ∧
          ∃ text, ReadsAs path text ∧ ¬IsHarmless text) := by
  constructor
  · intro refused
    rcases segments_cases path with
      ⟨shape, unreadable⟩ | ⟨text, reads, ⟨shape, harmful⟩ | ⟨shape, _⟩⟩
    · rw [shape] at refused
      cases refused
      exact .inl ⟨rfl, unreadable⟩
    · rw [shape] at refused
      cases refused
      exact .inr ⟨rfl, text, reads, harmful⟩
    · simp [shape] at refused
  · rintro (⟨rfl, unreadable⟩ | ⟨rfl, text, reads, harmful⟩)
    · exact segments_of_unreadable unreadable
    · exact segments_of_harmful reads harmful

/-! The path that the segments make. -/

/-- A name that a slash can follow and go before. -/
structure IsSegment (name : String) : Prop where
  nonempty : name ≠ ""
  noSlash : '/' ∉ name.toList

theorem IsPlainName.isSegment {name : String} (plain : IsPlainName name) :
    IsSegment name :=
  ⟨plain.nonempty, plain.noSlash⟩

theorem IsSegment.toList_ne_nil {name : String} (isSegment : IsSegment name) :
    name.toList ≠ [] := by
  simpa using isSegment.nonempty

theorem getLast?_ofNames {names : List String} (filled : names ≠ [])
    (each : ∀ name ∈ names, IsSegment name) :
    ∃ c ∈ (Path.ofNames names).text.toList.getLast?, c ≠ '/' := by
  obtain ⟨front, last, rfl⟩ :=
    (List.eq_nil_or_concat' names).resolve_left filled
  have isLast : IsSegment last := each last (by simp)
  have ends : (Path.ofNames (front ++ [last])).text.toList.getLast? =
      last.toList.getLast? := by
    rw [Path.ofNames]
    by_cases only : front = []
    · simp [only]
    · rw [String.intercalate_append_of_ne_nil only (by simp),
        String.intercalate_singleton, String.toList_append,
        List.getLast?_append_of_ne_nil _ isLast.toList_ne_nil]
  refine ⟨last.toList.getLast isLast.toList_ne_nil, ?_, ?_⟩
  · rw [ends, List.getLast?_eq_some_getLast isLast.toList_ne_nil]
    rfl
  · rintro slash
    exact isLast.noSlash (slash ▸ List.getLast_mem isLast.toList_ne_nil)

theorem join_ofNames {names : List String} {name : String}
    (each : ∀ other ∈ names, IsSegment other) (isSegment : IsSegment name) :
    (Path.ofNames names).join ⟨name⟩ = .ofNames (names ++ [name]) := by
  have relative : Path.isAbsolute ⟨name⟩ = false := by
    rw [Path.isAbsolute, decide_eq_false_iff_not]
    intro slash
    exact isSegment.noSlash (List.mem_of_mem_head? slash)
  by_cases bare : names = []
  · subst bare
    simp [Path.join, Path.ofNames, Path.isEmpty]
  · obtain ⟨c, last, noSlash⟩ := getLast?_ofNames bare each
    have filled : (Path.ofNames names).isEmpty = false := by
      rw [Path.isEmpty, List.isEmpty_eq_false_iff]
      rintro nil
      rw [nil] at last
      contradiction
    rw [Path.join, relative, filled, last]
    simp [noSlash, Path.ofNames,
      String.intercalate_append_of_ne_nil bare]

theorem isSegment_ofList {segment : List Char} (noSlash : '/' ∉ segment)
    (named : isIdle segment = false) : IsSegment (String.ofList segment) := by
  refine ⟨?_, by rwa [String.toList_ofList]⟩
  rintro empty
  have nil : segment = [] := by
    rw [← String.toList_ofList (l := segment), empty]
    rfl
  simp [nil, isIdle] at named

theorem foldlM_addSegment (path : String) {parts : List (List Char)}
    (noSlash : ∀ part ∈ parts, '/' ∉ part) {before : List String}
    (each : ∀ name ∈ before, IsSegment name) :
    parts.foldlM (addSegment path) (.ofNames before) =
      if parts.any isForbidden then .error (.outsideRoot path)
      else .ok (.ofNames
        (before ++ (parts.filter (!isIdle ·)).map String.ofList)) := by
  induction parts generalizing before with
  | nil =>
      rw [List.filter_nil, List.map_nil, List.append_nil]
      rfl
  | cons part rest ih =>
      have later : ∀ other ∈ rest, '/' ∉ other := fun other member =>
        noSlash other (List.mem_cons_of_mem part member)
      rw [List.foldlM_cons, addSegment]
      cases idle : isIdle part with
      | true =>
          have allowed : isForbidden part = false := by
            rcases isIdle_iff.mp idle with rfl | rfl <;> decide
          simp only [if_true, ok_bind, ih later each, List.any_cons, allowed,
            Bool.false_or, List.filter_cons, idle, Bool.not_true,
            Bool.false_eq_true, if_false]
      | false =>
          cases forbidden : isForbidden part with
          | true => simp [forbidden]
          | false =>
              have here := isSegment_ofList
                (noSlash part List.mem_cons_self) idle
              have extended : ∀ name ∈ before ++ [String.ofList part],
                  IsSegment name := by
                intro name member
                rcases List.mem_append.mp member with member | member
                · exact each name member
                · rw [List.mem_singleton.mp member]
                  exact here
              simp [join_ofNames each here, ih later extended, forbidden,
                idle]

/-- Adding the segments one after another refuses the same paths, and leads
to the names in order. -/
theorem relativePath_eq (path : String) :
    relativePath path = (segments path).map .ofNames := by
  rw [relativePath, segments]
  cases ofUtf8? (unescape (utf8 path)) with
  | none => rfl
  | some text =>
      have noSlash : ∀ part ∈ pieces '/' text.toList, '/' ∉ part :=
        fun part member => not_mem_of_mem_pieces member
      have start : Path.empty = .ofNames [] := rfl
      have each : ∀ name ∈ ([] : List String), IsSegment name := by simp
      simp only [start, foldlM_addSegment path noSlash each,
        List.nil_append]
      split <;> rfl

/-! Plain names are read back. -/

theorem pieces_ofNames {names : List String} (filled : names ≠ [])
    (each : ∀ name ∈ names, IsSegment name) :
    pieces '/' (Path.ofNames names).text.toList =
      names.map String.toList := by
  rw [Path.ofNames, String.toList_intercalate]
  refine pieces_intercalate ?_ (by simpa using filled)
  intro part member
  obtain ⟨name, named, rfl⟩ := List.mem_map.mp member
  exact (each name named).noSlash

theorem not_isIdle_of_plain {name : String} (plain : IsPlainName name) :
    isIdle name.toList = false := by
  have notHere : name.toList ≠ ['.'] := fun here =>
    plain.notHere (String.toList_injective here)
  simp [isIdle, plain.isSegment.toList_ne_nil, notHere]

theorem not_isForbidden_of_plain {name : String} (plain : IsPlainName name) :
    isForbidden name.toList = false := by
  rw [Bool.eq_false_iff, ne_eq, isForbidden_iff]
  rintro (up | bad | bad)
  · exact plain.notUp (String.toList_injective up)
  · exact plain.noBackslash bad
  · exact plain.noNul bad

/-- A slash in front only adds an empty segment. -/
theorem pieces_lead {lead : String} (leads : lead ∈ ["", "/"])
    (s : List Char) :
    pieces '/' (lead.toList ++ s) =
      (lead.toList.map fun _ => []) ++ pieces '/' s := by
  rcases List.mem_pair.mp leads with rfl | rfl
  · rfl
  · exact pieces_append_sep '/' [] s

theorem isHarmless_ofNames {lead : String} {names : List String}
    (plain : ∀ name ∈ names, IsPlainName name) (leads : lead ∈ ["", "/"]) :
    IsHarmless (lead ++ (Path.ofNames names).text) := by
  have free : ((lead.toList.map fun _ => []) : List (List Char)).any
      isForbidden = false := by
    simp [isForbidden]
  rw [isHarmless_iff, String.toList_append, pieces_lead leads,
    List.any_append, free, Bool.false_or]
  by_cases bare : names = []
  · subst bare
    rfl
  · rw [pieces_ofNames bare fun name member => (plain name member).isSegment]
    simpa using fun name member =>
      not_isForbidden_of_plain (plain name member)

theorem namesIn_ofNames {lead : String} {names : List String}
    (plain : ∀ name ∈ names, IsPlainName name) (leads : lead ∈ ["", "/"]) :
    namesIn (lead ++ (Path.ofNames names).text) = names := by
  have idle : ((lead.toList.map fun _ => []) : List (List Char)).filter
      (!isIdle ·) = [] := by
    simp [isIdle]
  rw [namesIn_eq, String.toList_append, pieces_lead leads,
    List.filter_append, idle, List.nil_append]
  by_cases bare : names = []
  · subst bare
    rfl
  · rw [pieces_ofNames bare fun name member => (plain name member).isSegment,
      List.filter_eq_self.mpr, List.map_map]
    · simp [Function.comp_def]
    · intro part member
      obtain ⟨name, named, rfl⟩ := List.mem_map.mp member
      simp [not_isIdle_of_plain (plain name named)]

theorem segments_ofNames {path lead : String} {names : List String}
    (plain : ∀ name ∈ names, IsPlainName name) (leads : lead ∈ ["", "/"])
    (escapes : Escapes (utf8 (lead ++ (Path.ofNames names).text))
      (utf8 path)) : segments path = .ok names := by
  rw [segments_of_harmless (readsAs_of_escapes escapes)
    (isHarmless_ofNames plain leads), namesIn_ofNames plain leads]

/-- What a harmless text names can be asked for again. -/
theorem isPlainName_of_mem_namesIn {text name : String}
    (harmless : IsHarmless text) (member : name ∈ namesIn text) :
    IsPlainName name := by
  obtain ⟨segment, kept, rfl⟩ := List.mem_map.mp member
  simp only [List.mem_filter, decide_eq_true_eq] at kept
  obtain ⟨inside, nonempty, notHere⟩ := kept
  have allowed : ¬isForbidden segment = true :=
    List.any_eq_false.mp (isHarmless_iff.mp harmless) segment inside
  rw [isForbidden_iff, not_or, not_or] at allowed
  have written {other : String} (same : String.ofList segment = other) :
      segment = other.toList := by
    rw [← same, String.toList_ofList]
  refine ⟨⟨?_, ?_, ?_⟩, ?_, ?_, ?_⟩
  · exact fun empty => nonempty (written empty)
  · exact fun here => notHere (written here)
  · exact fun up => allowed.1 (written up)
  · simpa using not_mem_of_mem_pieces inside
  · simpa using allowed.2.1
  · simpa using allowed.2.2

theorem ofPiece?_of_plain {name : String} (plain : IsPlainName name) :
    Component.ofPiece? name.toList = some (.name name) := by
  have notHere : name.toList ≠ ['.'] := fun here =>
    plain.notHere (String.toList_injective here)
  have notUp : name.toList ≠ ['.', '.'] := fun up =>
    plain.notUp (String.toList_injective up)
  simp [Component.ofPiece?, plain.isSegment.toList_ne_nil, notHere, notUp]

theorem components_ofNames {names : List String}
    (plain : ∀ name ∈ names, IsPlainName name) :
    (Path.ofNames names).components = names.map .name := by
  cases names with
  | nil => rfl
  | cons name rest =>
      have first := plain name List.mem_cons_self
      have parts := pieces_ofNames (List.cons_ne_nil name rest)
        fun other member => (plain other member).isSegment
      have relative : (Path.ofNames (name :: rest)).isAbsolute = false := by
        rw [Path.isAbsolute, decide_eq_false_iff_not]
        intro slash
        obtain ⟨more, shape⟩ := List.head?_eq_some_iff.mp slash
        rw [shape, pieces, if_pos rfl, List.map_cons, List.cons.injEq] at parts
        exact first.isSegment.toList_ne_nil parts.1.symm
      have notHere : name.toList ≠ ['.'] := fun here =>
        first.notHere (String.toList_injective here)
      have named : ((name :: rest).map String.toList).filterMap
          Component.ofPiece? = (name :: rest).map .name := by
        rw [List.filterMap_map, ← List.filterMap_eq_map]
        refine List.filterMap_congr fun other member => ?_
        exact ofPiece?_of_plain (plain other member)
      rw [Path.components, relative, Path.pieces, parts, named]
      simp [notHere]

/-- The segments of a request path, for every path: when there are any and
which ones, what refuses the others, and that plain names can be asked for in
every escaped form while no form of a parent segment passes. -/
theorem segments_exact (path : String) :
    (∀ names, segments path = .ok names ↔
      ∃ text, ReadsAs path text ∧ IsHarmless text ∧ names = namesIn text) ∧
    (∀ refusal, segments path = .error refusal ↔
      (refusal = .notFound path ∧ ¬∃ text, ReadsAs path text) ∨
        (refusal = .outsideRoot path ∧
          ∃ text, ReadsAs path text ∧ ¬IsHarmless text)) ∧
    relativePath path = (segments path).map .ofNames ∧
    (∀ names, segments path = .ok names →
      (Path.ofNames names).components = names.map .name) ∧
    (∀ names, (∀ name ∈ names, IsPlainName name) → ∀ lead ∈ ["", "/"],
      Escapes (utf8 (lead ++ (Path.ofNames names).text)) (utf8 path) →
        segments path = .ok names) ∧
    (∀ text, ['.', '.'] ∈ pieces '/' text.toList →
      Escapes (utf8 text) (utf8 path) →
        segments path = .error (.outsideRoot path)) := by
  refine ⟨fun names => segments_eq_ok_iff, fun refusal =>
    segments_eq_error_iff, relativePath_eq path, ?_, ?_, ?_⟩
  · intro names named
    obtain ⟨text, _, harmless, rfl⟩ := segments_eq_ok_iff.mp named
    exact components_ofNames fun name member =>
      isPlainName_of_mem_namesIn harmless member
  · intro names plain lead leads escapes
    exact segments_ofNames plain leads escapes
  · intro text parent escapes
    refine segments_of_harmful (readsAs_of_escapes escapes) ?_
    exact fun harmless => harmless.noParent parent

/-- One escape is read once: an escaped percent sign begins no other. -/
example : segments "/%61%252e%2e" = .ok ["a%2e."] := by
  decide +kernel

end VirtualHosts.Files
