import Mathlib
import VirtualHosts.Proofs.Header.Visible
import VirtualHosts.Proofs.Header.Written

/-!
The forms in which rules are written.  A field, with a value or without one, is
read as a rule exactly if it is a form of that rule, no two rules share a form,
and what is read from a form can be written again.
-/

namespace VirtualHosts.Header

open VirtualHosts.Text

/-! Names and values. -/

/-- A name as it is written, with letters of either case. -/
structure Name.WrittenAs (name : Name) (s : String) : Prop where
  nonempty : s.toList ≠ []
  short : s.toList.length ≤ 65535
  chars : ∀ c ∈ s.toList, c.isAlphanum = true ∨ c ∈ nameSigns
  lowercase : lower s.toList = name.text.toList

/-- Whether a character may stand in a value: no control does but the tab. -/
def IsValueChar (c : Char) : Prop :=
  c = '\t' ∨ (32 ≤ c.toNat ∧ c.toNat ≠ 127)

/-- A value as it is written, which is the text that its bytes make. -/
structure Value.WrittenAs (value : Value) (s : String) : Prop where
  chars : ∀ c ∈ s.toList, IsValueChar c
  bytes : value.bytes = utf8 s

theorem isAlphanum_iff {c : Char} :
    c.isAlphanum = true ↔
      (65 ≤ c.toNat ∧ c.toNat ≤ 90) ∨ (97 ≤ c.toNat ∧ c.toNat ≤ 122) ∨
        c.isDigit = true := by
  simp [Char.isAlphanum, Char.isAlpha, Char.isUpper, Char.isLower,
    UInt32.le_iff_toNat_le, or_assoc]

theorem isNameChar_toLower_iff {c : Char} :
    isNameChar c.toLower = true ↔ c.isAlphanum = true ∨ c ∈ nameSigns := by
  simp only [isNameChar, Bool.or_eq_true, Bool.and_eq_true,
    decide_eq_true_eq, List.contains_iff_mem, isDigit_toLower, isAlphanum_iff]
  by_cases upper : 65 ≤ c.toNat ∧ c.toNat ≤ 90
  · have letter : 97 ≤ c.toLower.toNat ∧ c.toLower.toNat ≤ 122 := by
      rw [toNat_toLower, if_pos upper]
      omega
    simp [upper, letter]
  · have same : c.toLower = c := toLower_eq_self_iff.mpr upper
    simp only [same, upper, false_or, or_assoc]

theorem isName_lower_iff {s : List Char} :
    isName (lower s) = true ↔
      s ≠ [] ∧ s.length ≤ 65535 ∧
        ∀ c ∈ s, c.isAlphanum = true ∨ c ∈ nameSigns := by
  have chars : (lower s).all isNameChar = true ↔
      ∀ c ∈ s, c.isAlphanum = true ∨ c ∈ nameSigns := by
    rw [lower, List.all_map, List.all_eq_true]
    simp only [Function.comp_apply, isNameChar_toLower_iff]
  simp [isName, chars, and_assoc]

theorem Name.ofText?_eq_some_iff {s : String} {name : Name} :
    Name.ofText? s = some name ↔ name.WrittenAs s := by
  constructor
  · intro read
    have shape := Name.text_of_ofText? read
    have valid : isName (lower s.toList) = true := by
      have known := name.isName_text
      rwa [shape, String.toList_ofList] at known
    obtain ⟨nonempty, short, chars⟩ := isName_lower_iff.mp valid
    exact ⟨nonempty, short, chars, by rw [shape, String.toList_ofList]⟩
  · intro written
    have same : Name.ofText? s = Name.ofText? name.text := by
      have again : lower name.text.toList = lower s.toList := by
        rw [← written.lowercase, lower_lower]
      unfold Name.ofText?
      simp only [again]
    rw [same, Name.ofText?_text]

theorem Name.writtenAs_text (name : Name) : name.WrittenAs name.text :=
  Name.ofText?_eq_some_iff.mp name.ofText?_text

theorem Name.head?_ne_of_writtenAs {name : Name} {written : String}
    (named : name.WrittenAs written) : written.toList.head? ≠ some '>' := by
  intro first
  have member : '>' ∈ written.toList := List.mem_of_head? first
  exact absurd (named.chars '>' member) (by decide)

theorem utf8EncodeChar_cases (c : Char) :
    (c.toNat < 128 ∧ String.utf8EncodeChar c = [Value.byteOf c]) ∨
      (128 ≤ c.toNat ∧ ∀ b ∈ String.utf8EncodeChar c, 128 ≤ b.toNat) := by
  have code : c.val.toNat = c.toNat := rfl
  simp only [String.utf8EncodeChar, code]
  split
  · rename_i short
    exact Or.inl ⟨by omega, rfl⟩
  · rename_i long
    refine Or.inr ⟨by omega, ?_⟩
    split
    · simp only [List.forall_mem_cons, UInt8.toNat_ofNat', List.not_mem_nil,
        false_implies, implies_true, and_true]
      omega
    · split
      · simp only [List.forall_mem_cons, UInt8.toNat_ofNat', List.not_mem_nil,
          false_implies, implies_true, and_true]
        omega
      · simp only [List.forall_mem_cons, UInt8.toNat_ofNat', List.not_mem_nil,
          false_implies, implies_true, and_true]
        omega

theorem isValueByte_iff {b : UInt8} :
    isValueByte b = true ↔ b.toNat = 9 ∨ (32 ≤ b.toNat ∧ b.toNat ≠ 127) := by
  simp only [isValueByte, Bool.or_eq_true, Bool.and_eq_true, beq_iff_eq,
    decide_eq_true_eq, bne_iff_ne, ne_eq, ← UInt8.toNat_inj]
  rfl

theorem isValueChar_iff {c : Char} :
    IsValueChar c ↔ c.toNat = 9 ∨ (32 ≤ c.toNat ∧ c.toNat ≠ 127) := by
  have tab : '\t'.toNat = 9 := rfl
  rw [IsValueChar, ← Char.toNat_inj, tab]

theorem all_isValueByte_utf8EncodeChar_iff {c : Char} :
    (String.utf8EncodeChar c).all isValueByte = true ↔ IsValueChar c := by
  rw [isValueChar_iff]
  rcases utf8EncodeChar_cases c with ⟨short, one⟩ | ⟨long, high⟩
  · have byte : (Value.byteOf c).toNat = c.toNat := by
      rw [Value.byteOf, UInt8.toNat_ofNat']
      omega
    rw [one, List.all_cons, List.all_nil, Bool.and_true, isValueByte_iff, byte]
  · have valid : (String.utf8EncodeChar c).all isValueByte = true := by
      rw [List.all_eq_true]
      intro b member
      have bound := high b member
      rw [isValueByte_iff]
      omega
    simp only [valid, true_iff]
    omega

theorem Value.ofText?_eq_some_iff {s : String} {value : Value} :
    Value.ofText? s = some value ↔ value.WrittenAs s := by
  have valid_iff : (utf8 s).all isValueByte = true ↔
      ∀ c ∈ s.toList, IsValueChar c := by
    rw [utf8_eq_flatMap, List.all_flatMap, List.all_eq_true]
    simp only [all_isValueByte_utf8EncodeChar_iff]
  constructor
  · intro read
    have bytes := Value.bytes_of_ofBytes? read
    refine ⟨valid_iff.mp ?_, bytes⟩
    rw [← bytes]
    exact value.isValue_bytes
  · intro written
    have text := ofUtf8?_eq_some_iff.mpr written.bytes
    exact Value.ofText?_of_ofUtf8? text

theorem Value.writtenAs_of_bytes {value : Value} {s : String}
    (bytes : value.bytes = utf8 s) : value.WrittenAs s :=
  Value.ofText?_eq_some_iff.mp
    (Value.ofText?_of_ofUtf8? (ofUtf8?_eq_some_iff.mpr bytes))

/-! Rules. -/

namespace Rule

/-- The forms of a rule: the sign of what it does and its name, or for setting
the name alone, where it begins with no sign. -/
inductive WrittenAs : Rule → String → Option String → Prop
  | delete {name : Name} {written : String} (named : name.WrittenAs written) :
      WrittenAs (.delete name) ("-" ++ written) none
  | add {name : Name} {value : Value} {written text : String}
      (named : name.WrittenAs written) (valued : value.WrittenAs text) :
      WrittenAs (.add name value) ("+" ++ written) (some text)
  | set {name : Name} {value : Value} {written text : String}
      (named : name.WrittenAs written) (valued : value.WrittenAs text) :
      WrittenAs (.set name value) (">" ++ written) (some text)
  | bare {name : Name} {value : Value} {written text : String}
      (named : name.WrittenAs written) (valued : value.WrittenAs text)
      (noMinus : written.toList.head? ≠ some '-')
      (noPlus : written.toList.head? ≠ some '+') :
      WrittenAs (.set name value) written (some text)

def value? : Rule → Option Value
  | .set _ value => some value
  | .add _ value => some value
  | .delete _ => none

/-- The form with a sign in which every rule can be written. -/
def field : Rule → String
  | .set name _ => ">" ++ name.text
  | .add name _ => "+" ++ name.text
  | .delete name => "-" ++ name.text

def text? (rule : Rule) : Option String :=
  rule.value?.bind fun value => ofUtf8? value.bytes

/-- Whether the value of a rule, if it has one, makes a text. -/
def IsText (rule : Rule) : Prop :=
  ∀ value ∈ rule.value?, ∃ s, value.bytes = utf8 s

theorem readName_eq_ok_iff {s : String} {name : Name} :
    readName s = .ok name ↔ name.WrittenAs s := by
  rw [← Name.ofText?_eq_some_iff, readName]
  split <;> simp [*]

theorem readValue_eq_ok_iff {field s : String} {value : Value} :
    readValue field s = .ok value ↔ value.WrittenAs s := by
  rw [← Value.ofText?_eq_some_iff, readValue]
  split <;> simp [*]

theorem readSet_eq_ok_iff {written text : String} {rule : Rule} :
    readSet written text = .ok rule ↔
      ∃ name value, name.WrittenAs written ∧ value.WrittenAs text ∧
        rule = .set name value := by
  simp only [readSet, bind_eq_ok_iff, readName_eq_ok_iff, readValue_eq_ok_iff]
  constructor
  · rintro ⟨name, named, value, valued, ⟨⟩⟩
    exact ⟨name, value, named, valued, rfl⟩
  · rintro ⟨name, value, named, valued, rfl⟩
    exact ⟨name, named, value, valued, rfl⟩

theorem readAdd_eq_ok_iff {written text : String} {rule : Rule} :
    readAdd written text = .ok rule ↔
      ∃ name value, name.WrittenAs written ∧ value.WrittenAs text ∧
        rule = .add name value := by
  simp only [readAdd, bind_eq_ok_iff, readName_eq_ok_iff, readValue_eq_ok_iff]
  constructor
  · rintro ⟨name, named, value, valued, ⟨⟩⟩
    exact ⟨name, value, named, valued, rfl⟩
  · rintro ⟨name, value, named, valued, rfl⟩
    exact ⟨name, named, value, valued, rfl⟩

theorem readDelete_eq_ok_iff {written : String} {rule : Rule} :
    readDelete written = .ok rule ↔
      ∃ name, name.WrittenAs written ∧ rule = .delete name := by
  simp only [readDelete, bind_eq_ok_iff, readName_eq_ok_iff]
  constructor
  · rintro ⟨name, named, ⟨⟩⟩
    exact ⟨name, named, rfl⟩
  · rintro ⟨name, named, rfl⟩
    exact ⟨name, named, rfl⟩

/-! Fields by their first character. -/

/-- How a field is split into what its rule does and the rest. -/
inductive Kind.Splits : Kind → List Char → List Char → Prop
  | minus (rest : List Char) : Splits .delete ('-' :: rest) rest
  | plus (rest : List Char) : Splits .add ('+' :: rest) rest
  | greater (rest : List Char) : Splits .set ('>' :: rest) rest
  | bare {rest : List Char} (noMinus : rest.head? ≠ some '-')
      (noPlus : rest.head? ≠ some '+') (noGreater : rest.head? ≠ some '>') :
      Splits .set rest rest

theorem splitField_eq_iff {s rest : List Char} {kind : Kind} :
    splitField s = (kind, rest) ↔ kind.Splits s rest := by
  constructor
  · intro split
    unfold splitField at split
    split at split
    · cases split
      exact .minus rest
    · cases split
      exact .plus rest
    · cases split
      exact .greater rest
    · rename_i noMinus noPlus noGreater
      cases split
      have other {sign : Char} (differs : ∀ name, s ≠ sign :: name) :
          s.head? ≠ some sign := by
        intro first
        obtain ⟨name, shape⟩ := List.head?_eq_some_iff.mp first
        exact differs name shape
      exact .bare (other noMinus) (other noPlus) (other noGreater)
  · intro splits
    cases splits with
    | minus => rfl
    | plus => rfl
    | greater => rfl
    | bare noMinus noPlus noGreater =>
        unfold splitField
        split <;> simp_all

def Kind.read (written : String) : Kind → Option String → Except RuleFault Rule
  | .delete, none => readDelete written
  | .delete, some _ => .error (.unexpectedValue written)
  | .add, none => .error (.missingValue written)
  | .set, none => .error (.missingValue written)
  | .add, some value => readAdd written value
  | .set, some value => readSet written value

theorem read_of_splits {field : String} {kind : Kind} {rest : List Char}
    (splits : kind.Splits field.toList rest) (value? : Option String) :
    Rule.read field value? = kind.read (String.ofList rest) value? := by
  rw [Rule.read, splitField_eq_iff.mpr splits]
  cases kind <;> cases value? <;> rfl

/-- The rule that the rest of a field gives with a value or without one. -/
inductive Kind.Gives : Kind → String → Option String → Rule → Prop
  | delete {name : Name} {written : String} (named : name.WrittenAs written) :
      Gives .delete written none (.delete name)
  | add {name : Name} {value : Value} {written text : String}
      (named : name.WrittenAs written) (valued : value.WrittenAs text) :
      Gives .add written (some text) (.add name value)
  | set {name : Name} {value : Value} {written text : String}
      (named : name.WrittenAs written) (valued : value.WrittenAs text) :
      Gives .set written (some text) (.set name value)

theorem Kind.read_eq_ok_iff {kind : Kind} {written : String}
    {value? : Option String} {rule : Rule} :
    kind.read written value? = .ok rule ↔ kind.Gives written value? rule := by
  constructor
  · intro given
    cases kind with
    | set =>
        cases value? with
        | none => contradiction
        | some text =>
            obtain ⟨name, value, named, valued, rfl⟩ :=
              readSet_eq_ok_iff.mp given
            exact .set named valued
    | add =>
        cases value? with
        | none => contradiction
        | some text =>
            obtain ⟨name, value, named, valued, rfl⟩ :=
              readAdd_eq_ok_iff.mp given
            exact .add named valued
    | delete =>
        cases value? with
        | some text => contradiction
        | none =>
            obtain ⟨name, named, rfl⟩ := readDelete_eq_ok_iff.mp given
            exact .delete named
  · intro gives
    cases gives with
    | delete named => exact readDelete_eq_ok_iff.mpr ⟨_, named, rfl⟩
    | add named valued => exact readAdd_eq_ok_iff.mpr ⟨_, _, named, valued, rfl⟩
    | set named valued => exact readSet_eq_ok_iff.mpr ⟨_, _, named, valued, rfl⟩

theorem exists_splits_iff_writtenAs {field : String} {value? : Option String}
    {rule : Rule} :
    (∃ kind rest, Kind.Splits kind field.toList rest ∧
      kind.Gives (String.ofList rest) value? rule) ↔
    rule.WrittenAs field value? := by
  constructor
  · rintro ⟨kind, rest, splits, gives⟩
    generalize shape : field.toList = s at splits
    have signed (sign : String) (front : s = sign.toList ++ rest) :
        field = sign ++ String.ofList rest := by
      rw [← String.toList_inj, shape, front, String.toList_append,
        String.toList_ofList]
    cases splits with
    | minus =>
        cases gives with
        | delete named => exact signed "-" rfl ▸ .delete named
    | plus =>
        cases gives with
        | add named valued => exact signed "+" rfl ▸ .add named valued
    | greater =>
        cases gives with
        | set named valued => exact signed ">" rfl ▸ .set named valued
    | bare noMinus noPlus _ =>
        subst shape
        rw [String.ofList_toList] at gives
        cases gives with
        | set named valued => exact .bare named valued noMinus noPlus
  · intro written
    cases written with
    | delete named =>
        refine ⟨.delete, _, by simpa using .minus _, ?_⟩
        simpa using .delete named
    | add named valued =>
        refine ⟨.add, _, by simpa using .plus _, ?_⟩
        simpa using .add named valued
    | set named valued =>
        refine ⟨.set, _, by simpa using .greater _, ?_⟩
        simpa using .set named valued
    | bare named valued noMinus noPlus =>
        refine ⟨.set, field.toList,
          .bare noMinus noPlus (Name.head?_ne_of_writtenAs named), ?_⟩
        simpa using .set named valued

theorem read_eq_ok_iff {field : String} {value? : Option String}
    {rule : Rule} :
    read field value? = .ok rule ↔ rule.WrittenAs field value? := by
  rw [← exists_splits_iff_writtenAs]
  constructor
  · intro given
    have splits : Kind.Splits (splitField field.toList).1 field.toList
        (splitField field.toList).2 := splitField_eq_iff.mp rfl
    rw [read_of_splits splits] at given
    exact ⟨_, _, splits, Kind.read_eq_ok_iff.mp given⟩
  · rintro ⟨kind, rest, splits, gives⟩
    rw [read_of_splits splits]
    exact Kind.read_eq_ok_iff.mpr gives

/-! Writing rules again. -/

theorem isText_of_writtenAs {rule : Rule} {field : String}
    {value? : Option String} (written : rule.WrittenAs field value?) :
    rule.IsText := by
  intro value known
  cases written with
  | delete => contradiction
  | add _ valued =>
      cases known
      exact ⟨_, valued.bytes⟩
  | set _ valued =>
      cases known
      exact ⟨_, valued.bytes⟩
  | bare _ valued _ _ =>
      cases known
      exact ⟨_, valued.bytes⟩

theorem writtenAs_field {rule : Rule} (isText : rule.IsText) :
    rule.WrittenAs rule.field rule.text? := by
  cases rule with
  | delete name => exact .delete name.writtenAs_text
  | add name value =>
      obtain ⟨s, bytes⟩ := isText value rfl
      have text : (Rule.add name value).text? = some s :=
        ofUtf8?_eq_some_iff.mpr bytes
      rw [text]
      exact .add name.writtenAs_text (Value.writtenAs_of_bytes bytes)
  | set name value =>
      obtain ⟨s, bytes⟩ := isText value rfl
      have text : (Rule.set name value).text? = some s :=
        ofUtf8?_eq_some_iff.mpr bytes
      rw [text]
      exact .set name.writtenAs_text (Value.writtenAs_of_bytes bytes)

/-- Reading a field, with a value or without one, gives a rule exactly if they
are one of its forms, and no two rules have a form in common.  A rule can be
written out and read back exactly if its value makes a text, as it does for all
rules that are made from texts, and so for all that were read. -/
theorem read_exact :
    (∀ (field : String) (value? : Option String) (rule : Rule),
      read field value? = .ok rule ↔ rule.WrittenAs field value?) ∧
    (∀ (field : String) (value? : Option String) (rule other : Rule),
      rule.WrittenAs field value? → other.WrittenAs field value? →
        rule = other) ∧
    (∀ rule : Rule, read rule.field rule.text? = .ok rule ↔ rule.IsText) ∧
    (∀ (name text : String) (rule : Rule), readSet name text = .ok rule ∨
      readAdd name text = .ok rule ∨ readDelete name = .ok rule →
        rule.IsText) ∧
    (∀ (field : String) (value? : Option String) (rule : Rule),
      read field value? = .ok rule →
        read rule.field rule.text? = .ok rule) := by
  have again {rule : Rule} (isText : rule.IsText) :
      read rule.field rule.text? = .ok rule :=
    read_eq_ok_iff.mpr (writtenAs_field isText)
  refine ⟨fun _ _ _ => read_eq_ok_iff, ?_, fun rule => ⟨?_, again⟩, ?_, ?_⟩
  · intro field value? rule other first second
    have same := (read_eq_ok_iff.mpr first).symm.trans
      (read_eq_ok_iff.mpr second)
    exact Except.ok.inj same
  · intro given
    exact isText_of_writtenAs (read_eq_ok_iff.mp given)
  · rintro name text rule (made | made | made)
    · obtain ⟨_, value, _, valued, rfl⟩ := readSet_eq_ok_iff.mp made
      rintro _ ⟨⟩
      exact ⟨text, valued.bytes⟩
    · obtain ⟨_, value, _, valued, rfl⟩ := readAdd_eq_ok_iff.mp made
      rintro _ ⟨⟩
      exact ⟨text, valued.bytes⟩
    · obtain ⟨_, _, rfl⟩ := readDelete_eq_ok_iff.mp made
      rintro _ ⟨⟩
  · intro field value? rule given
    exact again (isText_of_writtenAs (read_eq_ok_iff.mp given))

example : read "--x" none = .ok (.delete ⟨"-x", by decide⟩) := by
  decide

end Rule

end VirtualHosts.Header
