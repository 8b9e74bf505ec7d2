import Mathlib
import VirtualHosts.Proofs.Header.RuleForms
import VirtualHosts.Proofs.Site.AddressForms

/-!
Options and rules.  What is accepted of them is said of each directive alone,
and the rules of a header directive are those that its lines give, in order.
-/

namespace VirtualHosts.Site

open VirtualHosts.Header

/-! Options. -/

namespace Directive

structure IsProtocols (entry : Directive) : Prop where
  name : entry.name.text = "protocols"
  blockless : entry.block? = none
  nonempty : entry.arguments ≠ []
  served : ∀ argument ∈ entry.arguments, argument.text = "h1"

structure IsServers (entry : Directive) : Prop where
  name : entry.name.text = "servers"
  plain : entry.arguments = []
  block : ∃ block, entry.block? = some block ∧ ∀ line ∈ block, line.IsProtocols

structure IsOff (entry : Directive) : Prop where
  name : entry.name.text = "admin" ∨ entry.name.text = "auto_https"
  blockless : entry.block? = none
  off : ∃ value : Token, entry.arguments = [value] ∧ value.text = "off"

inductive IsOption (entry : Directive) : Prop
  | protocols (isProtocols : entry.IsProtocols)
  | servers (isServers : entry.IsServers)
  | off (isOff : entry.IsOff)

structure IsOptions (directive : Directive) : Prop where
  anonymous : directive.name.is "\x7b" = true
  options : ∀ entry ∈ directive.block?.getD [], entry.IsOption

end Directive

theorem noBlock_eq_ok_iff {directive : Directive} :
    noBlock directive = .ok () ↔ directive.block? = none := by
  rw [noBlock]
  cases directive.block? <;> simp

theorem checkProtocol_eq_ok_iff {argument : Token} :
    checkProtocol argument = .ok () ↔ argument.text = "h1" := by
  simp [checkProtocol]

theorem checkProtocols_eq_ok_iff {entry : Directive}
    (name : entry.name.text = "protocols") :
    checkProtocols entry = .ok () ↔ entry.IsProtocols := by
  rw [checkProtocols, check_bind_eq_ok_iff, noBlock_eq_ok_iff]
  constructor
  · rintro ⟨blockless, checked⟩
    split at checked
    · contradiction
    · rename_i nonempty
      rw [forM_eq_ok_iff] at checked
      simp only [checkProtocol_eq_ok_iff] at checked
      exact ⟨name, blockless, by simpa using nonempty, checked⟩
  · intro isProtocols
    refine ⟨isProtocols.blockless, ?_⟩
    rw [if_neg (by simpa using isProtocols.nonempty), forM_eq_ok_iff]
    simp only [checkProtocol_eq_ok_iff]
    exact isProtocols.served

theorem checkServersEntry_eq_ok_iff {entry : Directive} :
    checkServersEntry entry = .ok () ↔ entry.IsProtocols := by
  rw [checkServersEntry]
  by_cases name : entry.name.text = "protocols"
  · rw [if_pos name, checkProtocols_eq_ok_iff name]
  · rw [if_neg name]
    exact ⟨nofun, fun isProtocols => absurd isProtocols.name name⟩

theorem checkServers_eq_ok_iff {entry : Directive}
    (name : entry.name.text = "servers") :
    checkServers entry = .ok () ↔ entry.IsServers := by
  rw [checkServers]
  constructor
  · intro checked
    split at checked
    · rename_i plain
      split at checked
      · contradiction
      · rename_i block shape
        rw [forM_eq_ok_iff] at checked
        simp only [checkServersEntry_eq_ok_iff] at checked
        exact ⟨name, by simpa using plain, block, shape, checked⟩
    · contradiction
  · rintro ⟨_, plain, block, shape, lines⟩
    rw [plain, shape]
    refine forM_eq_ok_iff.mpr ?_
    simp only [checkServersEntry_eq_ok_iff]
    exact lines

theorem checkOff_eq_ok_iff {entry : Directive}
    (name : entry.name.text = "admin" ∨ entry.name.text = "auto_https") :
    checkOff entry = .ok () ↔ entry.IsOff := by
  rw [checkOff, check_bind_eq_ok_iff, noBlock_eq_ok_iff]
  constructor
  · rintro ⟨blockless, checked⟩
    split at checked
    · rename_i value shape
      split at checked
      · rename_i off
        exact ⟨name, blockless, value, shape, off⟩
      · contradiction
    · contradiction
  · rintro ⟨_, blockless, value, shape, off⟩
    refine ⟨blockless, ?_⟩
    rw [shape]
    exact if_pos off

theorem checkOption_eq_ok_iff {entry : Directive} :
    checkOption entry = .ok () ↔ entry.IsOption := by
  constructor
  · intro checked
    unfold checkOption at checked
    split at checked
    · rename_i name
      exact .protocols ((checkProtocols_eq_ok_iff name).mp checked)
    · rename_i name
      exact .servers ((checkServers_eq_ok_iff name).mp checked)
    · rename_i name
      exact .off ((checkOff_eq_ok_iff (Or.inl name)).mp checked)
    · rename_i name
      exact .off ((checkOff_eq_ok_iff (Or.inr name)).mp checked)
    · contradiction
  · intro isOption
    unfold checkOption
    cases isOption with
    | protocols isProtocols =>
        rw [isProtocols.name]
        exact (checkProtocols_eq_ok_iff isProtocols.name).mpr isProtocols
    | servers isServers =>
        rw [isServers.name]
        exact (checkServers_eq_ok_iff isServers.name).mpr isServers
    | off isOff =>
        rcases isOff.name with name | name
        · rw [name]
          exact (checkOff_eq_ok_iff (Or.inl name)).mpr isOff
        · rw [name]
          exact (checkOff_eq_ok_iff (Or.inr name)).mpr isOff

theorem checkOptions_eq_ok_iff {directive : Directive}
    (anonymous : directive.name.is "\x7b" = true) :
    checkOptions directive = .ok () ↔ directive.IsOptions := by
  rw [checkOptions, forM_eq_ok_iff]
  simp only [checkOption_eq_ok_iff]
  exact ⟨fun options => ⟨anonymous, options⟩,
    fun isOptions => isOptions.options⟩

/-! Rules. -/

/-- The rule that a field gives with a value or without one. -/
inductive RuleLine (field : Token) : List Token → Rule → Prop
  | alone {rule : Rule} (written : rule.WrittenAs field.text none) :
      RuleLine field [] rule
  | valued {value : Token} {rule : Rule}
      (written : rule.WrittenAs field.text (some value.text)) :
      RuleLine field [value] rule

namespace Directive

/-- The rules that a directive gives on its line, or those on the lines of its
block. -/
inductive GivesRules : Directive → List Rule → Prop
  | line {name field : Token} {values : List Token} {rule : Rule}
      (written : RuleLine field values rule) :
      GivesRules (.mk name (field :: values) none) [rule]
  | block {name : Token} {block : List Directive} {rules : List Rule}
      (lines : List.Forall₂ (fun entry rule => entry.block? = none ∧
        RuleLine entry.name entry.arguments rule) block rules) :
      GivesRules (.mk name [] (some block)) rules

end Directive

theorem ruleOf_eq_ok_iff {field : Token} {values : List Token} {rule : Rule} :
    ruleOf field values = .ok rule ↔ RuleLine field values rule := by
  constructor
  · intro read
    unfold ruleOf at read
    simp only at read
    split at read
    · split at read
      · rename_i written
        cases read
        exact .alone (Rule.read_eq_ok_iff.mp written)
      · contradiction
    · split at read
      · rename_i written
        cases read
        exact .valued (Rule.read_eq_ok_iff.mp written)
      · contradiction
    · contradiction
  · intro line
    cases line with
    | alone written => simp only [ruleOf, Rule.read_eq_ok_iff.mpr written]
    | valued written => simp only [ruleOf, Rule.read_eq_ok_iff.mpr written]

theorem blockRule_eq_ok_iff {entry : Directive} {rule : Rule} :
    blockRule entry = .ok rule ↔
      entry.block? = none ∧ RuleLine entry.name entry.arguments rule := by
  rw [blockRule, ← ruleOf_eq_ok_iff]
  cases entry.block? <;> simp

theorem headerRules_eq_ok_iff {directive : Directive} {rules : List Rule} :
    headerRules directive = .ok rules ↔ directive.GivesRules rules := by
  constructor
  · intro read
    obtain ⟨name, arguments, block?⟩ := directive
    cases block? with
    | none =>
        cases arguments with
        | nil => contradiction
        | cons field values =>
            obtain ⟨rule, line, same⟩ := bind_eq_ok_iff.mp read
            cases same
            exact .line (ruleOf_eq_ok_iff.mp line)
    | some block =>
        cases arguments with
        | nil =>
            have lines := mapM_eq_ok_iff.mp read
            simp only [blockRule_eq_ok_iff] at lines
            exact .block lines
        | cons field values => contradiction
  · intro gives
    cases gives with
    | line written =>
        exact bind_eq_ok_iff.mpr ⟨_, ruleOf_eq_ok_iff.mpr written, rfl⟩
    | block lines =>
        refine mapM_eq_ok_iff.mpr ?_
        simp only [blockRule_eq_ok_iff]
        exact lines

end VirtualHosts.Site
