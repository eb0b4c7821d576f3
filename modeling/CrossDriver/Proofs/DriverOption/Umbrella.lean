import CrossDriver.Proofs.DriverOption.Spelled
import CrossDriver.Proofs.Toolchain.Omissions

namespace CrossDriver

/-! ## Configurations -/

/-- The configuration with the parts on that the options for several of them stand for, in place of
these. -/
def Config.unfolded (c : Config) : Config :=
  { c with
    noStdlib := false
    noStartFiles := c.noStdlib || c.noStartFiles
    noDefaultLibs := c.noStdlib || c.noDefaultLibs
    noStdInc := false
    noBuiltinInc := c.noStdInc || c.noBuiltinInc
    noStdlibInc := c.noStdInc || c.noStdlibInc }

section
variable (c : Config)

theorem Toolchain.linksCxx_unfolded : linksCxx c.unfolded = linksCxx c := by
  simp [linksCxx, Config.unfolded]

namespace LinkRule

theorem applies_unfolded (rule : LinkRule) : rule.applies c.unfolded = rule.applies c := by
  cases rule with
  | startFiles | defaultLibs => simp [applies, Config.unfolded]
  | _ => rfl

theorem cxxTokens_unfolded (t : Toolchain) : cxxTokens c.unfolded t = cxxTokens c t := by
  rw [cxxTokens, cxxTokens, Toolchain.linksCxx_unfolded]
  rfl

theorem emit_unfolded (t : Toolchain) (linker : String) (rule : LinkRule) :
    emit ⟨c.unfolded, t, linker⟩ rule = emit ⟨c, t, linker⟩ rule := by
  cases rule with
  | defaultLibs =>
    simp only [emit, defaultTokens, cxxTokens_unfolded]
    rfl
  | _ => rfl

end LinkRule

namespace Linker

theorem tokens_unfolded (t : Toolchain) (linker : String) (rules : List LinkRule) :
    tokens ⟨c.unfolded, t, linker⟩ rules = tokens ⟨c, t, linker⟩ rules := by
  induction rules with
  | nil => rfl
  | cons rule rest ih =>
    rw [tokens, tokens, LinkRule.applies_unfolded, LinkRule.emit_unfolded, ih]

theorem context_unfolded (l : Linker) :
    l.context c.unfolded = do
      let ctx ← l.context c
      return { ctx with config := c.unfolded } := by
  cases vain : c.usesLto && c.inputs.isEmpty with
  | true =>
    rw [context_of_not_linkable l vain]
    exact context_of_not_linkable l (c := c.unfolded) vain
  | false =>
    rw [context_of_linkable l vain]
    simp only [bind_assoc, pure_bind]
    exact context_of_linkable l (c := c.unfolded) vain

theorem context_bind_congr {α : Type} (l : Linker) {next : LinkContext → Traced α}
    (alike : ∀ t linker, next ⟨c.unfolded, t, linker⟩ = next ⟨c, t, linker⟩) :
    l.context c.unfolded >>= next = l.context c >>= next := by
  rw [context_unfolded, bind_assoc, Traced.bind_eq, Traced.bind_eq, Traced.andThen, Traced.andThen]
  cases given : (l.context c).result with
  | error fault => rfl
  | ok ctx =>
    obtain ⟨-, rfl, -⟩ := l.eq_of_context_ok c given
    have same := alike ctx.toolchain ctx.linker
    dsimp only
    rw [pure_bind, same]

theorem command_unfolded (l : Linker) : l.command c.unfolded = l.command c := by
  refine l.context_bind_congr c fun t linker => ?_
  rw [tokens_unfolded]

theorem firedRules_unfolded (l : Linker) : l.firedRules c.unfolded = l.firedRules c := by
  refine l.context_bind_congr c fun t linker => ?_
  simp only [LinkRule.applies_unfolded]

end Linker

namespace Toolchain

theorem modeHeaders_unfolded (t : Toolchain) : t.modeHeaders c.unfolded = t.modeHeaders c := by
  have suppressed : (c.unfolded.noStdInc || c.unfolded.noStdlibInc || c.unfolded.noCxxInc) =
      (c.noStdInc || c.noStdlibInc || c.noCxxInc) := by
    simp [Config.unfolded]
  rw [modeHeaders, modeHeaders, cxxHeaders, cxxHeaders, suppressed]
  rfl

theorem systemHeaders_unfolded (t : Toolchain) : t.systemHeaders c.unfolded = t.systemHeaders c := by
  have same (resources : String) :
      CrossDriver.systemHeaders c.unfolded resources = CrossDriver.systemHeaders c resources := by
    cases none : c.noStdInc <;> simp [CrossDriver.systemHeaders, Config.unfolded, none]
  simp only [systemHeaders, same]

theorem compileArgs_unfolded (t : Toolchain) : t.compileArgs c.unfolded = t.compileArgs c := by
  rw [compileArgs_eq, compileArgs_eq, modeHeaders_unfolded, systemHeaders_unfolded]
  rfl

end Toolchain
end

/-! ## Updates behind -/

def Edit.KeepsOmissions (e : Edit) : Prop :=
  ∀ f : Switch, f.OmitsFromImage ∨ f.OmitsHeaders → e ≠ .assign (.switch f false)

namespace Config

theorem unfolded_switch_true (c : Config) (f : Switch) :
    (c.unfolded.switch true f).unfolded = (c.switch true f).unfolded := by
  cases f <;> simp [switch, unfolded]

theorem unfolded_edit (c : Config) {e : Edit} (keeps : e.KeepsOmissions) :
    (c.unfolded.edit e).unfolded = (c.edit e).unfolded := by
  -- Only an omission that is taken back could tell a whole from its parts.
  cases e with
  | assign a =>
    cases a with
    | switch f on =>
      cases on with
      | true => exact c.unfolded_switch_true f
      | false =>
        cases f with
        | noStdlib => exact absurd rfl (keeps .noStdlib (.inl .noStdlib))
        | noStartFiles => exact absurd rfl (keeps .noStartFiles (.inl .noStartFiles))
        | noDefaultLibs => exact absurd rfl (keeps .noDefaultLibs (.inl .noDefaultLibs))
        | noStdInc => exact absurd rfl (keeps .noStdInc (.inr .noStdInc))
        | noBuiltinInc => exact absurd rfl (keeps .noBuiltinInc (.inr .noBuiltinInc))
        | noStdlibInc => exact absurd rfl (keeps .noStdlibInc (.inr .noStdlibInc))
        | _ => rfl
    | word field value => cases field <;> rfl
    | _ => rfl
  | _ => rfl

theorem unfolded_edits {c d : Config} (alike : c.unfolded = d.unfolded) {es : List Edit}
    (keep : ∀ e ∈ es, e.KeepsOmissions) : (c.edits es).unfolded = (d.edits es).unfolded := by
  induction es generalizing c d with
  | nil => exact alike
  | cons e rest ih =>
    obtain ⟨keeps, others⟩ := List.forall_mem_cons.mp keep
    refine ih ?_ others
    rw [← unfolded_edit c keeps, alike, unfolded_edit d keeps]

end Config

theorem DriverOption.eq_pie_of_assign_off : ∀ option ∈ table, ∀ f,
    option.action = .assign (.switch f false) → f = .pie := by
  have all : table.all (fun option => match option.action with
      | .assign (.switch f false) => f = .pie
      | _ => true) = true := by
    decide
  intro option mem f action
  simpa [action] using List.all_eq_true.mp all option mem

theorem Config.keepsOmissions_of_mem_argEdits {argv : List String} {e : Edit}
    (mem : e ∈ argEdits argv) : e.KeepsOmissions := by
  rintro f omission rfl
  obtain ⟨item, read, update⟩ := List.mem_filterMap.mp mem
  rw [ArgItem.edit?_eq_some_iff.mp update] at read
  rcases OptionLookup.assignment_of_mem_scan read with
    ⟨option, listed, action⟩ | ⟨mode, equal⟩ | ⟨field, value, equal⟩
  · obtain rfl := DriverOption.eq_pie_of_assign_off option listed f action
    rcases omission with image | headers
    · cases image
    · cases headers
  · cases equal
  · cases equal

/-! ## Driver arguments -/

inductive Umbrella : String → List String → Prop where
  | libraries : Umbrella "-nostdlib" ["-nostartfiles", "-nodefaultlibs"]
  | headers : Umbrella "-nostdinc" ["-nobuiltininc", "-nostdlibinc"]

namespace Umbrella
open OptionLookup Config

variable {whole : String} {parts : List String}

theorem spells (umbrella : Umbrella whole parts) :
    ∃ es fs, Spells [whole] es ∧ Spells parts fs ∧
      ∀ c : Config, (c.edits es).unfolded = (c.edits fs).unfolded := by
  have switched (field : Switch) (given : field ≠ .cxx ∧ field ≠ .pieDefault) :
      Spells [switchSpelling field] [.assign (.switch field true)] := spells_switch given
  cases umbrella with
  | libraries =>
    have startFiles := switched .noStartFiles (by decide)
    have defaultLibs := switched .noDefaultLibs (by decide)
    refine ⟨_, _, switched .noStdlib (by decide), startFiles.append defaultLibs, fun c => ?_⟩
    simp [edits, edit, assign, switch, unfolded]
  | headers =>
    have builtin := switched .noBuiltinInc (by decide)
    have library := switched .noStdlibInc (by decide)
    refine ⟨_, _, switched .noStdInc (by decide), builtin.append library, fun c => ?_⟩
    simp [edits, edit, assign, switch, unfolded]

end Umbrella

namespace Config
open OptionLookup

theorem outcome_parse_bind_congr {α : Type} {argv others : List String} {cxx pieDefault : Bool}
    {job : Config → Traced α}
    (missing : (standard.scan argv).findSome? ArgItem.missingValue? =
      (standard.scan others).findSome? ArgItem.missingValue?)
    (reports : (standard.scan argv).filterMap ArgItem.diagnostic? =
      (standard.scan others).filterMap ArgItem.diagnostic?)
    (alike : job (({} : Config).edits (updates argv cxx pieDefault)) =
      job (({} : Config).edits (updates others cxx pieDefault))) :
    (parse argv cxx pieDefault >>= job).outcome = (parse others cxx pieDefault >>= job).outcome := by
  rw [Traced.outcome_eq_iff, Traced.result_bind, Traced.result_bind, Traced.diagnostics_bind,
    Traced.diagnostics_bind, diagnostics_parse, diagnostics_parse, reports]
  cases lacks : (standard.scan argv).findSome? ArgItem.missingValue? with
  | some spelling =>
    rw [result_parse_eq_missing_iff.mpr lacks,
      result_parse_eq_missing_iff.mpr (missing.symm.trans lacks)]
    exact ⟨rfl, rfl⟩
  | none =>
    rw [result_parse_eq_ok_iff.mpr ⟨lacks, rfl⟩,
      result_parse_eq_ok_iff.mpr ⟨missing.symm.trans lacks, rfl⟩]
    constructor
    · exact congrArg Traced.result alike
    · dsimp only
      rw [alike]

section
variable {before argv : List String} (place : standard.openAfter before = true) {es : List Edit}
  (spelled : Spells argv es) (behind : List String)
include place spelled

theorem findSome?_missingValue?_between :
    (standard.scan (before ++ argv ++ behind)).findSome? ArgItem.missingValue? =
      (standard.scan before ++ standard.scan behind).findSome? ArgItem.missingValue? := by
  have none : (es.map ArgItem.edit).findSome? ArgItem.missingValue? = none := by
    simp [ArgItem.missingValue?]
  rw [spelled.scan_between place, List.findSome?_append, List.findSome?_append, none,
    Option.or_none, List.findSome?_append]

theorem filterMap_diagnostic?_between :
    (standard.scan (before ++ argv ++ behind)).filterMap ArgItem.diagnostic? =
      (standard.scan before ++ standard.scan behind).filterMap ArgItem.diagnostic? := by
  rw [spelled.scan_between place]
  simp [List.filterMap_map, Function.comp_def, ArgItem.diagnostic?]

theorem edits_between (cxx pieDefault : Bool) :
    ({} : Config).edits (updates (before ++ argv ++ behind) cxx pieDefault) =
      ((({} : Config).edits (updates before cxx pieDefault)).edits es).edits (argEdits behind) := by
  have further : standard.openAfter (before ++ argv) = true := by
    rw [openAfter_append _ place, spelled.place]
  have own : argEdits argv = es := by
    simp [argEdits, spelled.read, List.filterMap_map, Function.comp_def, ArgItem.edit?]
  rw [updates_append further, updates_append place, edits_append, edits_append, own]

end

end Config

namespace Umbrella
open OptionLookup Config

variable {whole : String} {parts before : List String}

theorem outcome_parse_bind {α : Type} (umbrella : Umbrella whole parts)
    (place : standard.openAfter before = true) (behind : List String) (cxx pieDefault : Bool)
    {job : Config → Traced α} (alike : ∀ c : Config, job c.unfolded = job c) :
    (parse (before ++ [whole] ++ behind) cxx pieDefault >>= job).outcome =
      (parse (before ++ parts ++ behind) cxx pieDefault >>= job).outcome := by
  obtain ⟨es, fs, one, several, same⟩ := umbrella.spells
  apply outcome_parse_bind_congr
  · rw [findSome?_missingValue?_between place one, findSome?_missingValue?_between place several]
  · rw [filterMap_diagnostic?_between place one, filterMap_diagnostic?_between place several]
  · have keep (e : Edit) (mem : e ∈ argEdits behind) : e.KeepsOmissions :=
      keepsOmissions_of_mem_argEdits mem
    have unfolded :=
      unfolded_edits (same (({} : Config).edits (updates before cxx pieDefault))) keep
    rw [edits_between place one, edits_between place several, ← alike, unfolded, alike]

end Umbrella

/-- In the place of such an option its parts may stand, whatever stands before and behind: what is
linked and compiled, by which rules, and what is reported, stay the same. -/
theorem outcome_of_umbrella {whole : String} {parts : List String} (umbrella : Umbrella whole parts)
    {argv before behind : List String}
    (stands : OptionLookup.standard.StandsAt argv before whole behind) (cxx pieDefault : Bool)
    (t : Toolchain) :
    let read := Config.parse argv cxx pieDefault
    let readParts := Config.parse (before ++ parts ++ behind) cxx pieDefault
    (read >>= t.link).outcome = (readParts >>= t.link).outcome ∧
      (read >>= Linker.firedRules { toolchain := t }).outcome =
        (readParts >>= Linker.firedRules { toolchain := t }).outcome ∧
      (read >>= t.compileArgs).outcome = (readParts >>= t.compileArgs).outcome := by
  have split : argv = before ++ [whole] ++ behind := by simpa using stands.split
  rw [split]
  refine ⟨?_, ?_, ?_⟩
  · exact umbrella.outcome_parse_bind stands.place behind cxx pieDefault
      fun c => Linker.command_unfolded c { toolchain := t }
  · exact umbrella.outcome_parse_bind stands.place behind cxx pieDefault
      fun c => Linker.firedRules_unfolded c { toolchain := t }
  · exact umbrella.outcome_parse_bind stands.place behind cxx pieDefault
      fun c => t.compileArgs_unfolded c

theorem outcome_of_umbrella_behind_value :
    let t : Toolchain := ⟨{}, ⟨"x86_64", "unknown", "kush", ""⟩, "/sdk", fun _ => false, 0⟩
    (Config.parse ["-o", "-nostdlib", "-nostdlib", "-stdlib=other", "a.o", "-z"] true true >>=
        t.link).outcome =
        (Config.parse ["-o", "-nostdlib", "-nostartfiles", "-nodefaultlibs", "-stdlib=other", "a.o",
          "-z"] true true >>= t.link).outcome ∧
      (Config.parse ["-stdlib=libstdc++", "-nostdinc", "--", "a.o"] true false >>=
        t.compileArgs).outcome =
        (.ok ["-triple", "x86_64-unknown-kush", "-ffunction-sections", "-fdata-sections"], []) ∧
      (Config.parse ["-stdlib=libstdc++", "-nobuiltininc", "-nostdlibinc", "--", "a.o"] true
          false >>= t.compileArgs).outcome =
        (.ok ["-triple", "x86_64-unknown-kush", "-ffunction-sections", "-fdata-sections"], []) := by
  intro t
  have output : OptionLookup.standard.StandsAt
      ["-o", "-nostdlib", "-nostdlib", "-stdlib=other", "a.o", "-z"] ["-o", "-nostdlib"] "-nostdlib"
      ["-stdlib=other", "a.o", "-z"] := ⟨rfl, rfl⟩
  have library : OptionLookup.standard.StandsAt ["-stdlib=libstdc++", "-nostdinc", "--", "a.o"]
      ["-stdlib=libstdc++"] "-nostdinc" ["--", "a.o"] := ⟨rfl, rfl⟩
  have whole : (Config.parse ["-stdlib=libstdc++", "-nostdinc", "--", "a.o"] true false >>=
      t.compileArgs).outcome =
      (.ok ["-triple", "x86_64-unknown-kush", "-ffunction-sections", "-fdata-sections"], []) := by
    decide +kernel
  exact ⟨(outcome_of_umbrella .libraries output true true t).1, whole,
    (outcome_of_umbrella .headers library true false t).2.2.symm.trans whole⟩

end CrossDriver
