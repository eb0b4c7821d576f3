import CrossDriver.Proofs.Link.Failure

namespace CrossDriver

/-! ## Reports that are due -/

namespace Config

/-- What a rule reports: only the default libraries do, unless the C++ library is refused. -/
def ruleReports (c : Config) (rule : LinkRule) : Diagnostics :=
  if rule = .defaultLibs ∧ ¬LinkRule.refusesCxx c then c.libraryReports else []

def linkReports (c : Config) (rules : List LinkRule) : Diagnostics :=
  if c.usesLto && c.inputs.isEmpty then [] else rules.flatMap c.ruleReports

theorem ruleReports_of_refusesCxx {c : Config} (refuses : LinkRule.refusesCxx c = true)
    (rule : LinkRule) : c.ruleReports rule = [] :=
  if_neg fun both => both.2 refuses

end Config

/-! ## Rules -/

namespace LinkRule

theorem outcome_contribution_eq_pure (ctx : LinkContext) {rule : LinkRule}
    (lto : rule ≠ .lto) (libraries : rule ≠ .defaultLibs) :
    ∃ tokens, (contribution ctx rule).outcome = (.ok tokens, []) := by
  rw [contribution]
  split
  · cases rule with
    | claim => exact ⟨[], outcome_emit_claim ctx⟩
    | lto => exact absurd rfl lto
    | defaultLibs => exact absurd rfl libraries
    | _ => exact ⟨_, rfl⟩
  · exact ⟨[], rfl⟩

theorem diagnostics_contribution (ctx : LinkContext) (rule : LinkRule) :
    (contribution ctx rule).diagnostics = ctx.config.ruleReports rule := by
  by_cases libraries : rule = .defaultLibs
  · subst libraries
    by_cases refuses : refusesCxx ctx.config = true
    · rw [Config.ruleReports_of_refusesCxx refuses]
      exact diagnostics_contribution_defaultLibs_of_asks ctx
        ((Config.refusesCxx_iff _).mp refuses)
    · rw [Config.ruleReports, if_pos ⟨rfl, refuses⟩]
      exact diagnostics_contribution_defaultLibs ctx
        (mt (Config.refusesCxx_iff _).mpr refuses)
  · rw [Config.ruleReports, if_neg fun both => libraries both.1]
    by_cases lto : rule = .lto
    · rw [lto]
      exact diagnostics_contribution_lto ctx
    · obtain ⟨tokens, silent⟩ := outcome_contribution_eq_pure ctx lto libraries
      exact (Prod.mk.inj silent).2

theorem result_contribution_ok {ctx : LinkContext} (complete : ctx.toolchain.settings.Complete)
    (accepts : ¬refusesCxx ctx.config = true) (rule : LinkRule) :
    ∃ tokens, (contribution ctx rule).result = .ok tokens := by
  by_cases libraries : rule = .defaultLibs
  · rw [libraries]
    exact result_contribution_defaultLibs_ok ctx complete
      (mt (Config.refusesCxx_iff _).mpr accepts)
  · by_cases lto : rule = .lto
    · rw [lto]
      exact result_contribution_lto_ok ctx complete
    · obtain ⟨tokens, given⟩ := outcome_contribution_eq_pure ctx lto libraries
      exact ⟨tokens, (Prod.mk.inj given).1⟩

end LinkRule

/-! ## Tables of rules -/

namespace Linker
open LinkRule

theorem diagnostics_tokens_cons (ctx : LinkContext) (rule : LinkRule) (rest : List LinkRule) :
    (tokens ctx (rule :: rest)).diagnostics = ctx.config.ruleReports rule ++
      match (contribution ctx rule).result with
      | .ok _ => (tokens ctx rest).diagnostics
      | .error _ => [] := by
  rw [tokens_cons, Traced.diagnostics_bind, diagnostics_contribution]
  cases (contribution ctx rule).result with
  | error fault => rfl
  | ok first =>
    dsimp only
    rw [Traced.diagnostics_bind]
    cases (tokens ctx rest).result <;> simp

/-- Rules behind one that fails do not get to report. -/
theorem diagnostics_tokens_prefix (ctx : LinkContext) (rules : List LinkRule) :
    (tokens ctx rules).diagnostics <+: rules.flatMap ctx.config.ruleReports := by
  induction rules with
  | nil => exact List.nil_prefix
  | cons rule rest ih =>
    rw [diagnostics_tokens_cons, List.flatMap_cons, List.prefix_append_right_inj]
    cases (contribution ctx rule).result with
    | error fault => exact List.nil_prefix
    | ok first => exact ih

theorem diagnostics_tokens_of_ok {ctx : LinkContext} {rules : List LinkRule} {args : List String}
    (given : (tokens ctx rules).result = .ok args) :
    (tokens ctx rules).diagnostics = rules.flatMap ctx.config.ruleReports := by
  induction rules generalizing args with
  | nil => rfl
  | cons rule rest ih =>
    rw [tokens_cons, Traced.result_bind] at given
    obtain ⟨first, contributed, given⟩ := exists_of_bind_ok given
    rw [Traced.result_bind] at given
    obtain ⟨others, later, -⟩ := exists_of_bind_ok given
    rw [diagnostics_tokens_cons, contributed, List.flatMap_cons]
    exact congrArg _ (ih later)

theorem result_tokens_ok {ctx : LinkContext} (complete : ctx.toolchain.settings.Complete)
    (accepts : ¬refusesCxx ctx.config = true) (rules : List LinkRule) :
    ∃ args, (tokens ctx rules).result = .ok args := by
  induction rules with
  | nil => exact ⟨[], rfl⟩
  | cons rule rest ih =>
    obtain ⟨first, contributed⟩ := result_contribution_ok complete accepts rule
    obtain ⟨others, later⟩ := ih
    rw [tokens_cons, Traced.result_bind, contributed]
    change ∃ args, (tokens ctx rest >>= _).result = _
    rw [Traced.result_bind, later]
    exact ⟨first ++ others, rfl⟩

theorem diagnostics_tokens_of_complete (ctx : LinkContext)
    (complete : ctx.toolchain.settings.Complete) (rules : List LinkRule) :
    (tokens ctx rules).diagnostics = rules.flatMap ctx.config.ruleReports := by
  by_cases refuses : refusesCxx ctx.config = true
  · -- Nothing is reported by any rule, so it does not matter where the tokens end.
    have silent : rules.flatMap ctx.config.ruleReports = [] :=
      List.flatMap_eq_nil_iff.mpr fun rule _ => Config.ruleReports_of_refusesCxx refuses rule
    rw [silent]
    exact List.prefix_nil.mp (silent ▸ diagnostics_tokens_prefix ctx rules)
  · obtain ⟨args, given⟩ := result_tokens_ok complete refuses rules
    exact diagnostics_tokens_of_ok given

/-! ## Commands -/

variable (l : Linker) (c : Config)

theorem eq_of_context_ok {ctx : LinkContext} (given : (l.context c).result = .ok ctx) :
    (c.usesLto && c.inputs.isEmpty) = false ∧ ctx.config = c ∧
      ctx.toolchain = l.toolchain.relocated c := by
  rw [result_context] at given
  split at given
  · cases given
  · next worth =>
    cases found : (l.toolchain.relocated c).findLinker c with
    | error fault =>
      rw [found] at given
      cases given
    | ok linker =>
      rw [found] at given
      cases given
      exact ⟨Bool.not_eq_true _ ▸ worth, rfl, rfl⟩

theorem diagnostics_command_prefix : (l.command c).diagnostics <+: c.linkReports l.rules := by
  rw [diagnostics_command]
  cases given : (l.context c).result with
  | error fault => exact List.nil_prefix
  | ok ctx =>
    obtain ⟨worth, same, -⟩ := l.eq_of_context_ok c given
    rw [Config.linkReports, worth, ← same]
    exact diagnostics_tokens_prefix ctx l.rules

variable {l} {c}

theorem diagnostics_command_of_ok {command : LinkCommand}
    (linked : (l.command c).result = .ok command) :
    (l.command c).diagnostics = c.linkReports l.rules := by
  rw [result_command] at linked
  obtain ⟨ctx, given, linked⟩ := exists_of_bind_ok linked
  obtain ⟨args, built, -⟩ := exists_of_bind_ok linked
  obtain ⟨worth, same, -⟩ := l.eq_of_context_ok c given
  rw [diagnostics_command, given, Config.linkReports, worth, ← same]
  exact diagnostics_tokens_of_ok built

theorem diagnostics_command_of_complete (complete : l.toolchain.settings.Complete) :
    (l.command c).diagnostics = c.linkReports l.rules := by
  rw [diagnostics_command, Config.linkReports, result_context]
  cases c.usesLto && c.inputs.isEmpty with
  | true => rfl
  | false =>
    have complete : (l.toolchain.relocated c).settings.Complete := complete
    obtain ⟨linker, found⟩ := Toolchain.findLinker_ok complete c
    rw [found]
    exact diagnostics_tokens_of_complete ⟨c, l.toolchain.relocated c, linker.path⟩ complete
      l.rules

end Linker

end CrossDriver
