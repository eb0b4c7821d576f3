import CrossDriver.Proofs.Link.Outcome
import CrossDriver.Proofs.Toolchain.CompileArgs
import CrossDriver.Session

namespace CrossDriver

open Traced

theorem onlyTo_chooseRuntime (e : Engine) (c : Config) : (chooseRuntime e c).OnlyTo e := by
  unfold chooseRuntime
  split
  · exact onlyTo_pure _
  · split
    · exact onlyTo_bind (onlyTo_report _) fun _ _ => onlyTo_pure _
    · exact onlyTo_pure _

theorem onlyTo_chooseCxx (e : Engine) (c : Config) : (chooseCxx e c).OnlyTo e := by
  unfold chooseCxx
  split
  · exact onlyTo_pure _
  · split
    · exact onlyTo_pure _
    · exact onlyTo_bind (onlyTo_report _) fun _ _ => onlyTo_pure _

namespace Toolchain

variable (t : Toolchain) (c : Config)

theorem onlyTo_cxxLibraryArgs : (t.cxxLibraryArgs c).OnlyTo t.engine :=
  onlyTo_bind (onlyTo_chooseCxx t.engine c) fun _ _ => onlyTo_ofExcept _

theorem onlyTo_runtimeArgs : (t.runtimeArgs c).OnlyTo t.engine :=
  onlyTo_bind (onlyTo_chooseRuntime t.engine c) fun _ _ =>
    onlyTo_bind (onlyTo_ofExcept _) fun _ _ => onlyTo_ofExcept _

theorem onlyTo_cxxHeaders : (t.cxxHeaders c).OnlyTo t.engine := by
  unfold cxxHeaders
  split
  · exact onlyTo_pure _
  · exact onlyTo_bind (onlyTo_chooseCxx t.engine c) fun _ _ => onlyTo_ofExcept _

theorem onlyTo_modeHeaders : (t.modeHeaders c).OnlyTo t.engine := by
  unfold modeHeaders
  split
  · exact t.onlyTo_cxxHeaders c
  · exact onlyTo_pure _

theorem onlyTo_compileArgs : (t.compileArgs c).OnlyTo t.engine := by
  rw [compileArgs_eq]
  exact onlyTo_bind (t.onlyTo_modeHeaders c) fun _ _ =>
    onlyTo_bind (onlyTo_ofExcept _) fun _ _ => onlyTo_pure _

end Toolchain

namespace LinkRule

theorem onlyTo_cxxTokens (c : Config) (t : Toolchain) : (cxxTokens c t).OnlyTo t.engine := by
  unfold cxxTokens
  split
  · exact onlyTo_bind (t.onlyTo_cxxLibraryArgs c) fun _ _ => onlyTo_pure _
  · exact onlyTo_pure _

theorem onlyTo_emit (ctx : LinkContext) (rule : LinkRule) :
    (emit ctx rule).OnlyTo ctx.toolchain.engine := by
  cases rule with
  | claim => exact onlyTo_of_silent (Prod.mk.inj (outcome_emit_claim ctx)).2
  | lto => exact onlyTo_bind (onlyTo_ofExcept _) fun _ _ => onlyTo_pure _
  | defaultLibs =>
    exact onlyTo_bind (onlyTo_cxxTokens ctx.config ctx.toolchain) fun _ _ =>
      onlyTo_bind (ctx.toolchain.onlyTo_runtimeArgs ctx.config) fun _ _ => onlyTo_pure _
  | _ => exact onlyTo_pure _

end LinkRule

namespace Linker

theorem onlyTo_tokens (ctx : LinkContext) (rules : List LinkRule) :
    (tokens ctx rules).OnlyTo ctx.toolchain.engine := by
  induction rules with
  | nil => exact onlyTo_pure _
  | cons rule rest ih =>
    rw [tokens]
    split
    · exact onlyTo_bind (LinkRule.onlyTo_emit ctx rule) fun _ _ =>
        onlyTo_bind ih fun _ _ => onlyTo_pure _
    · exact ih

theorem engine_of_context_ok {l : Linker} {c : Config} {ctx : LinkContext}
    (given : (l.context c).result = .ok ctx) : ctx.toolchain.engine = l.toolchain.engine := by
  rw [result_context] at given
  split at given
  · cases given
  · obtain ⟨linker, -, rfl⟩ := exists_of_map_eq_ok given
    rfl

variable (l : Linker) (c : Config)

theorem onlyTo_command : (l.command c).OnlyTo l.toolchain.engine := by
  refine onlyTo_bind (onlyTo_of_silent (l.diagnostics_context c)) fun ctx given => ?_
  rw [← engine_of_context_ok given]
  exact onlyTo_bind (onlyTo_tokens ctx l.rules) fun _ _ =>
    onlyTo_bind (onlyTo_of_silent rfl) fun _ _ => onlyTo_pure _

theorem onlyTo_firedRules : (l.firedRules c).OnlyTo l.toolchain.engine :=
  onlyTo_of_silent (l.diagnostics_firedRules c)

end Linker

namespace Session

theorem onlyTo_answer (t : Toolchain) (c : Config) (query : Query) :
    (answer t c query).OnlyTo t.engine := by
  cases query with
  | targetOptions => exact onlyTo_pure _
  | compileArgs => exact onlyTo_map (t.onlyTo_compileArgs c) _
  | systemHeaders | linker => exact onlyTo_map (onlyTo_ofExcept _) _
  | cxxHeaders | cxxHeaderArgs => exact onlyTo_map (t.onlyTo_cxxHeaders c) _
  | cxxLibraryArgs => exact onlyTo_map (t.onlyTo_cxxLibraryArgs c) _
  | runtimeArgs => exact onlyTo_map (t.onlyTo_runtimeArgs c) _
  | runtimeLibrary => exact onlyTo_map (onlyTo_chooseRuntime t.engine c) _
  | cxxLibrary => exact onlyTo_map (onlyTo_chooseCxx t.engine c) _
  | firedRules => exact onlyTo_map (Linker.onlyTo_firedRules _ c) _

end Session

/-! ## Which engine it is -/

theorem outcome_chooseRuntime (e other : Engine) (c : Config) :
    (chooseRuntime e c).outcome = (chooseRuntime other c).outcome :=
  outcome_eq_iff.mpr
    ⟨(chooseRuntime_result e c).trans (chooseRuntime_result other c).symm,
      (diagnostics_chooseRuntime e c).trans (diagnostics_chooseRuntime other c).symm⟩

def Toolchain.reporting (t : Toolchain) (e : Engine) : Toolchain :=
  { t with engine := e }

def LinkContext.reporting (ctx : LinkContext) (e : Engine) : LinkContext :=
  { ctx with toolchain := ctx.toolchain.reporting e }

namespace Toolchain

variable (t : Toolchain) (e : Engine) (c : Config)

theorem outcome_runtimeArgs_reporting :
    ((t.reporting e).runtimeArgs c).outcome = (t.runtimeArgs c).outcome :=
  outcome_bind_congr (outcome_chooseRuntime _ _ c) fun _ _ => rfl

theorem outcome_compileArgs_reporting :
    ((t.reporting e).compileArgs c).outcome = (t.compileArgs c).outcome := by
  have headers : ((t.reporting e).modeHeaders c).outcome = (t.modeHeaders c).outcome :=
    outcome_eq_iff.mpr ⟨(result_modeHeaders _ c).trans (result_modeHeaders t c).symm,
      (diagnostics_modeHeaders _ c).trans (diagnostics_modeHeaders t c).symm⟩
  rw [compileArgs_eq, compileArgs_eq]
  exact outcome_bind_congr headers fun _ _ => rfl

end Toolchain

namespace Linker

theorem outcome_emit_reporting (ctx : LinkContext) (e : Engine) (rule : LinkRule) :
    (rule.emit (ctx.reporting e)).outcome = (rule.emit ctx).outcome := by
  cases rule with
  | defaultLibs =>
    have cxx (t : Toolchain) : (LinkRule.cxxTokens ctx.config (t.reporting e)).outcome =
        (LinkRule.cxxTokens ctx.config t).outcome :=
      outcome_eq_iff.mpr
        ⟨(LinkRule.result_cxxTokens _ _).trans (LinkRule.result_cxxTokens _ t).symm,
          (LinkRule.diagnostics_cxxTokens _ _).trans (LinkRule.diagnostics_cxxTokens _ t).symm⟩
    exact outcome_bind_congr (cxx ctx.toolchain) fun _ _ =>
      outcome_bind_congr (ctx.toolchain.outcome_runtimeArgs_reporting e ctx.config) fun _ _ => rfl
  | _ => rfl

theorem outcome_tokens_reporting (ctx : LinkContext) (e : Engine) (rules : List LinkRule) :
    (tokens (ctx.reporting e) rules).outcome = (tokens ctx rules).outcome := by
  induction rules with
  | nil => rfl
  | cons rule rest ih =>
    rw [tokens, tokens]
    change (if rule.applies ctx.config then _ else _ : Traced (List String)).outcome = _
    split
    · exact outcome_bind_congr (outcome_emit_reporting ctx e rule) fun _ _ =>
        outcome_bind_congr ih fun _ _ => rfl
    · exact ih

variable (l : Linker) (e : Engine) (c : Config)

theorem result_context_reporting :
    (context { l with toolchain := l.toolchain.reporting e } c).result =
      (l.context c).result.map (·.reporting e) := by
  rw [result_context, result_context]
  split
  · rfl
  · change (((l.toolchain.relocated c).findLinker c).map _) = _
    cases (l.toolchain.relocated c).findLinker c <;> rfl

theorem outcome_command_reporting :
    (command { l with toolchain := l.toolchain.reporting e } c).outcome = (l.command c).outcome := by
  apply outcome_eq_iff.mpr
  rw [result_command, result_command, diagnostics_command, diagnostics_command,
    result_context_reporting]
  cases (l.context c).result with
  | error fault => exact ⟨rfl, rfl⟩
  | ok ctx =>
    obtain ⟨answers, reports⟩ := outcome_eq_iff.mp (outcome_tokens_reporting ctx e l.rules)
    refine ⟨?_, reports⟩
    change ((tokens (ctx.reporting e) l.rules).result >>= _) = ((tokens ctx l.rules).result >>= _)
    rw [answers]
    rfl

theorem outcome_firedRules_reporting :
    (firedRules { l with toolchain := l.toolchain.reporting e } c).outcome =
      (l.firedRules c).outcome := by
  apply outcome_eq_iff.mpr
  rw [result_firedRules, result_firedRules, diagnostics_firedRules, diagnostics_firedRules,
    result_context_reporting]
  cases (l.context c).result <;> exact ⟨rfl, rfl⟩

end Linker

namespace Config

theorem onlyTo_parse (argv : List String) (cxx pieDefault : Bool) (given : Option Engine)
    (fresh : Engine) : (parse argv cxx pieDefault given fresh).OnlyTo (given.getD fresh) := by
  unfold parse parseWith
  dsimp only
  intro other d mem
  split at mem
  · obtain ⟨_, -, same⟩ := List.mem_map.mp mem
    cases same
    rfl
  · rcases List.mem_append.mp mem with reported | logged
    · obtain ⟨_, -, same⟩ := List.mem_map.mp reported
      cases same
      rfl
    · cases List.mem_singleton.mp logged

theorem result_parse_given (argv : List String) (cxx pieDefault : Bool) (given : Option Engine)
    (fresh : Engine) :
    (parse argv cxx pieDefault given fresh).result = (parse argv cxx pieDefault).result := by
  unfold parse parseWith
  dsimp only
  split <;> rfl

theorem diagnostics_parse_given (argv : List String) (cxx pieDefault : Bool)
    (given : Option Engine) (fresh : Engine) :
    (parse argv cxx pieDefault given fresh).diagnostics =
      (parse argv cxx pieDefault).diagnostics :=
  (diagnostics_parseWith _ _ _ _ _ _).trans (diagnostics_parseWith _ _ _ _ _ _).symm

end Config

/-! ## What engines hold -/

namespace Engines

variable {α β : Type} (engines : Engines)

theorem collect_of_onlyTo {e : Engine} {job : Traced α} (only : job.OnlyTo e) :
    engines.collect job = engines.add e job.diagnostics := by
  funext other
  rw [collect, add, reportsTo_of_onlyTo only]
  split
  · rfl
  · exact List.append_nil _

theorem collect_of_silent {job : Traced α} (silent : job.diagnostics = []) :
    engines.collect job = engines := by
  funext other
  rw [collect, reportsTo_of_onlyTo (e := other) (onlyTo_of_silent silent), silent, ite_self]
  exact List.append_nil _

end Engines

end CrossDriver
