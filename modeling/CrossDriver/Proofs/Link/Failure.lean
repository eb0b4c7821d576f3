import CrossDriver.Proofs.Engines
import CrossDriver.Proofs.Toolchain.Complete

namespace CrossDriver

namespace Config

def OptimisesNothing (c : Config) : Prop :=
  c.lto ≠ .none ∧ c.inputs = []

def LinksCxx (c : Config) : Prop :=
  c.cxx = true ∧ c.noStdlib = false ∧ c.noDefaultLibs = false ∧ c.noCxxStdlib = false

def AsksForLibstdcxx (c : Config) : Prop :=
  c.LinksCxx ∧ c.cxxStdlib = some "libstdc++"

def LinksRuntime (c : Config) : Prop :=
  c.noStdlib = false ∧ c.noDefaultLibs = false

instance : DecidablePred LinksCxx := fun c =>
  inferInstanceAs (Decidable (c.cxx = true ∧ _))

instance : DecidablePred LinksRuntime := fun c =>
  inferInstanceAs (Decidable (c.noStdlib = false ∧ _))

def libraryReports (c : Config) : Diagnostics :=
  (if c.LinksCxx then c.cxxReports else []) ++ if c.LinksRuntime then c.runtimeReports else []

theorem optimisesNothing_iff (c : Config) :
    c.OptimisesNothing ↔ (c.usesLto && c.inputs.isEmpty) = true := by
  simp [OptimisesNothing, usesLto]

theorem linksCxx_iff (c : Config) : (c.cxx && Toolchain.linksCxx c) = true ↔ c.LinksCxx := by
  simp [LinksCxx, Toolchain.linksCxx, and_assoc]

theorem linksRuntime_iff (c : Config) :
    LinkRule.applies c .defaultLibs = true ↔ c.LinksRuntime := by
  simp [LinksRuntime, LinkRule.applies]

theorem refusesCxx_iff (c : Config) : LinkRule.refusesCxx c = true ↔ c.AsksForLibstdcxx := by
  rw [LinkRule.refusesCxx, Bool.and_eq_true, linksCxx_iff, decide_eq_true_eq, AsksForLibstdcxx]

theorem LinksCxx.linksRuntime {c : Config} (links : c.LinksCxx) : c.LinksRuntime :=
  ⟨links.2.1, links.2.2.1⟩

end Config

/-! ## The rules that can fail -/

namespace LinkRule

theorem result_contribution_lto_ok (ctx : LinkContext)
    (complete : ctx.toolchain.settings.Complete) :
    ∃ tokens, (contribution ctx .lto).result = .ok tokens := by
  have plugin : ∃ plugin, pluginTokens ctx = .ok plugin := by
    obtain ⟨base, beside⟩ := complete.besideInstallation_ok
    rw [pluginTokens, beside]
    split <;> exact ⟨_, rfl⟩
  obtain ⟨plugin, given⟩ := plugin
  rw [result_contribution_lto, given]
  split <;> exact ⟨_, rfl⟩

theorem contribution_defaultLibs_of_linksRuntime {ctx : LinkContext}
    (links : ctx.config.LinksRuntime) :
    contribution ctx .defaultLibs = defaultTokens ctx.config ctx.toolchain := by
  rw [contribution, (Config.linksRuntime_iff _).mpr links]
  rfl

theorem contribution_defaultLibs_of_not_linksRuntime {ctx : LinkContext}
    (suppressed : ¬ctx.config.LinksRuntime) : contribution ctx .defaultLibs = pure [] := by
  rw [contribution, if_neg fun fires => suppressed ((Config.linksRuntime_iff _).mp fires)]

theorem result_contribution_defaultLibs_of_asks (ctx : LinkContext)
    (asks : ctx.config.AsksForLibstdcxx) :
    (contribution ctx .defaultLibs).result = .error (.unsupportedCxxLibrary .libstdcxx) := by
  rw [contribution_defaultLibs_of_linksRuntime asks.1.linksRuntime, result_defaultTokens,
    if_pos ((Config.refusesCxx_iff _).mpr asks)]

theorem diagnostics_contribution_defaultLibs_of_asks (ctx : LinkContext)
    (asks : ctx.config.AsksForLibstdcxx) : (contribution ctx .defaultLibs).diagnostics = [] := by
  rw [contribution_defaultLibs_of_linksRuntime asks.1.linksRuntime, diagnostics_defaultTokens,
    if_pos ((Config.refusesCxx_iff _).mpr asks)]

theorem result_contribution_defaultLibs_ok (ctx : LinkContext)
    (complete : ctx.toolchain.settings.Complete) (accepts : ¬ctx.config.AsksForLibstdcxx) :
    ∃ tokens, (contribution ctx .defaultLibs).result = .ok tokens := by
  by_cases links : ctx.config.LinksRuntime
  · have located : ∃ dir, ctx.toolchain.resourceDir = .ok dir := complete.resourceDirectory_ok
    obtain ⟨dir, located⟩ := located
    rw [contribution_defaultLibs_of_linksRuntime links, result_defaultTokens,
      if_neg fun refused => accepts ((Config.refusesCxx_iff _).mp refused), located]
    exact ⟨_, rfl⟩
  · rw [contribution_defaultLibs_of_not_linksRuntime links]
    exact ⟨[], rfl⟩

theorem diagnostics_contribution_defaultLibs (ctx : LinkContext)
    (accepts : ¬ctx.config.AsksForLibstdcxx) :
    (contribution ctx .defaultLibs).diagnostics = ctx.config.libraryReports := by
  rw [Config.libraryReports]
  by_cases links : ctx.config.LinksRuntime
  · rw [contribution_defaultLibs_of_linksRuntime links, diagnostics_defaultTokens,
      if_neg fun refused => accepts ((Config.refusesCxx_iff _).mp refused), if_pos links]
    simp only [Config.linksCxx_iff]
  · have cxx : ¬ctx.config.LinksCxx := fun cxx => links cxx.linksRuntime
    rw [contribution_defaultLibs_of_not_linksRuntime links, if_neg cxx, if_neg links]
    rfl

end LinkRule

/-! ## Three outcomes -/

namespace Toolchain
open LinkRule

theorem link_of_optimisesNothing (t : Toolchain) {c : Config} (vain : c.OptimisesNothing) :
    (t.link c).outcome = (.error (.nothingToOptimise c.lto), []) := by
  have vain := c.optimisesNothing_iff.mp vain
  rw [Traced.outcome, result_link, diagnostics_link, if_pos vain, if_pos vain]

theorem link_of_asksForLibstdcxx {t : Toolchain} (complete : t.settings.Complete) {c : Config}
    (worth : ¬c.OptimisesNothing) (asks : c.AsksForLibstdcxx) :
    (t.link c).outcome = (.error (.unsupportedCxxLibrary .libstdcxx), []) := by
  have worth := mt c.optimisesNothing_iff.mpr worth
  have complete : (t.relocated c).settings.Complete := complete
  obtain ⟨linker, found⟩ := findLinker_ok complete c
  obtain ⟨optimisation, optimises⟩ :=
    result_contribution_lto_ok (t.linkContext c linker) complete
  have refused := result_contribution_defaultLibs_of_asks (t.linkContext c linker) asks
  have silent := diagnostics_contribution_defaultLibs_of_asks (t.linkContext c linker) asks
  rw [Traced.outcome, result_link, diagnostics_link, if_neg worth, if_neg worth, found]
  simp only [Linker.result_tokens_standard, Linker.diagnostics_tokens_standard, optimises, refused,
    silent, bind, Except.bind]

theorem link_ok {t : Toolchain} (complete : t.settings.Complete) {c : Config}
    (worth : ¬c.OptimisesNothing) (accepts : ¬c.AsksForLibstdcxx) :
    ∃ command, (t.link c).outcome = (.ok command, c.libraryReports) := by
  have worth := mt c.optimisesNothing_iff.mpr worth
  have complete : (t.relocated c).settings.Complete := complete
  obtain ⟨linker, found⟩ := findLinker_ok complete c
  obtain ⟨optimisation, optimises⟩ :=
    result_contribution_lto_ok (t.linkContext c linker) complete
  obtain ⟨libraries, links⟩ :=
    result_contribution_defaultLibs_ok (t.linkContext c linker) complete accepts
  have reports := diagnostics_contribution_defaultLibs (t.linkContext c linker) accepts
  rw [Traced.outcome, result_link, diagnostics_link, if_neg worth, if_neg worth, found]
  simp only [Linker.result_tokens_standard, Linker.diagnostics_tokens_standard, optimises, links,
    reports, bind, Except.bind]
  exact ⟨_, rfl⟩

theorem link_cases {t : Toolchain} (complete : t.settings.Complete) (c : Config) :
    (c.OptimisesNothing ∧ (t.link c).outcome = (.error (.nothingToOptimise c.lto), [])) ∨
    ((¬c.OptimisesNothing ∧ c.AsksForLibstdcxx) ∧
      (t.link c).outcome = (.error (.unsupportedCxxLibrary .libstdcxx), [])) ∨
    ((¬c.OptimisesNothing ∧ ¬c.AsksForLibstdcxx) ∧
      ∃ command, (t.link c).outcome = (.ok command, c.libraryReports)) := by
  by_cases vain : c.OptimisesNothing
  · exact .inl ⟨vain, t.link_of_optimisesNothing vain⟩
  · by_cases asks : c.AsksForLibstdcxx
    · exact .inr (.inl ⟨⟨vain, asks⟩, link_of_asksForLibstdcxx complete vain asks⟩)
    · exact .inr (.inr ⟨⟨vain, asks⟩, link_ok complete vain asks⟩)

theorem link_optimisesNothing_iff {t : Toolchain} (complete : t.settings.Complete) (c : Config) :
    (t.link c).result = .error (.nothingToOptimise c.lto) ↔ c.OptimisesNothing := by
  rcases link_cases complete c with ⟨vain, fails⟩ | ⟨⟨worth, -⟩, fails⟩ | ⟨⟨worth, -⟩, _, links⟩
  · exact iff_of_true (Prod.mk.inj fails).1 vain
  · simp [(Prod.mk.inj fails).1, worth]
  · simp [(Prod.mk.inj links).1, worth]

theorem link_asksForLibstdcxx_iff {t : Toolchain} (complete : t.settings.Complete) (c : Config) :
    (t.link c).result = .error (.unsupportedCxxLibrary .libstdcxx) ↔
      ¬c.OptimisesNothing ∧ c.AsksForLibstdcxx := by
  rcases link_cases complete c with ⟨vain, fails⟩ | ⟨reason, fails⟩ | ⟨⟨_, accepts⟩, _, links⟩
  · simp [(Prod.mk.inj fails).1, vain]
  · exact iff_of_true (Prod.mk.inj fails).1 reason
  · simp [(Prod.mk.inj links).1, accepts]

theorem link_ok_iff {t : Toolchain} (complete : t.settings.Complete) (c : Config) :
    (∃ command, (t.link c).result = .ok command) ↔
      ¬c.OptimisesNothing ∧ ¬c.AsksForLibstdcxx := by
  rcases link_cases complete c with ⟨vain, fails⟩ | ⟨⟨_, asks⟩, fails⟩ | ⟨fine, command, links⟩
  · simp [(Prod.mk.inj fails).1, vain]
  · simp [(Prod.mk.inj fails).1, asks]
  · exact iff_of_true ⟨command, (Prod.mk.inj links).1⟩ fine

theorem diagnostics_link_of_error {t : Toolchain} (complete : t.settings.Complete) {c : Config}
    {fault : Fault} (failed : (t.link c).result = .error fault) : (t.link c).diagnostics = [] := by
  rcases link_cases complete c with ⟨-, fails⟩ | ⟨-, fails⟩ | ⟨-, _, links⟩
  · exact (Prod.mk.inj fails).2
  · exact (Prod.mk.inj fails).2
  · cases failed.symm.trans (Prod.mk.inj links).1

theorem diagnostics_link_of_ok {t : Toolchain} (complete : t.settings.Complete) {c : Config}
    {command : LinkCommand} (linked : (t.link c).result = .ok command) :
    (t.link c).diagnostics = c.libraryReports := by
  rcases link_cases complete c with ⟨-, fails⟩ | ⟨-, fails⟩ | ⟨-, _, links⟩
  · cases linked.symm.trans (Prod.mk.inj fails).1
  · cases linked.symm.trans (Prod.mk.inj fails).1
  · exact (Prod.mk.inj links).2

/-! ## The names of the rules -/

theorem firedRules_of_optimisesNothing (t : Toolchain) {c : Config} (vain : c.OptimisesNothing) :
    (Linker.firedRules { toolchain := t } c).result = .error (.nothingToOptimise c.lto) := by
  have vain := c.optimisesNothing_iff.mp vain
  rw [Linker.result_firedRules, Linker.result_context, if_pos vain]
  rfl

theorem firedRules_ok {t : Toolchain} (complete : t.settings.Complete) {c : Config}
    (worth : ¬c.OptimisesNothing) :
    ∃ names, (Linker.firedRules { toolchain := t } c).result = .ok names := by
  have worth := mt c.optimisesNothing_iff.mpr worth
  have complete : (t.relocated c).settings.Complete := complete
  obtain ⟨linker, found⟩ := findLinker_ok complete c
  rw [Linker.result_firedRules, Linker.result_context, if_neg worth, found]
  exact ⟨_, rfl⟩

theorem firedRules_error_iff {t : Toolchain} (complete : t.settings.Complete) (c : Config) :
    (Linker.firedRules { toolchain := t } c).result = .error (.nothingToOptimise c.lto) ↔
      c.OptimisesNothing := by
  by_cases vain : c.OptimisesNothing
  · exact iff_of_true (t.firedRules_of_optimisesNothing vain) vain
  · obtain ⟨names, fired⟩ := firedRules_ok complete vain
    simp [fired, vain]

theorem firedRules_ok_iff {t : Toolchain} (complete : t.settings.Complete) (c : Config) :
    (∃ names, (Linker.firedRules { toolchain := t } c).result = .ok names) ↔
      ¬c.OptimisesNothing := by
  by_cases vain : c.OptimisesNothing
  · simp [t.firedRules_of_optimisesNothing vain, vain]
  · exact iff_of_true (firedRules_ok complete vain) vain

end Toolchain

/-! ## What a session is left with -/

namespace Session

theorem step_link_of_error {s : Session} {fault : Fault} (complete : s.toolchain.settings.Complete)
    (failed : (s.toolchain.link s.config).result = .error fault) :
    s.step (.link LinkRule.standard) = (s, .error fault) := by
  have kept : s.step (.link LinkRule.standard) = _ := perform_of_error s failed takeCommand
  rw [kept, s.engines.collect_of_silent (Toolchain.diagnostics_link_of_error complete failed)]

theorem step_link_of_ok {s : Session} {command : LinkCommand}
    (complete : s.toolchain.settings.Complete)
    (linked : (s.toolchain.link s.config).result = .ok command) :
    s.step (.link LinkRule.standard) =
      ({ s with command, engines := s.engines.add s.toolchain.engine s.config.libraryReports },
        .ok (.command command)) := by
  have only : (s.toolchain.link s.config).OnlyTo s.toolchain.engine :=
    Linker.onlyTo_command { toolchain := s.toolchain } s.config
  have links : s.step (.link LinkRule.standard) = _ := perform_of_ok s linked takeCommand
  rw [links, s.engines.collect_of_onlyTo only, Toolchain.diagnostics_link_of_ok complete linked]
  rfl

theorem step_firedRules_state (s : Session) : (s.step (.ask .firedRules)).1 = s := by
  have silent : (answer s.toolchain s.config .firedRules).diagnostics = [] := by
    have fired := Linker.diagnostics_firedRules { toolchain := s.toolchain } s.config
    rw [answer, map_eq_pure_bind, Traced.diagnostics_bind, fired]
    cases (Linker.firedRules { toolchain := s.toolchain } s.config).result <;> rfl
  rw [step, perform, s.engines.collect_of_silent silent]
  cases (answer s.toolchain s.config .firedRules).result <;> rfl

/-- A link either fails for one of two reasons and leaves the session as it was, or adds its command
and the reports on library names. The names of the rules are had without a trace. -/
theorem step_link_outcome (s : Session) (complete : s.toolchain.settings.Complete) :
    ((s.toolchain.link s.config).result = .error (.nothingToOptimise s.config.lto) ↔
      s.config.OptimisesNothing) ∧
    ((s.toolchain.link s.config).result = .error (.unsupportedCxxLibrary .libstdcxx) ↔
      ¬s.config.OptimisesNothing ∧ s.config.AsksForLibstdcxx) ∧
    ((∃ command, (s.toolchain.link s.config).result = .ok command) ↔
      ¬s.config.OptimisesNothing ∧ ¬s.config.AsksForLibstdcxx) ∧
    (∀ fault, (s.toolchain.link s.config).result = .error fault →
      s.step (.link LinkRule.standard) = (s, .error fault)) ∧
    (∀ command, (s.toolchain.link s.config).result = .ok command →
      s.step (.link LinkRule.standard) =
        ({ s with command, engines := s.engines.add s.toolchain.engine s.config.libraryReports },
          .ok (.command command))) ∧
    ((Linker.firedRules { toolchain := s.toolchain } s.config).result =
        .error (.nothingToOptimise s.config.lto) ↔ s.config.OptimisesNothing) ∧
    ((∃ names, (Linker.firedRules { toolchain := s.toolchain } s.config).result = .ok names) ↔
      ¬s.config.OptimisesNothing) ∧
    (s.step (.ask .firedRules)).1 = s := by
  refine ⟨Toolchain.link_optimisesNothing_iff complete _,
    Toolchain.link_asksForLibstdcxx_iff complete _, Toolchain.link_ok_iff complete _, ?_, ?_,
    Toolchain.firedRules_error_iff complete _, Toolchain.firedRules_ok_iff complete _,
    s.step_firedRules_state⟩
  · intro fault failed
    exact step_link_of_error complete failed
  · intro command linked
    exact step_link_of_ok complete linked

theorem step_link_outcome_two_reports :
    let warning : Diagnostic := ⟨.warning, "argument unused during compilation: '-x'"⟩
    let s : Session :=
      { toolchain := ⟨{}, ⟨"x86_64", "unknown", "kush", ""⟩, "", fun _ => false, 0⟩
        config :=
          { lto := .thin, cxx := true, cxxStdlib := some "", rtlib := some "libgcc",
            inputs := ["a.o"] }
        engines := fun e => if e = 0 then [warning] else [] }
    let reports : Diagnostics :=
      [⟨.error, "invalid library name in argument '-stdlib='"⟩,
        ⟨.error, "invalid runtime library name in argument '-rtlib=libgcc'"⟩]
    s.toolchain.settings.Complete ∧ (∃ command,
      s.step (.link LinkRule.standard) =
        ({ s with command, engines := s.engines.add 0 reports }, .ok (.command command))) ∧
      s.engines.add 0 reports 0 = warning :: reports := by
  intro warning s reports
  have complete : s.toolchain.settings.Complete := ⟨rfl, rfl, rfl⟩
  have worth : ¬s.config.OptimisesNothing := fun vain => List.cons_ne_nil _ _ vain.2
  have accepts : ¬s.config.AsksForLibstdcxx := fun asks => absurd asks.2 (by decide)
  obtain ⟨-, -, links, -, leaves, -⟩ := step_link_outcome s complete
  obtain ⟨command, answer⟩ := links.mpr ⟨worth, accepts⟩
  have due : s.config.libraryReports = reports := by decide
  refine ⟨complete, ⟨command, ?_⟩, rfl⟩
  rw [leaves command answer, due]

end Session

end CrossDriver
