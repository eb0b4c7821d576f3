import CrossDriver.Proofs.Session.Jobs

namespace CrossDriver

/-! ## Jobs -/

namespace Linker

theorem result_context_own_sysroot (l : Linker) (own : String) (c : Config) :
    (({ l with toolchain.sysroot := own } : Linker).context c).result = (l.context c).result := by
  rw [result_context, result_context]
  rfl

theorem command_own_sysroot (l : Linker) (own : String) (c : Config) :
    (({ l with toolchain.sysroot := own } : Linker).command c).outcome = (l.command c).outcome := by
  apply Traced.outcome_eq_iff.mpr
  rw [result_command, result_command, diagnostics_command, diagnostics_command,
    result_context_own_sysroot]
  exact ⟨rfl, rfl⟩

theorem firedRules_own_sysroot (l : Linker) (own : String) (c : Config) :
    (({ l with toolchain.sysroot := own } : Linker).firedRules c).outcome =
      (l.firedRules c).outcome := by
  apply Traced.outcome_eq_iff.mpr
  rw [result_firedRules, result_firedRules, diagnostics_firedRules, diagnostics_firedRules,
    result_context_own_sysroot]
  exact ⟨rfl, rfl⟩

end Linker

theorem Toolchain.compileArgs_own_sysroot (t : Toolchain) (own : String) (c : Config) :
    ({ t with sysroot := own } : Toolchain).compileArgs c = t.compileArgs c := rfl

/-! ## Jobs in a session -/

namespace Session

def buildSteps : List Step :=
  [.link LinkRule.standard, .ask .firedRules, .ask .compileArgs]

def inSysroot (s : Session) (own : String) : Session :=
  { s with toolchain.sysroot := own }

theorem step_build (s : Session) {build : Step} (mem : build ∈ buildSteps) :
    (s.step build).1.toolchain = s.toolchain ∧
      (s.step build).1.engines =
        s.engines.add s.toolchain.engine (s.job build).diagnostics := by
  have added : build.clears = false ∧ s.engineOf build = s.toolchain.engine := by
    simp only [buildSteps, List.mem_cons, List.not_mem_nil, or_false] at mem
    rcases mem with rfl | rfl | rfl <;> exact ⟨rfl, rfl⟩
  constructor
  · simp only [buildSteps, List.mem_cons, List.not_mem_nil, or_false] at mem
    rcases mem with rfl | rfl | rfl
    · rw [step, perform]
      cases (Linker.command ⟨s.toolchain, LinkRule.standard⟩ s.config).result <;> rfl
    · rw [step, perform]
      cases (answer s.toolchain s.config .firedRules).result <;> rfl
    · rw [step, perform]
      cases (answer s.toolchain s.config .compileArgs).result <;> rfl
  · have only := s.onlyTo_job build
    rw [added.2] at only
    rw [(s.step_eq_job build).1, added.1, s.engines.collect_of_onlyTo only]
    rfl

theorem job_build_congr {s other : Session} {own : String} {e : Engine}
    (config : other.config = s.config)
    (toolchain : other.toolchain = { s.toolchain.reporting e with sysroot := own })
    {build : Step} (mem : build ∈ buildSteps) :
    (other.job build).outcome = (s.job build).outcome := by
  have wrapped {α : Type} {first second : Traced α} (same : first.outcome = second.outcome)
      (wrap : α → Answer) : (wrap <$> first).outcome = (wrap <$> second).outcome := by
    rw [map_eq_pure_bind, map_eq_pure_bind]
    exact Traced.outcome_bind_congr same fun _ _ => rfl
  let t := s.toolchain
  let c := s.config
  simp only [buildSteps, List.mem_cons, List.not_mem_nil, or_false] at mem
  rcases mem with rfl | rfl | rfl <;> rw [job, toolchain, config]
  · have moved := Linker.command_own_sysroot { toolchain := t.reporting e } own c
    exact wrapped (moved.trans (Linker.outcome_command_reporting { toolchain := t } e c)) .command
  · have moved := Linker.firedRules_own_sysroot { toolchain := t.reporting e } own c
    exact wrapped (moved.trans (Linker.outcome_firedRules_reporting { toolchain := t } e c)) .words
  · have moved := (t.reporting e).compileArgs_own_sysroot own c
    have compiled := (congrArg Traced.outcome moved).trans (t.outcome_compileArgs_reporting e c)
    exact wrapped compiled .words

/-! ## Chains of toolchains -/

theorem step_withSysroot_state (s : Session) (own : String) :
    (s.step (.withSysroot own)).1 = s.inSysroot own := by
  have made := s.toolchain.result_withSysroot own s.fresh
  have silent : (s.toolchain.withSysroot own s.fresh).diagnostics = [] := rfl
  rw [step, perform_of_ok s made, s.engines.collect_of_silent silent]
  rfl

theorem run_withSysroot (s : Session) (chain : List String) :
    ∃ own, s.run (chain.map .withSysroot) = s.inSysroot own := by
  induction chain generalizing s with
  | nil => exact ⟨s.toolchain.sysroot, rfl⟩
  | cons first rest ih =>
    obtain ⟨own, derived⟩ := ih (s.inSysroot first)
    refine ⟨own, ?_⟩
    rw [List.map_cons, run, step_withSysroot_state, derived]
    rfl

/-- A session of which nothing is reported yet, and whose toolchain is made from the configuration,
with the engine in hand or with one of its own. -/
def anew (s : Session) (shared : Bool) : Session :=
  (({ s with engines := fun _ => [] } : Session).step (.ofConfig shared)).1

theorem anew_eq {s : Session} (known : s.config.target = .ok s.toolchain.triple) (shared : Bool) :
    s.anew shared =
      { s.spent shared with
        toolchain :=
          { s.toolchain with
            sysroot := s.config.sysroot
            engine := (s.offered shared).getD s.fresh }
        engines := fun _ => [] } := by
  let start : Session := ({ s with engines := fun _ => [] } : Session).spent shared
  let job := Toolchain.ofConfig s.config s.toolchain.settings s.toolchain.present
    (s.offered shared) s.fresh
  have nothing : start.engines = fun _ => [] := engines_spent _ shared
  have silent : job.diagnostics = [] := Toolchain.diagnostics_ofConfig ..
  have made : job.result = .ok
      { s.toolchain with
        sysroot := s.config.sysroot
        engine := (s.offered shared).getD s.fresh } := by
    change (Toolchain.ofConfig _ _ _ _ _).result = _
    rw [Toolchain.ofConfig, known]
    rfl
  change (start.perform job takeToolchain).1 = _
  rw [perform_of_ok start made, start.engines.collect_of_silent silent, nothing]
  cases shared <;> rfl

/-- Linking and compiling do not go by the sysroot of the toolchain, nor do they change it. A chain
of toolchains does as the one that is made from the configuration, and reports where it began. -/
theorem step_own_sysroot (s : Session) :
    (∀ own : String,
      (({ s.toolchain with sysroot := own } : Toolchain).link s.config).outcome =
        (s.toolchain.link s.config).outcome ∧
      (Linker.firedRules { toolchain := { s.toolchain with sysroot := own } } s.config).outcome =
        (Linker.firedRules { toolchain := s.toolchain } s.config).outcome ∧
      (({ s.toolchain with sysroot := own } : Toolchain).compileArgs s.config).outcome =
        (s.toolchain.compileArgs s.config).outcome) ∧
    (∀ build ∈ buildSteps, (s.step build).1.toolchain = s.toolchain ∧
      (s.step build).1.engines = s.engines.add s.toolchain.engine (s.job build).diagnostics) ∧
    (s.config.target = .ok s.toolchain.triple →
      ∀ (chain : List String) (shared : Bool), ∀ build ∈ buildSteps,
        ((s.run (chain.map .withSysroot)).step build).2 = ((s.anew shared).step build).2 ∧
        ((s.run (chain.map .withSysroot)).step build).1.engines =
          s.engines.add s.toolchain.engine
            (((s.anew shared).step build).1.engines (s.anew shared).toolchain.engine)) := by
  refine ⟨?_, fun build mem => s.step_build mem, ?_⟩
  · intro own
    let l : Linker := { toolchain := s.toolchain }
    have compiled := s.toolchain.compileArgs_own_sysroot own s.config
    exact ⟨l.command_own_sysroot own s.config, l.firedRules_own_sysroot own s.config,
      congrArg Traced.outcome compiled⟩
  · intro known chain shared build mem
    obtain ⟨own, derived⟩ := s.run_withSysroot chain
    have made := anew_eq known shared
    have moved : (s.inSysroot own).toolchain =
        { s.toolchain.reporting s.toolchain.engine with sysroot := own } := rfl
    -- Both sessions do the job of `s`: the one in another sysroot, the other with another engine.
    have chained : ((s.inSysroot own).job build).outcome = (s.job build).outcome := by
      refine job_build_congr ?_ moved mem
      rfl
    have configured : (s.anew shared).config = s.config := by
      rw [made]
      cases shared <;> rfl
    have renewed : (s.anew shared).toolchain =
        { s.toolchain.reporting ((s.offered shared).getD s.fresh) with
          sysroot := s.config.sysroot } := by
      rw [made]
      rfl
    have fresh : ((s.anew shared).job build).outcome = (s.job build).outcome :=
      job_build_congr configured renewed mem
    obtain ⟨answers, reports⟩ := Traced.outcome_eq_iff.mp (chained.trans fresh.symm)
    have adds := ((s.anew shared).step_build mem).2
    have nothing : (s.anew shared).engines = fun _ => [] := by rw [made]
    have alone (e : Engine) (ds : Diagnostics) : Engines.add (fun _ => []) e ds e = ds := by
      simp [Engines.add]
    rw [derived, (step_eq_job _ build).2, (step_eq_job _ build).2, answers,
      ((s.inSysroot own).step_build mem).2, adds, nothing, reports, alone]
    exact ⟨rfl, rfl⟩

theorem step_own_sysroot_chain :
    let warning : Diagnostic := ⟨.warning, "argument unused during compilation: '-x'"⟩
    let library : Diagnostic :=
      ⟨.error, "invalid runtime library name in argument '-rtlib=libgcc'"⟩
    let s : Session :=
      { toolchain := ⟨{}, ⟨"x86_64", "unknown", "kush", ""⟩, "/first", fun _ => true, 1⟩
        config := { sysroot := "/sdk", rtlib := some "libgcc", inputs := ["a.o"] }
        engines := fun e => if e = 1 then [warning] else []
        engine := 0 }
    let chained := s.run (["/a", "/b", ""].map .withSysroot)
    s.config.target = .ok s.toolchain.triple ∧
      .ask .compileArgs ∈ buildSteps ∧
      (chained.step (.ask .compileArgs)).2 = ((s.anew false).step (.ask .compileArgs)).2 ∧
      (chained.step (.link LinkRule.standard)).1.engines 1 = [warning, library] ∧
      (chained.step (.link LinkRule.standard)).1.engines 0 = [] := by
  intro warning library s chained
  have parsed : Triple.parse Triple.defaultText = s.toolchain.triple := by decide +kernel
  have known : s.config.target = .ok s.toolchain.triple := congrArg Except.ok parsed
  have compiles : .ask .compileArgs ∈ buildSteps := .tail _ (.tail _ (.head _))
  have reports : ((s.anew true).step (.link LinkRule.standard)).1.engines
      (s.anew true).toolchain.engine = [library] := by decide +kernel
  obtain ⟨-, -, chain⟩ := step_own_sysroot s
  have linked := (chain known ["/a", "/b", ""] true _ (.head _)).2
  rw [reports] at linked
  refine ⟨known, compiles, (chain known _ false _ compiles).1, ?_, ?_⟩
  · exact congrFun linked 1
  · exact congrFun linked 0

end Session

end CrossDriver
