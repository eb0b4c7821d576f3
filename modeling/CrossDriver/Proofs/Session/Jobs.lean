import CrossDriver.Proofs.CommandLine.Preparation
import CrossDriver.Proofs.Engines

namespace CrossDriver

namespace Toolchain

theorem diagnostics_ofConfig (c : Config) (settings : Settings) (present : String → Bool)
    (given : Option Engine) (fresh : Engine) :
    (ofConfig c settings present given fresh).diagnostics = [] := by
  rw [ofConfig, Traced.diagnostics_bind, Traced.diagnostics_ofExcept, Traced.result_ofExcept]
  cases c.target <;> rfl

theorem engine_of_ofConfig {c : Config} {settings : Settings} {present : String → Bool}
    {given : Option Engine} {fresh : Engine} {t : Toolchain}
    (made : (ofConfig c settings present given fresh).result = .ok t) :
    t.engine = given.getD fresh := by
  rw [ofConfig, Traced.result_bind] at made
  obtain ⟨triple, -, made⟩ := exists_of_bind_ok made
  cases made
  rfl

end Toolchain

namespace Session

def job (s : Session) : Step → Traced Answer
  | .report d => (fun _ => .reported d) <$> Traced.report s.engine d
  | .clear | .take _ => pure .nothing
  | .use toolchain => pure (.toolchain toolchain)
  | .parse argv cxx pieDefault shared =>
    .config <$> Config.parse argv cxx pieDefault (s.offered shared) s.fresh
  | .configure c => pure (.config c)
  | .link rules => .command <$> Linker.command ⟨s.toolchain, rules⟩ s.config
  | .setCommand command => pure (.command command)
  | .withSysroot sysroot => .toolchain <$> s.toolchain.withSysroot sysroot s.fresh
  | .ofConfig shared =>
    .toolchain <$> Toolchain.ofConfig s.config s.toolchain.settings s.toolchain.present
      (s.offered shared) s.fresh
  | .find shared =>
    .toolchain <$> Toolchain.find s.config s.toolchain.settings s.toolchain.present
      (s.offered shared) s.fresh
  | .ask query => answer s.toolchain s.config query

def Step.clears : Step → Bool
  | .clear => true
  | _ => false

/-- The engine that a step reports to, if it reports: a toolchain has its own, and others get the one
in hand or a new one. -/
def engineOf (s : Session) : Step → Engine
  | .parse _ _ _ shared | .ofConfig shared | .find shared => (s.offered shared).getD s.fresh
  | .link _ | .withSysroot _ | .ask _ => s.toolchain.engine
  | .report _ | .clear | .take _ | .use _ | .configure _ | .setCommand _ => s.engine

section
variable (s : Session)

theorem onlyTo_job (step : Step) : (s.job step).OnlyTo (s.engineOf step) := by
  cases step with
  | report d => exact Traced.onlyTo_map (Traced.onlyTo_report d) _
  | clear | take engine | use toolchain | configure c | setCommand command =>
    exact Traced.onlyTo_pure _
  | parse argv cxx pieDefault shared => exact Traced.onlyTo_map (Config.onlyTo_parse _ _ _ _ _) _
  | link rules => exact Traced.onlyTo_map (Linker.onlyTo_command _ _) _
  | withSysroot sysroot => exact Traced.onlyTo_map (Traced.onlyTo_of_silent rfl) _
  | ofConfig shared =>
    exact Traced.onlyTo_map (Traced.onlyTo_of_silent (Toolchain.diagnostics_ofConfig ..)) _
  | find shared =>
    exact Traced.onlyTo_map (Traced.onlyTo_of_silent (Toolchain.diagnostics_find ..)) _
  | ask query => exact onlyTo_answer _ _ query

theorem perform_map {α : Type} (job : Traced α) {next : Session → α → Session × Answer}
    {wrap : α → Answer}
    (keeps : ∀ s a, (next s a).1.engines = s.engines ∧ (next s a).2 = wrap a) :
    (s.perform job next).1.engines = s.engines.collect (wrap <$> job) ∧
      (s.perform job next).2 = (wrap <$> job).result := by
  have collects : s.engines.collect (wrap <$> job) = s.engines.collect job := by
    funext e
    rw [Engines.collect, Engines.collect, Traced.reportsTo_map]
  rw [collects, Traced.result_map]
  cases given : job.result with
  | error fault =>
    rw [perform_of_error s given]
    exact ⟨rfl, rfl⟩
  | ok a =>
    rw [perform_of_ok s given]
    exact ⟨(keeps _ a).1, congrArg Except.ok (keeps _ a).2⟩

theorem engines_spent (shared : Bool) : (s.spent shared).engines = s.engines := by
  cases shared <;> rfl

theorem step_eq_job (step : Step) :
    (s.step step).1.engines =
        (if step.clears then s.engines.clear s.engine else s.engines.collect (s.job step)) ∧
      (s.step step).2 = (s.job step).result := by
  have plain (a : Answer) : s.engines.collect (pure a : Traced Answer) = s.engines :=
    s.engines.collect_of_silent rfl
  cases step with
  | clear => exact ⟨rfl, rfl⟩
  | take engine => exact ⟨(plain .nothing).symm, rfl⟩
  | report d => exact s.perform_map _ fun _ _ => ⟨rfl, rfl⟩
  | use toolchain => exact s.perform_map (pure toolchain) fun _ _ => ⟨rfl, rfl⟩
  | configure c => exact s.perform_map (pure c) fun _ _ => ⟨rfl, rfl⟩
  | setCommand command => exact s.perform_map (pure command) fun _ _ => ⟨rfl, rfl⟩
  | link rules => exact s.perform_map _ fun _ _ => ⟨rfl, rfl⟩
  | withSysroot sysroot => exact s.perform_map _ fun _ _ => ⟨rfl, rfl⟩
  | parse argv cxx pieDefault shared | ofConfig shared | find shared =>
    rw [← s.engines_spent shared]
    exact (s.spent shared).perform_map _ fun _ _ => ⟨rfl, rfl⟩
  | ask query =>
    let job := answer s.toolchain s.config query
    have asked : (s.perform job fun s a => (s, a)).1.engines = s.engines.collect (id <$> job) ∧
        (s.perform job fun s a => (s, a)).2 = (id <$> job).result :=
      s.perform_map job fun _ _ => ⟨rfl, rfl⟩
    rwa [id_map] at asked

end

end Session

end CrossDriver
