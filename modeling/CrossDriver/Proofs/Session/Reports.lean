import CrossDriver.Proofs.Link.Reports
import CrossDriver.Proofs.Session.OwnSysroot
import Mathlib.Data.List.DropRight

namespace CrossDriver

/-! ## Errors and warnings -/

namespace Diagnostics

theorem not_mem_warnings_of_mem_errors {ds : Diagnostics} {d : Diagnostic}
    (mem : d ∈ ds.errors) : d ∉ ds.warnings := by
  intro other
  have error := of_decide_eq_true (List.mem_filter.mp mem).2
  have warning := of_decide_eq_true (List.mem_filter.mp other).2
  cases error.symm.trans warning

theorem perm_errors_warnings (ds : Diagnostics) : (ds.errors ++ ds.warnings).Perm ds := by
  have rest : ds.warnings = ds.filter fun d => !decide (d.severity = .error) := by
    apply List.filter_congr
    intro d _
    cases kind : d.severity <;> rfl
  rw [rest]
  exact List.filter_append_perm _ ds

theorem errors_warnings (ds : Diagnostics) :
    ds.errors.Sublist ds ∧ ds.warnings.Sublist ds ∧ (ds.errors ++ ds.warnings).Perm ds ∧
      (∀ d ∈ ds.errors, d ∉ ds.warnings) ∧ (ds.hasErrors = true ↔ ds.errors ≠ []) :=
  ⟨List.filter_sublist, List.filter_sublist, ds.perm_errors_warnings,
    fun _ => not_mem_warnings_of_mem_errors, ds.hasErrors_iff⟩

end Diagnostics

/-! ## Reports of a step -/

def Config.headerReports (c : Config) : Diagnostics :=
  if c.noStdInc || c.noStdlibInc || c.noCxxInc then [] else c.cxxReports

theorem Toolchain.diagnostics_cxxHeaders (t : Toolchain) (c : Config) :
    (t.cxxHeaders c).diagnostics = c.headerReports := by
  rw [cxxHeaders, Config.headerReports]
  split
  · rfl
  · rw [Traced.diagnostics_bind, diagnostics_chooseCxx, result_chooseCxx]
    exact List.append_nil _

namespace Session

def Query.due (c : Config) : Query → Diagnostics
  | .compileArgs => if c.cxx then c.headerReports else []
  | .cxxHeaders | .cxxHeaderArgs => c.headerReports
  | .cxxLibraryArgs | .cxxLibrary => c.cxxReports
  | .runtimeArgs | .runtimeLibrary => c.runtimeReports
  | .targetOptions | .systemHeaders | .linker | .firedRules => []

/-- What a step is due to report, by its arguments and the configuration alone. -/
def Step.due (c : Config) : Step → Diagnostics
  | .report d => [d]
  | .parse argv _ _ _ => (OptionLookup.standard.scan argv).filterMap ArgItem.diagnostic?
  | .link rules => c.linkReports rules
  | .ask query => query.due c
  | .clear | .take _ | .use _ | .configure _ | .setCommand _ | .withSysroot _ | .ofConfig _
  | .find _ => []

theorem diagnostics_answer (t : Toolchain) (c : Config) (query : Query) :
    (answer t c query).diagnostics = query.due c := by
  cases query with
  | targetOptions => rfl
  | compileArgs =>
    rw [answer, Traced.diagnostics_map, Toolchain.diagnostics_compileArgs, Toolchain.modeHeaders]
    cases mode : c.cxx with
    | true => rw [if_pos rfl, Toolchain.diagnostics_cxxHeaders, Query.due, if_pos mode]
    | false => rw [Query.due, mode]; rfl
  | systemHeaders | linker => exact Traced.diagnostics_map _ _
  | cxxHeaders | cxxHeaderArgs =>
    exact (Traced.diagnostics_map _ _).trans (t.diagnostics_cxxHeaders c)
  | cxxLibraryArgs =>
    exact (Traced.diagnostics_map _ _).trans (LinkRule.diagnostics_cxxLibraryArgs t c)
  | cxxLibrary => exact (Traced.diagnostics_map _ _).trans (diagnostics_chooseCxx t.engine c)
  | runtimeArgs =>
    exact (Traced.diagnostics_map _ _).trans (LinkRule.diagnostics_runtimeArgs c t)
  | runtimeLibrary =>
    exact (Traced.diagnostics_map _ _).trans (diagnostics_chooseRuntime t.engine c)
  | firedRules => exact (Traced.diagnostics_map _ _).trans (Linker.diagnostics_firedRules _ c)

structure Call where
  session : Session
  step : Step

namespace Call

def job (call : Call) : Traced Answer :=
  call.session.job call.step

def engine (call : Call) : Engine :=
  call.session.engineOf call.step

def clears (call : Call) (e : Engine) : Bool :=
  call.step.clears && call.engine = e

def due (call : Call) : Diagnostics :=
  call.step.due call.session.config

theorem diagnostics_link (s : Session) (rules : List LinkRule) :
    (⟨s, .link rules⟩ : Call).job.diagnostics =
      (Linker.command ⟨s.toolchain, rules⟩ s.config).diagnostics :=
  Traced.diagnostics_map _ _

theorem diagnostics_eq_due {call : Call} (other : ∀ rules, call.step ≠ .link rules) :
    call.job.diagnostics = call.due := by
  obtain ⟨s, step⟩ := call
  cases step with
  | link rules => exact absurd rfl (other rules)
  | parse argv cxx pieDefault shared =>
    exact (Traced.diagnostics_map _ _).trans (Config.diagnostics_parseWith _ _ _ _ _ _)
  | ofConfig shared =>
    exact (Traced.diagnostics_map _ _).trans (Toolchain.diagnostics_ofConfig _ _ _ _ _)
  | find shared =>
    exact (Traced.diagnostics_map _ _).trans (Toolchain.diagnostics_find _ _ _ _ _)
  | ask query => exact diagnostics_answer _ _ query
  | _ => rfl

theorem diagnostics_prefix_due (call : Call) : call.job.diagnostics <+: call.due := by
  by_cases links : ∃ rules, call.step = .link rules
  · obtain ⟨s, step⟩ := call
    obtain ⟨rules, rfl⟩ := links
    rw [diagnostics_link]
    exact Linker.diagnostics_command_prefix ⟨s.toolchain, rules⟩ s.config
  · exact diagnostics_eq_due (not_exists.mp links) ▸ List.prefix_rfl

theorem diagnostics_of_complete {call : Call}
    (complete : call.session.toolchain.settings.Complete) : call.job.diagnostics = call.due := by
  by_cases links : ∃ rules, call.step = .link rules
  · obtain ⟨s, step⟩ := call
    obtain ⟨rules, rfl⟩ := links
    rw [diagnostics_link]
    exact Linker.diagnostics_command_of_complete (l := ⟨s.toolchain, rules⟩) complete
  · exact diagnostics_eq_due (not_exists.mp links)

theorem diagnostics_of_ok {call : Call} {a : Answer} (answers : call.job.result = .ok a) :
    call.job.diagnostics = call.due := by
  by_cases links : ∃ rules, call.step = .link rules
  · obtain ⟨s, step⟩ := call
    obtain ⟨rules, rfl⟩ := links
    have linked : (Answer.command <$> Linker.command ⟨s.toolchain, rules⟩ s.config).result =
        .ok a := answers
    rw [Traced.result_map] at linked
    obtain ⟨command, made, -⟩ := exists_of_map_eq_ok linked
    rw [diagnostics_link]
    exact Linker.diagnostics_command_of_ok made
  · exact diagnostics_eq_due (not_exists.mp links)

theorem diagnostics_elsewhere (call : Call) (own : String) (engines : Engines) :
    (⟨{ call.session with toolchain.sysroot := own, engines }, call.step⟩ : Call).job.diagnostics =
      call.job.diagnostics := by
  by_cases links : ∃ rules, call.step = .link rules
  · obtain ⟨s, step⟩ := call
    obtain ⟨rules, rfl⟩ := links
    rw [diagnostics_link, diagnostics_link]
    exact (Traced.outcome_eq_iff.mp
      (Linker.command_own_sysroot ⟨s.toolchain, rules⟩ own s.config)).2
  · let moved : Call := ⟨{ call.session with toolchain.sysroot := own, engines }, call.step⟩
    have others := not_exists.mp links
    have told : moved.job.diagnostics = moved.due := diagnostics_eq_due others
    exact told.trans (diagnostics_eq_due others).symm

theorem reportsTo_eq (call : Call) (e : Engine) :
    call.job.reportsTo e = if e = call.engine then call.job.diagnostics else [] :=
  Traced.reportsTo_of_onlyTo (call.session.onlyTo_job call.step) e

theorem engines_step (call : Call) (e : Engine) :
    (call.session.step call.step).1.engines e =
      if call.clears e then [] else call.session.engines e ++ call.job.reportsTo e := by
  obtain ⟨s, step⟩ := call
  rw [(s.step_eq_job step).1, clears]
  cases cleared : step.clears with
  | true =>
    cases step with
    | clear =>
      by_cases own : s.engine = e
      · simp [own, engine, engineOf, Engines.clear]
      · simp [own, Ne.symm own, engine, engineOf, Engines.clear, job, Session.job]
    | _ => cases cleared
  | false => rfl

end Call

/-! ## Who has which engine -/

def engineBehind (s : Session) (step : Step) : Engine :=
  match step with
  | .use t => t.engine
  | .ofConfig shared | .find shared =>
    if (s.job step).result.isOk then (s.offered shared).getD s.fresh else s.toolchain.engine
  | _ => s.toolchain.engine

theorem engine_step (s : Session) (step : Step) :
    (s.step step).1.toolchain.engine = s.engineBehind step := by
  cases step with
  | report d | clear | take engine | use t | configure c | setCommand command
  | withSysroot sysroot => rfl
  | parse argv cxx pieDefault shared =>
    rw [Session.step, perform]
    cases (Config.parse argv cxx pieDefault (s.offered shared) s.fresh).result <;>
      cases shared <;> rfl
  | link rules =>
    rw [Session.step, perform]
    cases (Linker.command ⟨s.toolchain, rules⟩ s.config).result <;> rfl
  | ask query =>
    rw [Session.step, perform]
    cases (answer s.toolchain s.config query).result <;> rfl
  | ofConfig shared =>
    have answers : (s.job (.ofConfig shared)).result = _ := Traced.result_map _ Answer.toolchain
    rw [Session.step, perform, engineBehind, answers]
    cases made : (Toolchain.ofConfig s.config s.toolchain.settings s.toolchain.present
        (s.offered shared) s.fresh).result with
    | error fault => cases shared <;> rfl
    | ok t => exact Toolchain.engine_of_ofConfig made
  | find shared =>
    have answers : (s.job (.find shared)).result = _ := Traced.result_map _ Answer.toolchain
    rw [Session.step, perform, engineBehind, answers]
    cases made : (Toolchain.find s.config s.toolchain.settings s.toolchain.present
        (s.offered shared) s.fresh).result with
    | error fault => cases shared <;> rfl
    | ok t => exact Toolchain.engine_of_find made

/-! ## Runs of calls -/

def calls (s : Session) : List Step → List Call
  | [] => []
  | step :: rest => ⟨s, step⟩ :: calls (s.step step).1 rest

def sinceClear (e : Engine) (calls : List Call) : List Call :=
  calls.rtakeWhile fun call => !call.clears e

theorem run_append (s : Session) (before behind : List Step) :
    s.run (before ++ behind) = (s.run before).run behind := by
  induction before generalizing s with
  | nil => rfl
  | cons step rest ih => exact ih _

theorem calls_append (s : Session) (before behind : List Step) :
    s.calls (before ++ behind) = s.calls before ++ (s.run before).calls behind := by
  induction before generalizing s with
  | nil => rfl
  | cons step rest ih => exact congrArg _ (ih _)

theorem engines_run (s : Session) (steps : List Step) (e : Engine) :
    (s.run steps).engines e =
      (if (s.calls steps).any (·.clears e) then [] else s.engines e) ++
        (sinceClear e (s.calls steps)).flatMap fun call => call.job.reportsTo e := by
  -- The last call either drops all that the others left or adds to it.
  induction steps using List.reverseRecOn with
  | nil => exact (List.append_nil _).symm
  | append_singleton steps last ih =>
    have step := Call.engines_step ⟨s.run steps, last⟩ e
    rw [run_append, calls_append]
    change ((s.run steps).step last).1.engines e = _
    rw [step, ih]
    cases cleared : (⟨s.run steps, last⟩ : Call).clears e with
    | true => simp [calls, sinceClear, cleared]
    | false => simp [calls, sinceClear, cleared]

theorem hasErrors_run_append (s : Session) (steps : List Step) (e : Engine) {behind : List Step}
    (kept : ∀ call ∈ (s.run steps).calls behind, call.clears e = false)
    (errs : ((s.run steps).engines e).hasErrors = true) :
    ((s.run (steps ++ behind)).engines e).hasErrors = true := by
  have none : ((s.run steps).calls behind).any (·.clears e) = false :=
    List.any_eq_false.mpr fun call mem => by simp [kept call mem]
  rw [run_append, engines_run, none, if_neg Bool.false_ne_true, Diagnostics.hasErrors_append, errs]
  rfl

/-- Every engine holds what the calls that share it report since it was cleared, in their order. A
call reports to one engine, and what is due for its arguments and its configuration. Only a link that
fails for settings with a gap may leave off before that. A toolchain that is made from another keeps
its engine, whatever that holds. -/
theorem held_since_clear (s : Session) (steps : List Step) (e : Engine) :
    (s.run steps).engines e =
      (if (s.calls steps).any (·.clears e) then [] else s.engines e) ++
        (sinceClear e (s.calls steps)).flatMap (fun call => call.job.reportsTo e) ∧
    (∀ call : Call,
      (call.job.reportsTo e = if e = call.engine then call.job.diagnostics else []) ∧
      (call.session.step call.step).2 = call.job.result ∧
      (call.session.toolchain.settings.Complete ∨ (∃ a, call.job.result = .ok a) ∨
          (∀ rules, call.step ≠ .link rules) →
        call.job.diagnostics = call.due) ∧
      call.job.diagnostics <+: call.due ∧
      (∀ (own : String) (engines : Engines),
        (⟨{ call.session with toolchain.sysroot := own, engines }, call.step⟩ : Call).job.diagnostics
          = call.job.diagnostics) ∧
      (call.session.step call.step).1.toolchain.engine = call.session.engineBehind call.step) ∧
    (let held := (s.run steps).engines e;
      held.errors.Sublist held ∧ held.warnings.Sublist held ∧
        (held.errors ++ held.warnings).Perm held ∧ (∀ d ∈ held.errors, d ∉ held.warnings) ∧
        (held.hasErrors = true ↔ held.errors ≠ [])) ∧
    ∀ behind : List Step, (∀ call ∈ (s.run steps).calls behind, call.clears e = false) →
      ((s.run steps).engines e).hasErrors = true →
        ((s.run (steps ++ behind)).engines e).hasErrors = true := by
  refine ⟨s.engines_run steps e, fun call => ?_, ((s.run steps).engines e).errors_warnings,
    fun _ kept => s.hasErrors_run_append steps e kept⟩
  refine ⟨call.reportsTo_eq e, (call.session.step_eq_job call.step).2, ?_,
    call.diagnostics_prefix_due, call.diagnostics_elsewhere, call.session.engine_step call.step⟩
  rintro (complete | ⟨a, answers⟩ | other)
  · exact Call.diagnostics_of_complete complete
  · exact Call.diagnostics_of_ok answers
  · exact Call.diagnostics_eq_due other

theorem held_since_clear_failing_calls :
    let t : Toolchain := ⟨{}, ⟨"x86_64", "unknown", "kush", ""⟩, "/own", fun _ => false, 0⟩
    let refused : Config := { cxx := true, cxxStdlib := some "libstdc++", inputs := ["a.o"] }
    let misnamed : Config := { rtlib := some "libgcc", sysroot := "/sdk", inputs := ["a.o"] }
    let first : Diagnostic := ⟨.error, "unsupported argument 'fat' to option '-flto='"⟩
    let unused : Diagnostic := ⟨.warning, "argument unused during compilation: '-x'"⟩
    let library : Diagnostic :=
      ⟨.error, "invalid runtime library name in argument '-rtlib=libgcc'"⟩
    let argv := ["-flto=fat", "-x", "-o"]
    let s : Session := { toolchain := t }
    let steps : List Step :=
      [.report first, .clear, .parse argv false true, .parse argv false true false,
        .configure refused, .link LinkRule.standard, .configure misnamed,
        .link LinkRule.standard]
    (s.run steps).engines 0 = [first, unused, library] ∧
      (s.run steps).engines 1 = [first, unused] ∧
      (⟨{ toolchain := t, config := misnamed }, .link LinkRule.standard⟩ : Call).job.diagnostics =
        misnamed.linkReports LinkRule.standard ∧
      ((s.run (steps ++ [.withSysroot "/sdk"])).engines 0).hasErrors = true := by
  intro t refused misnamed first unused library argv s steps
  obtain ⟨holds, due, -, stays⟩ := held_since_clear s steps 0
  have own : (s.run steps).engines 0 = [first, unused, library] := holds.trans (by decide +kernel)
  have others := (held_since_clear s steps 1).1
  obtain ⟨-, -, linked, -⟩ :=
    due ⟨{ toolchain := t, config := misnamed }, .link LinkRule.standard⟩
  refine ⟨own, others.trans (by decide +kernel), linked (.inl ⟨rfl, rfl, rfl⟩), ?_⟩
  exact stays [.withSysroot "/sdk"] (List.forall_mem_singleton.mpr rfl) (own ▸ rfl)

/-- Settings without a linker end a link before the report that its configuration is due, so no
account of the reports goes by the configuration alone. -/
theorem reports_without_linker :
    let c : Config := { rtlib := some "libgcc", inputs := ["a.o"] }
    let t : Toolchain := ⟨{}, ⟨"x86_64", "unknown", "kush", ""⟩, "", fun _ => false, 0⟩
    let lacking : Toolchain := { t with settings.linker := none }
    let library : Diagnostic :=
      ⟨.error, "invalid runtime library name in argument '-rtlib=libgcc'"⟩
    let linked (t : Toolchain) (c : Config) : Session :=
      ({ toolchain := t, config := c } : Session).run [.link LinkRule.standard]
    (linked t c).diagnostics = [library] ∧ (linked lacking c).diagnostics = [] ∧
      ¬∃ account : Config → Diagnostics, ∀ (t : Toolchain) (c : Config),
        (linked t c).diagnostics = account c := by
  intro c t lacking library linked
  have told : (linked t c).diagnostics = [library] := by decide +kernel
  have silent : (linked lacking c).diagnostics = [] := by decide +kernel
  refine ⟨told, silent, ?_⟩
  rintro ⟨account, agrees⟩
  rw [agrees] at told silent
  cases told.symm.trans silent

end Session

end CrossDriver
