import CrossDriver.Proofs.CommandLine.Reading
import CrossDriver.Proofs.CommandLine.Target
import CrossDriver.Proofs.Link.Failure

namespace CrossDriver

/-! ## Reports on libraries -/

namespace Config

def MisnamesLibrary (c : Config) : Prop :=
  (∃ name, c.rtlib = some name ∧ name ≠ "compiler-rt") ∨
    (c.cxx = true ∧ c.noCxxStdlib = false) ∧
      ∃ name, c.cxxStdlib = some name ∧ CxxLibrary.ofName? name = none

theorem ofName?_eq_none_iff {name : String} :
    CxxLibrary.ofName? name = none ↔ ¬(name = "libc++" ∨ name = "libstdc++") := by
  rw [CxxLibrary.ofName?, List.find?_eq_none, not_or]
  simp [CxxLibrary.name, eq_comm]

theorem hasErrors_cxxReports_iff (c : Config) :
    c.cxxReports.hasErrors = true ↔
      ∃ name, c.cxxStdlib = some name ∧ CxxLibrary.ofName? name = none := by
  unfold cxxReports
  cases c.cxxStdlib with
  | none => simp [Diagnostics.hasErrors]
  | some name =>
    simp only [Option.some.injEq, exists_eq_left', ofName?_eq_none_iff]
    by_cases known : name = "libc++" ∨ name = "libstdc++"
    · rw [if_pos known]
      exact iff_of_false Bool.false_ne_true (not_not_intro known)
    · rw [if_neg known]
      exact iff_of_true rfl known

theorem hasErrors_runtimeReports_iff (c : Config) :
    c.runtimeReports.hasErrors = true ↔ ∃ name, c.rtlib = some name ∧ name ≠ "compiler-rt" := by
  unfold runtimeReports
  cases c.rtlib with
  | none => simp [Diagnostics.hasErrors]
  | some name =>
    by_cases shipped : name = "compiler-rt" <;> simp [Diagnostics.hasErrors, shipped]

theorem hasErrors_libraryReports_iff (c : Config) :
    c.libraryReports.hasErrors = true ↔ c.LinksRuntime ∧ c.MisnamesLibrary := by
  rw [libraryReports]
  by_cases runtime : c.LinksRuntime
  · have mode : c.LinksCxx ↔ c.cxx = true ∧ c.noCxxStdlib = false :=
      ⟨fun links => ⟨links.1, links.2.2.2⟩, fun mode => ⟨mode.1, runtime.1, runtime.2, mode.2⟩⟩
    rw [Diagnostics.hasErrors_append, Bool.or_eq_true, if_pos runtime, hasErrors_runtimeReports_iff,
      MisnamesLibrary, ← mode, or_comm]
    by_cases links : c.LinksCxx
    · simp [links, runtime, hasErrors_cxxReports_iff]
    · simp [links, runtime, Diagnostics.hasErrors]
  · have links : ¬c.LinksCxx := fun links => runtime links.linksRuntime
    simp [links, runtime, Diagnostics.hasErrors]

end Config

namespace CommandLine
open Config

/-! ## What is settled -/

/-- The configuration that driver arguments come to over settings, and its target. -/
structure Settles (settings : Settings) (argv : List String) (cxx : Bool) (c : Config)
    (triple : Triple) : Prop where
  configuration : ∃ parsed, (parse argv cxx false).result = .ok parsed ∧
    c = withTarget settings parsed
  target : c.target = .ok triple

theorem isSome_triple_withTarget {settings : Settings} (aimed : settings.triple.isSome)
    {argv : List String} {cxx pieDefault : Bool} {parsed : Config}
    (read : (parse argv cxx pieDefault).result = .ok parsed) :
    (withTarget settings parsed).triple.isSome := by
  rw [triple_withTarget settings read]
  split
  case isTrue => exact aimed
  case isFalse other =>
    cases last : (targets argv).getLast? with
    | none => simp [last] at other
    | some target => rfl

theorem missing_or_settles {settings : Settings} (aimed : settings.triple.isSome)
    (argv : List String) (cxx : Bool) :
    (∃ spelling, (parse argv cxx false).result = .error (.missingValue spelling)) ∨
      ∃ c triple, Settles settings argv cxx c triple := by
  cases missing : (OptionLookup.standard.scan argv).findSome? ArgItem.missingValue? with
  | some spelling => exact .inl ⟨spelling, result_parse_eq_missing_iff.mpr missing⟩
  | none =>
    have read : (parse argv cxx false).result =
        .ok (({} : Config).edits (updates argv cxx false)) :=
      result_parse_eq_ok_iff.mpr ⟨missing, rfl⟩
    obtain ⟨text, given⟩ := Option.isSome_iff_exists.mp (isSome_triple_withTarget aimed read)
    exact .inr ⟨_, .parse text, ⟨_, read, rfl⟩, by rw [Config.target, given]⟩

section
variable {world : World} {r : Request} {settings : Settings}
  (loaded : (loadSettings world r).result = .ok settings)
include loaded

theorem result_prepare_of_missing {spelling : String}
    (missing : (parse r.arguments r.cxx false).result = .error (.missingValue spelling)) :
    (prepare world r).result = .error (.missingValue spelling) := by
  rw [result_prepare, loaded]
  change ((parse r.arguments r.cxx false).result >>= _) = _
  rw [missing]
  rfl

theorem result_prepare_of_settles {c : Config} {triple : Triple}
    (settles : Settles settings r.arguments r.cxx c triple) :
    (prepare world r).result =
      if triple.os = "kush" then .ok (c, ⟨settings, triple, c.sysroot, world.present, engine⟩)
      else .error (.unsupportedTarget triple) := by
  obtain ⟨⟨parsed, read, rfl⟩, target⟩ := settles
  rw [result_prepare, loaded]
  change ((parse r.arguments r.cxx false).result >>= _) = _
  rw [read]
  change ((Toolchain.find (withTarget settings parsed) settings world.present
    (some engine)).result >>= _) = _
  rw [Toolchain.result_find, target]
  by_cases served : triple.os = "kush" <;>
    simp [bind, Except.bind, pure, Except.pure, served]

end

/-! ## Endings -/

theorem runLink_of_prepare_error {world : World} {r : Request} {fault : Fault}
    (failed : (prepare world r).result = .error fault) :
    runLink world r = giveUp r (linkJob world r).events fault := by
  refine runLink_of_error ?_
  rw [result_linkJob, failed]
  rfl

theorem runLink_cases {world : World} {r : Request} {c : Config} {t : Toolchain}
    (prepared : (prepare world r).result = .ok (c, t)) (complete : t.settings.Complete) :
    (c.OptimisesNothing ∧ (runLink world r).ending = .exit 1 ∧ (runLink world r).output = "") ∨
    ((¬c.OptimisesNothing ∧ c.AsksForLibstdcxx) ∧
      (runLink world r).ending = .uncaught (.unsupportedCxxLibrary .libstdcxx)) ∨
    ((¬c.OptimisesNothing ∧ ¬c.AsksForLibstdcxx) ∧ ∃ command,
      (t.link c).result = .ok command ∧ (runLink world r).output = commandText world r command ∧
      (runLink world r).ending =
        .exit (exitCode ((prepare world r).diagnostics ++ c.libraryReports))) := by
  have job : (linkJob world r).result = (t.link c).result >>= fun command =>
      .ok (c, { toolchain := t }, command) := by
    rw [result_linkJob, prepared]
    rfl
  rcases Toolchain.link_cases complete c with ⟨vain, link⟩ | ⟨asks, link⟩ | ⟨fine, command, link⟩
  · rw [(Prod.mk.inj link).1] at job
    refine .inl ⟨vain, ?_, ?_⟩
    · rw [runLink_of_error job, ending_giveUp]
      rfl
    · rw [runLink_of_error job, output_giveUp]
  · rw [(Prod.mk.inj link).1] at job
    refine .inr (.inl ⟨asks, ?_⟩)
    rw [runLink_of_error job, ending_giveUp]
    rfl
  · obtain ⟨made, reports⟩ := Prod.mk.inj link
    rw [made] at job
    refine .inr (.inr ⟨fine, command, made, output_runLink_of_ok job, ?_⟩)
    rw [(runLink_of_ok job).1, diagnostics_linkJob prepared, reports]

theorem exitCode_eq_one_iff {ds : Diagnostics} : exitCode ds = 1 ↔ ds.hasErrors = true := by
  unfold exitCode
  split <;> simp_all

theorem exitCode_eq_zero_iff {ds : Diagnostics} : exitCode ds = 0 ↔ ¬ds.hasErrors = true := by
  unfold exitCode
  split <;> simp_all

theorem withLineEnd_ne_empty (text : String) : withLineEnd text ≠ "" := by
  intro same
  have shown := congrArg String.toList same
  simp [withLineEnd] at shown

theorem hasErrors_prepared_iff {world : World} {r : Request} {settings : Settings}
    (loaded : (loadSettings world r).result = .ok settings) (c : Config) :
    Diagnostics.hasErrors ((prepare world r).diagnostics ++ c.libraryReports) = true ↔
      RejectsLto r.arguments ∨ c.LinksRuntime ∧ c.MisnamesLibrary := by
  rw [Diagnostics.hasErrors_append, Bool.or_eq_true, diagnostics_prepare loaded,
    hasErrors_parse_iff, hasErrors_libraryReports_iff]

theorem runLink_fails_iff {world : World} {r : Request} {settings : Settings}
    (loaded : (loadSettings world r).result = .ok settings) (complete : settings.Complete)
    (aimed : settings.triple.isSome) :
    ((runLink world r).ending = .exit 1 ∧ (runLink world r).output = "") ↔
      (∃ spelling, (parse r.arguments r.cxx false).result = .error (.missingValue spelling)) ∨
      ∃ c triple, Settles settings r.arguments r.cxx c triple ∧
        (triple.os ≠ "kush" ∨ c.OptimisesNothing) := by
  have caught {fault : Fault} (failed : (prepare world r).result = .error fault)
      (mendable : fault.family = .configuration) :
      (runLink world r).ending = .exit 1 ∧ (runLink world r).output = "" := by
    rw [runLink_of_prepare_error failed, ending_giveUp, output_giveUp,
      if_pos (isCaught_of_configuration mendable)]
    exact ⟨rfl, rfl⟩
  constructor
  · rintro ⟨ending, output⟩
    rcases missing_or_settles aimed r.arguments r.cxx with missing | ⟨c, triple, settles⟩
    · exact .inl missing
    refine .inr ⟨c, triple, settles, ?_⟩
    by_contra both
    obtain ⟨served, worth⟩ := not_or.mp both
    have prepared := result_prepare_of_settles loaded settles
    rw [if_pos (not_not.mp served)] at prepared
    rcases runLink_cases prepared complete with
      ⟨vain, -⟩ | ⟨-, uncaught⟩ | ⟨-, command, -, shown, -⟩
    · exact worth vain
    · cases ending.symm.trans uncaught
    · exact withLineEnd_ne_empty _ (shown.symm.trans output)
  · rintro (⟨spelling, missing⟩ | ⟨c, triple, settles, reason⟩)
    · exact caught (result_prepare_of_missing loaded missing) rfl
    have prepared := result_prepare_of_settles loaded settles
    by_cases served : triple.os = "kush"
    · rw [if_pos served] at prepared
      have vain := reason.resolve_left (not_not_intro served)
      rcases runLink_cases prepared complete with ⟨-, fails⟩ | ⟨⟨worth, -⟩, -⟩ | ⟨⟨worth, -⟩, -⟩
      · exact fails
      · exact absurd vain worth
      · exact absurd vain worth
    · rw [if_neg served] at prepared
      exact caught prepared rfl

theorem run_link_outcome {world : World} {options : List String} (unmarked : "--" ∉ options)
    {r : Request}
    (asked : Invocation.ofArgs (Command.link.name :: options) world.keepsMark = .run .link r)
    (none_taken : r.arguments = []) {settings : Settings}
    (loaded : (loadSettings world r).result = .ok settings) (complete : settings.Complete)
    (aimed : settings.triple.isSome) (ds : List String) :
    let args := Command.link.name :: options ++ "--" :: ds
    let outcome := run world args
    Invocation.ofArgs args world.keepsMark = .run .link { r with arguments := ds } ∧
    (outcome.ending = .exit 1 ∧ outcome.output = "" ↔
      (∃ spelling, (parse ds r.cxx false).result = .error (.missingValue spelling)) ∨
      ∃ c triple, Settles settings ds r.cxx c triple ∧
        (triple.os ≠ "kush" ∨ c.OptimisesNothing)) ∧
    ((∃ spelling, (parse ds r.cxx false).result = .error (.missingValue spelling)) ∨
      ∃ c triple, Settles settings ds r.cxx c triple) ∧
    ∀ c triple, Settles settings ds r.cxx c triple → triple.os = "kush" → ¬c.OptimisesNothing →
      let t : Toolchain := ⟨settings, triple, c.sysroot, world.present, engine⟩
      (outcome.ending = .uncaught (.unsupportedCxxLibrary .libstdcxx) ↔ c.AsksForLibstdcxx) ∧
      (¬c.AsksForLibstdcxx → ∃ command, (t.link c).result = .ok command ∧
        outcome.output = withLineEnd (if r.json then (commandData command).write
          else (Shell.ofSystem world.system).line command.argv) ∧
        (outcome.ending = .exit 1 ↔ RejectsLto ds ∨ c.LinksRuntime ∧ c.MisnamesLibrary) ∧
        (outcome.ending = .exit 0 ↔
          ¬(RejectsLto ds ∨ c.LinksRuntime ∧ c.MisnamesLibrary))) := by
  intro args outcome
  have handed := ofArgs_append_terminator (by decide) unmarked asked none_taken ds
  have runs : outcome = runLink world { r with arguments := ds } := by
    change (Invocation.ofArgs args world.keepsMark).perform world = _
    rw [handed]
    rfl
  have loaded : (loadSettings world { r with arguments := ds }).result = .ok settings := loaded
  rw [runs]
  refine ⟨handed, runLink_fails_iff loaded complete aimed, missing_or_settles aimed ds r.cxx,
    fun c triple settles served worth => ?_⟩
  have prepared := result_prepare_of_settles loaded settles
  rw [if_pos served] at prepared
  rcases runLink_cases prepared complete with
    ⟨vain, -⟩ | ⟨⟨-, asks⟩, uncaught⟩ | ⟨⟨-, accepts⟩, command, links, output, ending⟩
  · exact absurd vain worth
  · exact ⟨iff_of_true uncaught asks, fun accepts => absurd asks accepts⟩
  · have errors := hasErrors_prepared_iff loaded c
    refine ⟨iff_of_false (by rw [ending]; simp) accepts, fun _ => ⟨command, links, output, ?_, ?_⟩⟩
    · rw [ending, Ending.exit.injEq, exitCode_eq_one_iff, errors]
    · rw [ending, Ending.exit.injEq, exitCode_eq_zero_iff, errors]

theorem run_link_outcome_unknown_lto :
    let ds := ["-h", "--json", "-flto=bogus", "a.o", "--", "-c", "--"]
    let outcome := run (targeting "i686-unknown-kush") ("link" :: ["--cxx"] ++ "--" :: ds)
    let c : Config :=
      { cxx := true, triple := some "i686-unknown-kush", inputs := ["a.o", "-c", "--"] }
    let t : Toolchain := ⟨{ triple := some "i686-unknown-kush" }, ⟨"i686", "unknown", "kush", ""⟩,
      "", fun _ => false, 0⟩
    Invocation.ofArgs ("link" :: ["--cxx"] ++ "--" :: ds) =
        .run .link { cxx := true, arguments := ds } ∧
      outcome.ending = .exit 1 ∧
      ∃ command, (t.link c).result = .ok command ∧
        outcome.output = withLineEnd (Shell.bash.line command.argv) := by
  intro ds outcome c t
  have asked : Invocation.ofArgs (Command.link.name :: ["--cxx"])
      (targeting "i686-unknown-kush").keepsMark = .run .link { cxx := true } := rfl
  have loaded : (loadSettings (targeting "i686-unknown-kush") { cxx := true }).result =
      .ok { triple := some "i686-unknown-kush" } := rfl
  have outcomes := run_link_outcome (by decide) asked rfl loaded ⟨rfl, rfl, rfl⟩ rfl ds
  have settles : Settles { triple := some "i686-unknown-kush" } ds true c
      ⟨"i686", "unknown", "kush", ""⟩ :=
    ⟨⟨{ cxx := true, inputs := ["a.o", "-c", "--"] }, rfl, rfl⟩, rfl⟩
  have rejects : RejectsLto ds :=
    ⟨["-h", "--json"], "bogus", ["a.o", "--", "-c", "--"], ⟨rfl, rfl⟩, by decide, by decide⟩
  obtain ⟨handed, -, -, links⟩ := outcomes
  obtain ⟨-, links⟩ := links c _ settles rfl (fun vain => nomatch vain.2)
  obtain ⟨command, made, output, failed, -⟩ := links (fun asks => nomatch asks.2)
  exact ⟨handed, failed.mpr (.inl rejects), command, made, output⟩

end CommandLine

end CrossDriver
