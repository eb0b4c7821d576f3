import CrossDriver.CommandLine.Run
import CrossDriver.Proofs.DriverOption.Reading
import CrossDriver.Proofs.Engines
import CrossDriver.Proofs.Settings.Load

namespace CrossDriver

/-! ## Toolchains -/

namespace Toolchain

theorem platforms_get (triple : Triple) :
    platforms.get triple =
      if triple.os = "kush" then .ok .kush else .error (.unsupportedTarget triple) := by
  by_cases served : "kush" = triple.os
  · simp [platforms, Registry.get, Registry.register, Table.put, Table.get?, served]
  · simp [platforms, Registry.get, Registry.register, Table.put, Table.get?, served, eq_comm]

section
variable (c : Config) (settings : Settings) (present : String → Bool) (given : Option Engine)
  (fresh : Engine)

theorem find_eq :
    find c settings present given fresh = Traced.ofExcept c.target >>= fun triple =>
      if triple.os = "kush" then create settings triple c.sysroot present given fresh
      else Traced.fail (.unsupportedTarget triple) := by
  unfold find
  congr 1
  funext triple
  rw [platforms_get]
  by_cases served : triple.os = "kush" <;> simp only [served, if_true, if_false]

theorem result_find :
    (find c settings present given fresh).result = c.target >>= fun triple =>
      if triple.os = "kush" then .ok ⟨settings, triple, c.sysroot, present, given.getD fresh⟩
      else .error (.unsupportedTarget triple) := by
  rw [find_eq, Traced.result_bind, Traced.result_ofExcept]
  congr 1
  funext triple
  split <;> rfl

variable {c} in
theorem result_find_of_target {triple : Triple} (target : c.target = .ok triple) :
    (find c settings present given fresh).result =
      if triple.os = "kush" then .ok ⟨settings, triple, c.sysroot, present, given.getD fresh⟩
      else .error (.unsupportedTarget triple) := by
  rw [result_find, target]
  rfl

variable {c settings present given fresh} in
theorem engine_of_find {t : Toolchain}
    (found : (find c settings present given fresh).result = .ok t) : t.engine = given.getD fresh := by
  rw [result_find] at found
  obtain ⟨triple, -, found⟩ := exists_of_bind_ok found
  split at found
  · cases found
    rfl
  · cases found

theorem diagnostics_find : (find c settings present given fresh).diagnostics = [] := by
  rw [find_eq, Traced.diagnostics_bind, Traced.diagnostics_ofExcept, Traced.result_ofExcept]
  cases c.target with
  | error fault => rfl
  | ok triple =>
    dsimp only
    split <;> rfl

end

end Toolchain

namespace CommandLine

theorem diagnostics_loadSettings (world : World) (r : Request) :
    (loadSettings world r).diagnostics = [] := by
  unfold loadSettings
  split
  · exact Settings.diagnostics_load _ _ _ _
  · rfl
  · exact Settings.diagnostics_load _ _ _ _

/-! ## Configurations -/

theorem result_prepare (world : World) (r : Request) :
    (prepare world r).result = do
      let settings ← (loadSettings world r).result
      let parsed ← (Config.parse r.arguments r.cxx false).result
      let toolchain ←
        (Toolchain.find (withTarget settings parsed) settings world.present (some engine)).result
      return (withTarget settings parsed, toolchain) := by
  simp only [prepare, Traced.result_bind, Config.result_parse_given]
  rfl

theorem diagnostics_prepare {world : World} {r : Request} {settings : Settings}
    (loaded : (loadSettings world r).result = .ok settings) :
    (prepare world r).diagnostics = (Config.parse r.arguments r.cxx false).diagnostics := by
  rw [prepare, Traced.diagnostics_bind, loaded, diagnostics_loadSettings, List.nil_append]
  dsimp only
  rw [Traced.diagnostics_bind, Config.result_parse_given, Config.diagnostics_parse_given]
  cases (Config.parse r.arguments r.cxx false).result with
  | error fault => exact List.append_nil _
  | ok parsed =>
    dsimp only
    rw [Traced.diagnostics_bind, Toolchain.diagnostics_find]
    cases (Toolchain.find (withTarget settings parsed) settings world.present
        (some engine)).result <;>
      exact List.append_nil _

/-! ## Jobs -/

theorem result_linkJob (world : World) (r : Request) :
    (linkJob world r).result = do
      let (c, toolchain) ← (prepare world r).result
      let command ← (toolchain.link c).result
      return (c, { toolchain }, command) := by
  simp only [linkJob, Traced.result_bind]
  rfl

theorem diagnostics_linkJob {world : World} {r : Request} {c : Config} {toolchain : Toolchain}
    (prepared : (prepare world r).result = .ok (c, toolchain)) :
    (linkJob world r).diagnostics =
      (prepare world r).diagnostics ++ (toolchain.link c).diagnostics := by
  rw [linkJob, Traced.diagnostics_bind, prepared]
  dsimp only
  congr 1
  change (toolchain.link c >>= _).diagnostics = _
  rw [Traced.diagnostics_bind]
  cases (toolchain.link c).result <;> exact List.append_nil _

theorem result_compileJob (world : World) (r : Request) :
    (compileJob world r).result =
      (prepare world r).result >>= fun (c, toolchain) => (toolchain.compileArgs c).result := by
  rw [compileJob, Traced.result_bind]

theorem diagnostics_compileJob {world : World} {r : Request} {c : Config} {toolchain : Toolchain}
    (prepared : (prepare world r).result = .ok (c, toolchain)) :
    (compileJob world r).diagnostics =
      (prepare world r).diagnostics ++ (toolchain.compileArgs c).diagnostics := by
  rw [compileJob, Traced.diagnostics_bind, prepared]

theorem result_pathsJob (world : World) (r : Request) :
    (pathsJob world r).result = do
      let settings ← (loadSettings world r).result
      let c := pathsConfig settings r
      let toolchain ← (Toolchain.find c settings world.present (some engine)).result
      let cxx ← (toolchain.cxxHeaders c).result
      let system ← toolchain.systemHeaders c
      return (toolchain.paths, cxx ++ system) := by
  simp only [pathsJob, Traced.result_bind, Traced.result_ofExcept]
  rfl

/-! ## Reports -/

theorem onlyTo_prepare (world : World) (r : Request) : (prepare world r).OnlyTo engine := by
  refine Traced.onlyTo_bind (Traced.onlyTo_of_silent (diagnostics_loadSettings world r))
    fun settings _ => ?_
  refine Traced.onlyTo_bind (Config.onlyTo_parse r.arguments r.cxx false (some engine) 0)
    fun parsed _ => ?_
  exact Traced.onlyTo_bind (Traced.onlyTo_of_silent (Toolchain.diagnostics_find _ _ _ _ _))
    fun _ _ => Traced.onlyTo_pure _

theorem engine_of_prepare_ok {world : World} {r : Request} {c : Config} {toolchain : Toolchain}
    (prepared : (prepare world r).result = .ok (c, toolchain)) : toolchain.engine = engine := by
  rw [result_prepare] at prepared
  obtain ⟨settings, -, prepared⟩ := exists_of_bind_ok prepared
  obtain ⟨parsed, -, prepared⟩ := exists_of_bind_ok prepared
  obtain ⟨made, found, same⟩ := exists_of_bind_ok prepared
  cases same
  exact Toolchain.engine_of_find found

theorem onlyTo_linkJob (world : World) (r : Request) : (linkJob world r).OnlyTo engine := by
  refine Traced.onlyTo_bind (onlyTo_prepare world r) fun (c, toolchain) prepared => ?_
  rw [← engine_of_prepare_ok prepared]
  exact Traced.onlyTo_bind (Linker.onlyTo_command _ c) fun _ _ => Traced.onlyTo_pure _

theorem onlyTo_compileJob (world : World) (r : Request) : (compileJob world r).OnlyTo engine := by
  refine Traced.onlyTo_bind (onlyTo_prepare world r) fun (c, toolchain) prepared => ?_
  rw [← engine_of_prepare_ok prepared]
  exact toolchain.onlyTo_compileArgs c

/-! ## Printing -/

namespace Outcome

variable {o : Outcome} {encodes : String → Bool}

theorem written_of_encodes (all : ∀ text ∈ o.printed, encodes text = true) :
    o.written encodes = ⟨.ended o.ending, o.output, o.log⟩ := by
  have none_refused : o.printed.find? (!encodes ·) = none :=
    List.find?_eq_none.mpr fun text mem => by simp [all text mem]
  rw [written, none_refused]

theorem written_of_single {text : String} (single : o.printed = [text]) :
    o.written encodes =
      if encodes text = true then ⟨.ended o.ending, text, o.log⟩
      else ⟨.unencodable text, "", o.log⟩ := by
  cases taken : encodes text with
  | true => simp [written, output, single, taken]
  | false =>
    simp [written, single, taken]
    rfl

theorem close_written_eq_ended_iff {ending : Ending} :
    (o.written encodes).close = .ended ending ↔
      o.ending = ending ∧ ∀ text ∈ o.printed, encodes text = true := by
  constructor
  · intro closed
    rw [written] at closed
    split at closed
    case h_1 none_refused =>
      refine ⟨Close.ended.inj closed, fun text mem => ?_⟩
      simpa using List.find?_eq_none.mp none_refused text mem
    case h_2 => cases closed
  · rintro ⟨rfl, all⟩
    rw [written_of_encodes all]

theorem exists_unencodable_iff :
    (∃ text, (o.written encodes).close = .unencodable text) ↔
      ∃ text ∈ o.printed, encodes text = false := by
  constructor
  · rintro ⟨text, closed⟩
    rw [written] at closed
    split at closed
    case h_1 => cases closed
    case h_2 found =>
      cases closed
      exact ⟨text, List.mem_of_find?_eq_some found, by simpa using List.find?_some found⟩
  · rintro ⟨text, mem, refused⟩
    cases closed : (o.written encodes).close with
    | ended ending =>
      have taken := (close_written_eq_ended_iff.mp closed).2 text mem
      rw [refused] at taken
      cases taken
    | unencodable other => exact ⟨other, rfl⟩

end Outcome

/-! ## Endings -/

theorem printed_giveUp (r : Request) (events : List Event) (fault : Fault) :
    (giveUp r events fault).printed = [] := by
  unfold giveUp
  split <;> rfl

theorem output_giveUp (r : Request) (events : List Event) (fault : Fault) :
    (giveUp r events fault).output = "" := by
  rw [Outcome.output, printed_giveUp]
  rfl

theorem ending_giveUp (r : Request) (events : List Event) (fault : Fault) :
    (giveUp r events fault).ending =
      if isCaught fault then .exit 1 else .uncaught fault := by
  unfold giveUp
  split <;> rfl

theorem runLink_of_error {world : World} {r : Request} {fault : Fault}
    (failed : (linkJob world r).result = .error fault) :
    runLink world r = giveUp r (linkJob world r).events fault := by
  simp only [runLink, failed]

theorem firedRules_ok_of_linkJob {world : World} {r : Request} {c : Config} {linker : Linker}
    {command : LinkCommand} (linked : (linkJob world r).result = .ok (c, linker, command)) :
    ∃ names, (linker.firedRules c).result = .ok names := by
  rw [result_linkJob] at linked
  obtain ⟨⟨settled, toolchain⟩, -, linked⟩ := exists_of_bind_ok linked
  obtain ⟨made, given, answered⟩ := exists_of_bind_ok linked
  cases answered
  rw [Toolchain.link, Linker.result_command] at given
  obtain ⟨ctx, contextual, -⟩ := exists_of_bind_ok given
  rw [Linker.result_firedRules, contextual]
  exact ⟨_, rfl⟩

theorem runLink_of_ok {world : World} {r : Request} {c : Config} {linker : Linker}
    {command : LinkCommand} (linked : (linkJob world r).result = .ok (c, linker, command)) :
    (runLink world r).ending = .exit (exitCode (linkJob world r).diagnostics) ∧
      (runLink world r).printed = [commandText world r command] := by
  obtain ⟨names, fired⟩ := firedRules_ok_of_linkJob linked
  have reports := Traced.reportsTo_self (onlyTo_linkJob world r)
  cases explains : r.explain with
  | false => simp [runLink, linked, explains, reports]
  | true =>
    have silent : (linker.firedRules c).reportsTo engine = [] :=
      (Traced.reportsTo_self (Traced.onlyTo_of_silent (linker.diagnostics_firedRules c))).trans
        (linker.diagnostics_firedRules c)
    simp [runLink, linked, explains, fired, reports, silent]

theorem output_runLink_of_ok {world : World} {r : Request} {c : Config} {linker : Linker}
    {command : LinkCommand} (linked : (linkJob world r).result = .ok (c, linker, command)) :
    (runLink world r).output = commandText world r command := by
  rw [Outcome.output, (runLink_of_ok linked).2, Text.join_singleton]

theorem runCompile_of_ok {world : World} {r : Request} {args : List String}
    (compiled : (compileJob world r).result = .ok args) :
    (runCompile world r).ending = .exit (exitCode (compileJob world r).diagnostics) ∧
      (runCompile world r).output = withLineEnd ((Shell.ofSystem world.system).line args) := by
  simp [runCompile, compiled, Traced.reportsTo_self (onlyTo_compileJob world r), Outcome.output]

def listing (programs : List (Option String)) (libraries headers : List String) : String :=
  Text.join "" (directoryLines "programs" programs ++
    directoryLines "libraries" (libraries.map some) ++ directoryLines "includes" (headers.map some))

theorem runPaths_of_ok {world : World} {r : Request} {paths : SearchPaths} {headers : List String}
    (listed : (pathsJob world r).result = .ok (paths, headers)) :
    (runPaths world r).ending = .exit 0 ∧
      (runPaths world r).output = listing paths.programs paths.libraries headers := by
  simp [runPaths, listed, listing, Outcome.output]

namespace Command

def answer (command : Command) (world : World) (r : Request) : Except Fault Unit :=
  match command with
  | .link => (linkJob world r).result.map fun _ => ()
  | .cc1 => (compileJob world r).result.map fun _ => ()
  | .paths => (pathsJob world r).result.map fun _ => ()

theorem run_of_error {command : Command} {world : World} {r : Request} {fault : Fault}
    (failed : command.answer world r = .error fault) :
    ∃ events, command.run world r = giveUp r events fault := by
  cases command with
  | link => exact ⟨_, runLink_of_error (eq_of_map_eq_error failed)⟩
  | cc1 =>
    have failed := eq_of_map_eq_error failed
    exact ⟨(compileJob world r).events, by simp only [run, runCompile, failed]⟩
  | paths =>
    have failed := eq_of_map_eq_error failed
    exact ⟨(pathsJob world r).events, by simp only [run, runPaths, failed]⟩

theorem exitCode_le_one (ds : Diagnostics) : exitCode ds ≤ 1 := by
  unfold exitCode
  split <;> decide

theorem ending_run_of_ok {command : Command} {world : World} {r : Request}
    (given : command.answer world r = .ok ()) :
    ∃ code, code ≤ 1 ∧ (command.run world r).ending = .exit code := by
  cases command with
  | link =>
    obtain ⟨⟨c, linker, made⟩, given, -⟩ := exists_of_map_eq_ok given
    exact ⟨_, exitCode_le_one _, (runLink_of_ok given).1⟩
  | cc1 =>
    obtain ⟨args, given, -⟩ := exists_of_map_eq_ok given
    exact ⟨_, exitCode_le_one _, by simp only [run, runCompile, given]; rfl⟩
  | paths =>
    obtain ⟨⟨paths, headers⟩, given, -⟩ := exists_of_map_eq_ok given
    exact ⟨0, Nat.zero_le 1, by simp only [run, runPaths, given]⟩

theorem ending_run_of_error {command : Command} {world : World} {r : Request} {fault : Fault}
    (failed : command.answer world r = .error fault) :
    (command.run world r).ending = if isCaught fault then .exit 1 else .uncaught fault := by
  obtain ⟨events, gives_up⟩ := run_of_error failed
  rw [gives_up, ending_giveUp]

theorem ending_run_eq_uncaught_iff {command : Command} {world : World} {r : Request}
    {fault : Fault} :
    (command.run world r).ending = .uncaught fault ↔
      command.answer world r = .error fault ∧ isCaught fault = false := by
  cases given : command.answer world r with
  | ok answer =>
    obtain ⟨code, -, ending⟩ := ending_run_of_ok given
    simp [ending]
  | error other =>
    rw [ending_run_of_error given]
    constructor
    · intro ending
      split at ending
      · cases ending
      case isFalse stray =>
        cases ending
        exact ⟨rfl, Bool.eq_false_iff.mpr stray⟩
    · rintro ⟨same, stray⟩
      cases same
      rw [stray]
      rfl

/-- A fault that leaves the program does so before anything is printed. -/
theorem close_run_eq_uncaught_iff {command : Command} {world : World} {r : Request} {fault : Fault}
    {encodes : String → Bool} :
    ((command.run world r).written encodes).close = .ended (.uncaught fault) ↔
      command.answer world r = .error fault ∧ isCaught fault = false := by
  rw [Outcome.close_written_eq_ended_iff, ending_run_eq_uncaught_iff]
  refine and_iff_left_of_imp fun ⟨failed, _⟩ => ?_
  obtain ⟨events, gives_up⟩ := run_of_error failed
  rw [gives_up, printed_giveUp]
  exact fun text mem => nomatch mem

theorem answer_of_loadSettings_error (command : Command) {world : World} {r : Request}
    {fault : Fault} (failed : (loadSettings world r).result = .error fault) :
    command.answer world r = .error fault := by
  cases command with
  | link => rw [answer, result_linkJob, result_prepare, failed]; rfl
  | cc1 => rw [answer, result_compileJob, result_prepare, failed]; rfl
  | paths => rw [answer, result_pathsJob, failed]; rfl

end Command

end CommandLine

end CrossDriver
