import CrossDriver.Proofs.CommandLine.LinkCommand
import CrossDriver.Proofs.CommandLine.SysrootOption
import CrossDriver.Proofs.DriverOption.Spelled
import CrossDriver.Proofs.Toolchain.Directories

namespace CrossDriver

/-! ## Driver arguments -/

namespace Config
open OptionLookup

def sysrootArgs (sysroot : String) (inputs : List String) : List String :=
  ("--sysroot=" ++ sysroot) :: inputs

theorem parse_sysrootArgs (sysroot : String) {inputs : List String}
    (taken : Spells inputs (inputs.map .input)) (cxx : Bool) :
    (parse (sysrootArgs sysroot inputs) cxx false).result = .ok { cxx, sysroot, inputs } ∧
      (parse (sysrootArgs sysroot inputs) cxx false).diagnostics = [] := by
  have named : Spells ["--sysroot=" ++ sysroot] [.assign (.word .sysroot sysroot)] :=
    spells_word (show Word.sysroot ≠ .output from nofun) nofun
  have edited : ({} : Config).edits ((presets cxx false).map .assign ++
      ([.assign (.word .sysroot sysroot)] ++ inputs.map .input)) = { cxx, sysroot, inputs } := by
    rw [← List.append_assoc, edits_append, edits_inputs]
    rfl
  have outcome := outcome_parse_of_scan (named.append taken).read cxx false
  rw [edited] at outcome
  exact Prod.mk.inj outcome

end Config

namespace CommandLine
open Config

theorem withTarget_of_built_in (settings : Settings) {c : Config}
    (built_in : c.triple = some Triple.defaultText) :
    withTarget settings c = { c with triple := settings.triple } := by
  unfold withTarget
  by_cases same : settings.triple = some Triple.defaultText
  · rw [if_neg (by simp [same]), same, ← built_in]
  · rw [if_pos ⟨built_in, same⟩]

def sysrootConfig (settings : Settings) (cxx : Bool) (sysroot : String) (inputs : List String) :
    Config :=
  { cxx, sysroot, triple := settings.triple, inputs }

def toolchainFor (world : World) (settings : Settings) (text own : String) : Toolchain :=
  ⟨settings, .parse text, own, world.present, engine⟩

theorem settles_sysrootArgs {settings : Settings} {text : String}
    (aimed : settings.triple = some text) (sysroot : String) {inputs : List String}
    (taken : OptionLookup.Spells inputs (inputs.map .input)) (cxx : Bool) :
    Settles settings (sysrootArgs sysroot inputs) cxx (sysrootConfig settings cxx sysroot inputs)
      (.parse text) where
  configuration := by
    obtain ⟨parsed, -⟩ := parse_sysrootArgs sysroot taken cxx
    have settled := withTarget_of_built_in settings (c := { cxx, sysroot, inputs }) rfl
    exact ⟨_, parsed, settled.symm⟩
  target := by rw [Config.target, sysrootConfig, aimed]

/-! ## Jobs -/

section
variable {world : World} {r : Request} {c : Config} {t : Toolchain}
  (prepared : (prepare world r).result = .ok (c, t)) (silent : (prepare world r).diagnostics = [])
  (unnamed : c.cxxStdlib = none)
include prepared silent unnamed

theorem runLink_of_prepared (complete : t.settings.Complete) (plain : c.usesLto = false)
    (runtime : c.rtlib = none) :
    ∃ command, (t.link c).result = .ok command ∧ (runLink world r).ending = .exit 0 ∧
      (runLink world r).output = commandText world r command := by
  have worth : ¬c.OptimisesNothing := by simp [c.optimisesNothing_iff, plain]
  have accepts : ¬c.AsksForLibstdcxx := by simp [AsksForLibstdcxx, unnamed]
  rcases runLink_cases prepared complete with
    ⟨vain, -⟩ | ⟨⟨-, asks⟩, -⟩ | ⟨-, command, linked, output, ending⟩
  · exact absurd vain worth
  · exact absurd asks accepts
  · rw [silent, libraryReports_eq_nil unnamed runtime] at ending
    exact ⟨command, linked, ending, output⟩

theorem runCompile_of_prepared {resources : String} (located : t.resourceDir = .ok resources) :
    (runCompile world r).ending = .exit 0 ∧
      (runCompile world r).output = withLineEnd ((Shell.ofSystem world.system).line
        (["-triple", t.triple.text] ++ targetOptions c ++
          headerArgs (c.headersIn resources c.sysroot))) := by
  obtain ⟨compiled, reports⟩ := Prod.mk.inj (Toolchain.outcome_compileArgs unnamed located)
  have job : (compileJob world r).result = (t.compileArgs c).result := by
    rw [result_compileJob, prepared]
    rfl
  rw [compiled] at job
  obtain ⟨ending, output⟩ := runCompile_of_ok job
  rw [diagnostics_compileJob prepared, silent, reports] at ending
  exact ⟨ending, output⟩

end

theorem result_pathsJob_of_loaded {world : World} {r : Request} {settings : Settings}
    (loaded : (loadSettings world r).result = .ok settings) {c : Config}
    (configured : pathsConfig settings r = c) :
    (pathsJob world r).result =
      (Toolchain.find c settings world.present (some engine)).result >>= fun t =>
        t.resourceDir.map fun resources => (t.paths, c.headersIn resources c.sysroot) := by
  rw [result_pathsJob, loaded]
  change ((Toolchain.find (pathsConfig settings r) settings world.present
    (some engine)).result >>= _) = _
  rw [configured]
  cases (Toolchain.find c settings world.present (some engine)).result with
  | error fault => rfl
  | ok t =>
    have headers := t.listed_headers (c := c) (configured ▸ rfl) (configured ▸ rfl)
    calc
      _ = (t.cxxHeaders c).result >>= fun cxx => t.systemHeaders c >>= fun system =>
            .ok (t.paths, cxx ++ system) := rfl
      _ = ((t.cxxHeaders c).result >>= fun cxx => t.systemHeaders c >>= fun system =>
            .ok (cxx ++ system)).map fun headers => (t.paths, headers) := by
          cases (t.cxxHeaders c).result with
          | error fault => rfl
          | ok cxx => cases t.systemHeaders c <;> rfl
      _ = t.resourceDir.map fun resources => (t.paths, c.headersIn resources c.sysroot) := by
          rw [headers]
          cases t.resourceDir <;> rfl

/-! ## Command lines -/

/-- Options of a command that name no target, under which it works with given settings. -/
structure Asks (world : World) (settings : Settings) (command : Command) (options : List String)
    (r : Request) : Prop where
  unmarked : "--" ∉ options
  asked : Invocation.ofArgs (command.name :: options) world.keepsMark = .run command r
  no_arguments : r.arguments = []
  untargeted : r.target = none
  loaded : (loadSettings world r).result = .ok settings

def RefusesTarget (outcome : Outcome) (triple : Triple) : Prop :=
  outcome.ending = .exit 1 ∧ ∃ r events, outcome = giveUp r events (.unsupportedTarget triple)

theorem refusesTarget_of_answer {command : Command} {world : World} {r : Request} {triple : Triple}
    (failed : command.answer world r = .error (.unsupportedTarget triple)) :
    RefusesTarget (command.run world r) triple := by
  obtain ⟨events, gives_up⟩ := Command.run_of_error failed
  rw [gives_up]
  exact ⟨ending_giveUp r events _, r, events, rfl⟩

namespace Asks

variable {world : World} {settings : Settings} {options : List String} {r : Request}

theorem run_driven {command : Command} (asks : Asks world settings command options r)
    (driven : command ≠ .paths) (arguments : List String) :
    run world (command.name :: options ++ "--" :: arguments) =
      command.run world { r with arguments } := by
  rw [run, ofArgs_append_terminator driven asks.unmarked asks.asked asks.no_arguments]
  rfl

theorem run_listing (asks : Asks world settings .paths options r) (sysroot : String) :
    run world (Command.paths.name :: options ++ ["--sysroot=" ++ sysroot]) =
      Command.paths.run world { r with sysroot := heededSysroot world.keepsMark sysroot } := by
  rw [run, ofArgs_append_sysroot asks.unmarked asks.asked]
  rfl

section
variable {command : Command} (asks : Asks world settings command options r) {text : String}
  (aimed : settings.triple = some text) (sysroot : String) {inputs : List String}
  (taken : OptionLookup.Spells inputs (inputs.map .input))
include asks taken

theorem diagnostics_prepare_sysrootArgs :
    (prepare world { r with arguments := sysrootArgs sysroot inputs }).diagnostics = [] := by
  have loaded : (loadSettings world { r with arguments := sysrootArgs sysroot inputs }).result =
      .ok settings := asks.loaded
  rw [diagnostics_prepare loaded]
  exact (parse_sysrootArgs sysroot taken r.cxx).2

include aimed

theorem result_prepare_sysrootArgs :
    (prepare world { r with arguments := sysrootArgs sysroot inputs }).result =
      if (Triple.parse text).os = "kush" then
        .ok (sysrootConfig settings r.cxx sysroot inputs, toolchainFor world settings text sysroot)
      else .error (.unsupportedTarget (.parse text)) := by
  have loaded : (loadSettings world { r with arguments := sysrootArgs sysroot inputs }).result =
      .ok settings := asks.loaded
  exact result_prepare_of_settles loaded (settles_sysrootArgs aimed sysroot taken r.cxx)

end

theorem result_pathsJob_sysroot (asks : Asks world settings .paths options r) {text : String}
    (aimed : settings.triple = some text) (sysroot : String) :
    (pathsJob world { r with sysroot := heededSysroot world.keepsMark sysroot }).result =
      if (Triple.parse text).os = "kush" then
        let heeded := (heededSysroot world.keepsMark sysroot).getD ""
        settings.resourceDirectory.map fun resources =>
          ((toolchainFor world settings text heeded).paths,
            (sysrootConfig settings true heeded []).headersIn resources heeded)
      else .error (.unsupportedTarget (.parse text)) := by
  let heeded := (heededSysroot world.keepsMark sysroot).getD ""
  let c := sysrootConfig settings true heeded []
  let heeding : Request := { r with sysroot := heededSysroot world.keepsMark sysroot }
  have loaded : (loadSettings world heeding).result = .ok settings := asks.loaded
  have configured : pathsConfig settings heeding = c := by
    have triple : (Settings.nonEmpty? r.target).or settings.triple = settings.triple := by
      rw [asks.untargeted]
      exact Option.none_or
    rw [pathsConfig, triple]
    rfl
  have target : c.target = .ok (.parse text) := by
    rw [Config.target, show c.triple = some text from aimed]
  rw [result_pathsJob_of_loaded loaded configured, Toolchain.result_find_of_target _ _ _ _ target]
  by_cases served : (Triple.parse text).os = "kush"
  · rw [if_pos served, if_pos served]
    rfl
  · rw [if_neg served, if_neg served]
    rfl

/-! ### Without a toolchain for the target -/

section
variable {text : String} (aimed : settings.triple = some text)
  (unserved : (Triple.parse text).os ≠ "kush") (sysroot : String)
include aimed unserved

theorem listing_refuses (asks : Asks world settings .paths options r) :
    RefusesTarget (run world (Command.paths.name :: options ++ ["--sysroot=" ++ sysroot]))
      (.parse text) := by
  have job := asks.result_pathsJob_sysroot aimed sysroot
  rw [if_neg unserved] at job
  rw [asks.run_listing]
  apply refusesTarget_of_answer
  rw [Command.answer, job]
  rfl

theorem driven_refuses {command : Command} (asks : Asks world settings command options r)
    (driven : command ≠ .paths) {inputs : List String}
    (taken : OptionLookup.Spells inputs (inputs.map .input)) :
    RefusesTarget (run world (command.name :: options ++ "--" :: sysrootArgs sysroot inputs))
      (.parse text) := by
  have prepared := asks.result_prepare_sysrootArgs aimed sysroot taken
  rw [if_neg unserved] at prepared
  rw [asks.run_driven driven]
  apply refusesTarget_of_answer
  cases command with
  | link =>
    rw [Command.answer, result_linkJob, prepared]
    rfl
  | cc1 =>
    rw [Command.answer, result_compileJob, prepared]
    rfl
  | paths => exact absurd rfl driven

end

/-! ### With one -/

section
variable {text : String} (aimed : settings.triple = some text)
  (served : (Triple.parse text).os = "kush") (sysroot : String)
include aimed served

theorem listing_shows (asks : Asks world settings .paths options r) {resources : String}
    (located : settings.resourceDirectory = .ok resources) :
    let outcome := run world (Command.paths.name :: options ++ ["--sysroot=" ++ sysroot])
    let heeded := (heededSysroot world.keepsMark sysroot).getD ""
    let t := toolchainFor world settings text heeded
    outcome.ending = .exit 0 ∧ outcome.output = listing t.paths.programs t.paths.libraries
      ((sysrootConfig settings true heeded []).headersIn resources heeded) := by
  have job := asks.result_pathsJob_sysroot aimed sysroot
  rw [if_pos served, located] at job
  rw [asks.run_listing]
  exact runPaths_of_ok job

theorem link_makes (asks : Asks world settings .link options r) (complete : settings.Complete)
    {inputs : List String} (taken : OptionLookup.Spells inputs (inputs.map .input)) :
    let outcome := run world (Command.link.name :: options ++ "--" :: sysrootArgs sysroot inputs)
    let c := sysrootConfig settings r.cxx sysroot inputs
    let t := toolchainFor world settings text sysroot
    ∃ command before behind, (t.link c).result = .ok command ∧ outcome.ending = .exit 0 ∧
      outcome.output = commandText world r command ∧
      command.args = before ++ t.paths.libraries.map ("-L" ++ ·) ++ inputs ++ behind ∧
      ∃ linker, settings.linker = some linker ∧ (command.executable = linker ∨
        ∃ directory, some directory ∈ t.paths.programs ∧
          command.executable = SearchPaths.candidate directory linker) := by
  intro outcome c t
  have prepared := asks.result_prepare_sysrootArgs aimed sysroot taken
  have silent := asks.diagnostics_prepare_sysrootArgs sysroot taken
  rw [if_pos served] at prepared
  have ran : outcome = runLink world { r with arguments := sysrootArgs sysroot inputs } :=
    asks.run_driven nofun _
  have unnamed : c.cxxStdlib = none := rfl
  have plain : c.usesLto = false := rfl
  have runtime : c.rtlib = none := rfl
  have own : c.sysroot = t.sysroot := rfl
  obtain ⟨command, made, ending, output⟩ :=
    runLink_of_prepared prepared silent unnamed complete plain runtime
  obtain ⟨⟨behind, args⟩, found⟩ := Toolchain.directories_of_link own plain rfl made
  rw [ran]
  exact ⟨command, _, behind, made, ending, output, args, found⟩

theorem compile_adds (asks : Asks world settings .cc1 options r) {resources : String}
    (located : settings.resourceDirectory = .ok resources) {inputs : List String}
    (taken : OptionLookup.Spells inputs (inputs.map .input)) :
    let outcome := run world (Command.cc1.name :: options ++ "--" :: sysrootArgs sysroot inputs)
    let c := sysrootConfig settings r.cxx sysroot inputs
    let t := toolchainFor world settings text sysroot
    outcome.ending = .exit 0 ∧
      outcome.output = withLineEnd ((Shell.ofSystem world.system).line
        (["-triple", t.triple.text] ++ targetOptions c ++
          headerArgs (c.headersIn resources c.sysroot))) := by
  intro outcome c t
  have prepared := asks.result_prepare_sysrootArgs aimed sysroot taken
  have silent := asks.diagnostics_prepare_sysrootArgs sysroot taken
  rw [if_pos served] at prepared
  have ran : outcome = runCompile world { r with arguments := sysrootArgs sysroot inputs } :=
    asks.run_driven nofun _
  rw [ran]
  have unnamed : c.cxxStdlib = none := rfl
  exact runCompile_of_prepared prepared silent unnamed located

end

end Asks

/-! ## Side by side -/

/-- For a target that there is a toolchain for, the listing shows the directories that the other two
commands use, in the same order; but it passes over a sysroot that is spelled `--`. For another
target all three give up. -/
theorem run_one_toolchain {world : World} {settings : Settings} {text : String}
    (complete : settings.Complete) (aimed : settings.triple = some text)
    {listOptions linkOptions compileOptions : List String} {p l x : Request}
    (lists : Asks world settings .paths listOptions p)
    (links : Asks world settings .link linkOptions l)
    (compiles : Asks world settings .cc1 compileOptions x) (mode : x.cxx = true)
    (sysroot : String) :
    let listed := run world (Command.paths.name :: listOptions ++ ["--sysroot=" ++ sysroot])
    let linked :=
      run world (Command.link.name :: linkOptions ++ "--" :: ["--sysroot=" ++ sysroot, "x.o"])
    let compiled :=
      run world (Command.cc1.name :: compileOptions ++ "--" :: ["--sysroot=" ++ sysroot])
    let heeded := if sysroot = "--" ∧ !world.keepsMark then "" else sysroot
    let toolchain := toolchainFor world settings text
    let headers (resources own : String) :=
      (sysrootConfig settings true own []).headersIn resources own
    let c := sysrootConfig settings l.cxx sysroot ["x.o"]
    ((Triple.parse text).os ≠ "kush" ∧
      ∀ outcome ∈ [listed, linked, compiled], RefusesTarget outcome (.parse text)) ∨
    ((Triple.parse text).os = "kush" ∧
      (∀ outcome ∈ [listed, linked, compiled], outcome.ending = .exit 0) ∧
      ∃ resources command before behind, settings.resourceDirectory = .ok resources ∧
        ((toolchain sysroot).link c).result = .ok command ∧
        listed.output = listing (toolchain heeded).paths.programs (toolchain heeded).paths.libraries
          (headers resources heeded) ∧
        compiled.output = withLineEnd ((Shell.ofSystem world.system).line
          (["-triple", (toolchain sysroot).triple.text, "-ffunction-sections", "-fdata-sections"] ++
            headerArgs (headers resources sysroot))) ∧
        linked.output = commandText world l command ∧
        (LinkRule.emit ⟨c, toolchain sysroot, command.executable⟩ .libraryPaths).result =
          .ok ((toolchain sysroot).paths.libraries.map ("-L" ++ ·)) ∧
        command.args =
          before ++ (toolchain sysroot).paths.libraries.map ("-L" ++ ·) ++ "x.o" :: behind ∧
        ∃ linker, settings.linker = some linker ∧ (command.executable = linker ∨
          ∃ directory, some directory ∈ (toolchain heeded).paths.programs ∧
            command.executable = SearchPaths.candidate directory linker)) := by
  intro listed linked compiled heeded toolchain headers c
  have input : OptionLookup.Spells ["x.o"] (["x.o"].map .input) := ⟨rfl, rfl⟩
  by_cases served : (Triple.parse text).os = "kush"
  · obtain ⟨resources, located⟩ := complete.resourceDirectory_ok
    obtain ⟨list_ending, shows⟩ := lists.listing_shows aimed served sysroot located
    rw [heededSysroot_getD] at shows
    obtain ⟨command, before, behind, made, link_ending, makes, args, linker, asked, found⟩ :=
      links.link_makes aimed served sysroot complete input
    obtain ⟨compile_ending, adds⟩ := compiles.compile_adds aimed served sysroot located .nil
    let t := toolchain sysroot
    have emitted : (LinkRule.emit ⟨c, t, command.executable⟩ .libraryPaths).result =
        .ok (t.paths.libraries.map ("-L" ++ ·)) := rfl
    rw [List.append_assoc _ ["x.o"]] at args
    have programs : (toolchain heeded).paths.programs = t.paths.programs := rfl
    rw [mode] at adds
    refine .inr ⟨served, ?_, resources, command, before, behind, located, made, shows, adds,
      makes, emitted, args, linker, asked, ?_⟩
    · intro outcome mem
      rcases List.mem_cons.mp mem with rfl | mem
      · exact list_ending
      · rcases List.mem_pair.mp mem with rfl | rfl
        · exact link_ending
        · exact compile_ending
    · rw [programs]
      exact found
  · refine .inl ⟨served, ?_⟩
    intro outcome mem
    rcases List.mem_cons.mp mem with rfl | mem
    · exact lists.listing_refuses aimed served sysroot
    · rcases List.mem_pair.mp mem with rfl | rfl
      · exact links.driven_refuses aimed served sysroot nofun input
      · exact compiles.driven_refuses aimed served sysroot nofun .nil

theorem run_one_toolchain_sdk :
    let world := targeting "i686-unknown-kush"
    let listed := run world ["paths", "--sysroot=/sdk"]
    let linked := run world ["link", "--explain", "--", "--sysroot=/sdk", "x.o"]
    let compiled := run world ["cc1", "--cxx", "--", "--sysroot=/sdk"]
    (∀ outcome ∈ [listed, linked, compiled], outcome.ending = .exit 0) ∧
      listed.output = "programs:\n  /usr/bin\nlibraries:\n  /sdk/System/Libraries\n" ++
        "  /sdk/Local/Libraries\nincludes:\n  /sdk/System/Includes/c++/v1\n" ++
        "  /usr/lib/clang/17/include\n  /sdk/System/Includes\n  /sdk/Local/Includes\n" ∧
      ∃ command before behind, linked.output = commandText world { explain := true } command ∧
        command.args =
          before ++ ["-L/sdk/System/Libraries", "-L/sdk/Local/Libraries"] ++ "x.o" :: behind := by
  intro world listed linked compiled
  have lists : Asks world { triple := some "i686-unknown-kush" } .paths [] {} :=
    ⟨nofun, rfl, rfl, rfl, rfl⟩
  have links : Asks world { triple := some "i686-unknown-kush" } .link ["--explain"]
      { explain := true } :=
    ⟨by decide, rfl, rfl, rfl, rfl⟩
  have compiles : Asks world { triple := some "i686-unknown-kush" } .cc1 ["--cxx"]
      { cxx := true } :=
    ⟨by decide, rfl, rfl, rfl, rfl⟩
  have served : (Triple.parse "i686-unknown-kush").os = "kush" := by decide +kernel
  rcases run_one_toolchain ⟨rfl, rfl, rfl⟩ rfl lists links compiles rfl "/sdk" with
    ⟨unserved, -⟩ |
      ⟨-, endings, resources, command, before, behind, located, -, shows, -, makes, -, args, -⟩
  · exact absurd served unserved
  · cases located
    exact ⟨endings, shows.trans (by decide +kernel), command, before, behind, makes,
      args.trans (congrArg (before ++ · ++ _) (by decide +kernel))⟩

/-- A sysroot that the listing passes over, and a link goes by. -/
theorem run_apart_of_dashes :
    let world := targeting "i686-unknown-kush"
    let listed := run world ["paths", "--sysroot=--"]
    let linked := run world ["link", "--", "--sysroot=--", "x.o"]
    listed.output =
        "programs:\n  /usr/bin\nlibraries:\nincludes:\n  /usr/lib/clang/17/include\n" ∧
      ∃ command before behind, linked.output = commandText world {} command ∧
        command.args =
          before ++ ["-L--/System/Libraries", "-L--/Local/Libraries"] ++ ["x.o"] ++ behind := by
  intro world listed linked
  have lists : Asks world { triple := some "i686-unknown-kush" } .paths [] {} :=
    ⟨nofun, rfl, rfl, rfl, rfl⟩
  have links : Asks world { triple := some "i686-unknown-kush" } .link [] {} :=
    ⟨nofun, rfl, rfl, rfl, rfl⟩
  have served : (Triple.parse "i686-unknown-kush").os = "kush" := by decide +kernel
  have input : OptionLookup.Spells ["x.o"] (["x.o"].map .input) := ⟨rfl, rfl⟩
  have located : ({ triple := some "i686-unknown-kush" } : Settings).resourceDirectory =
      .ok "/usr/lib/clang/17" := rfl
  have libraries : (toolchainFor world { triple := some "i686-unknown-kush" } "i686-unknown-kush"
      "--").paths.libraries.map ("-L" ++ ·) =
      ["-L--/System/Libraries", "-L--/Local/Libraries"] := by decide +kernel
  obtain ⟨-, shows⟩ := lists.listing_shows rfl served "--" located
  obtain ⟨command, before, behind, -, -, output, args, -⟩ :=
    links.link_makes rfl served "--" ⟨rfl, rfl, rfl⟩ input
  rw [libraries] at args
  exact ⟨shows.trans (by decide +kernel), command, before, behind, output, args⟩

end CommandLine

end CrossDriver
