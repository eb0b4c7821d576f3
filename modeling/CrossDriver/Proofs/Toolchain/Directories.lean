import CrossDriver.Proofs.Link.Executable
import CrossDriver.Proofs.Toolchain.Relocation

namespace CrossDriver

theorem SearchPaths.mem_of_search {present : String → Bool} {name : String}
    {directories : List (Option String)} {found : ProgramSearch}
    (given : search present name directories = .ok found) :
    found.path = name ∨
      ∃ directory, some directory ∈ directories ∧ found.path = candidate directory name := by
  induction directories generalizing found with
  | nil =>
    cases given
    exact .inl rfl
  | cons directory rest ih =>
    cases directory with
    | none => cases given
    | some directory =>
      rw [search] at given
      split at given
      · cases given
        exact .inr ⟨directory, .head _, rfl⟩
      · cases later : search present name rest with
        | error fault =>
          rw [later] at given
          cases given
        | ok inner =>
          rw [later] at given
          cases given
          rcases ih later with same | ⟨other, mem, place⟩
          · exact .inl same
          · exact .inr ⟨other, .tail _ mem, place⟩

theorem Toolchain.path_of_findLinker {t : Toolchain} {c : Config} {found : ProgramSearch}
    (given : t.findLinker c = .ok found) :
    ∃ linker, t.requestedLinker c = some linker ∧ (found.path = linker ∨
      ∃ directory, some directory ∈ t.paths.programs ∧
        found.path = SearchPaths.candidate directory linker) := by
  rw [findLinker] at given
  cases asked : t.requestedLinker c with
  | none =>
    rw [asked] at given
    cases given
  | some linker =>
    refine ⟨linker, rfl, ?_⟩
    simp only [asked] at given
    split at given
    · cases given
      exact .inl rfl
    · exact SearchPaths.mem_of_search given

theorem Toolchain.listed_headers (t : Toolchain) {c : Config} (mode : c.cxx = true)
    (unnamed : c.cxxStdlib = none) :
    ((t.cxxHeaders c).result >>= fun cxx => t.systemHeaders c >>= fun system => .ok (cxx ++ system)) =
      t.resourceDir.map (c.headersIn · c.sysroot) := by
  have cxx : (t.cxxHeaders c).result = (t.modeHeaders c).result := by
    rw [modeHeaders, if_pos mode]
  rw [cxx, result_modeHeaders, if_neg (by simp [unnamed]), Toolchain.systemHeaders]
  change (t.resourceDir >>= _) >>= _ = _
  cases t.resourceDir with
  | error fault => rfl
  | ok resources => exact congrArg Except.ok (headersIn_eq c resources c.sysroot).symm

theorem Toolchain.outcome_compileArgs {t : Toolchain} {c : Config} (unnamed : c.cxxStdlib = none)
    {resources : String} (located : t.resourceDir = .ok resources) :
    (t.compileArgs c).outcome = (.ok (["-triple", t.triple.text] ++ targetOptions c ++
      headerArgs (c.headersIn resources c.sysroot)), []) := by
  have resourced : t.compileResources c = .ok resources := by
    rw [compileResources, if_neg (by simp [unnamed]), located]
  have reports : (t.compileArgs c).diagnostics = [] := by
    have known : c.cxxReports = [] := by rw [Config.cxxReports, unnamed]
    rw [diagnostics_compileArgs, diagnostics_modeHeaders, known, ite_self]
  have outcome := t.compileArgs_inSysroot c t.sysroot c.sysroot
  rw [resourced, reports] at outcome
  exact outcome

theorem Toolchain.directories_of_link {t : Toolchain} {c : Config} (own : c.sysroot = t.sysroot)
    (plain : c.usesLto = false) (unnamed : c.fuseLd = none) {command : LinkCommand}
    (linked : (t.link c).result = .ok command) :
    (∃ libraries, command.args =
      LinkRule.frontTokens c ++ ["-o", c.output] ++ LinkRule.startSection c t ++
        LinkRule.searchTokens c ++ t.paths.libraries.map ("-L" ++ ·) ++ c.inputs ++ libraries) ∧
    ∃ linker, t.settings.linker = some linker ∧ (command.executable = linker ∨
      ∃ directory, some directory ∈ t.paths.programs ∧
        command.executable = SearchPaths.candidate directory linker) := by
  have relocated : t.relocated c = t := by rw [relocated, own]
  obtain ⟨found, optimisation, libraries, search, optimised, -, rfl⟩ := exists_of_link linked
  have unused : (t.linkContext c found).config.usesLto = false := plain
  cases optimised.symm.trans (LinkRule.result_contribution_lto_of_plain unused)
  rw [relocated] at search ⊢
  refine ⟨⟨libraries, by rw [List.append_nil]; rfl⟩, ?_⟩
  have requested : t.requestedLinker c = t.settings.linker := by
    rw [requestedLinker, unnamed]
    rfl
  rw [← requested]
  exact path_of_findLinker search

theorem Config.libraryReports_eq_nil {c : Config} (cxx : c.cxxStdlib = none)
    (runtime : c.rtlib = none) : c.libraryReports = [] := by
  rw [libraryReports, cxxReports, runtimeReports, cxx, runtime]
  simp

end CrossDriver
