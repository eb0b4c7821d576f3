import CrossDriver.Proofs.Link.Layout
import CrossDriver.Proofs.Path.BelowSysroot
import CrossDriver.Proofs.Toolchain.CompileArgs

namespace CrossDriver

def Config.inSysroot (c : Config) (sysroot : String) : Config :=
  { c with sysroot }

@[simp] theorem Config.sysroot_inSysroot (c : Config) (sysroot : String) :
    (c.inSysroot sysroot).sysroot = sysroot := rfl

def Toolchain.inSysroot (t : Toolchain) (own : String) : Toolchain :=
  { t with sysroot := own }

/-! ## Linking -/

def Config.startFiles (c : Config) : List String :=
  if c.noStdlib || c.noStartFiles then []
  else LinkRule.startObject c :: if c.isStatic then ["crti.o"] else []

structure LinkParts where
  linker : String
  optimisation : List String
  libraries : List String

namespace LinkParts
open LinkRule

def argsIn (parts : LinkParts) (c : Config) (sysroot : String) : List String :=
  ["-znorelro"] ++ (if sysroot = "" then [] else ["--sysroot=" ++ sysroot]) ++
    (if c.isPie then ["-pie"] else []) ++ (if c.strip then ["-s"] else []) ++ bindingTokens c ++
    ["-o", c.output] ++
    c.startFiles.map (fun name =>
      if sysroot = "" then name else underSysroot sysroot ["System", "Libraries", name]) ++
    searchTokens c ++
    (if sysroot = "" then []
      else ["-L" ++ underSysroot sysroot ["System", "Libraries"],
        "-L" ++ underSysroot sysroot ["Local", "Libraries"]]) ++
    parts.optimisation ++ c.inputs ++ parts.libraries

/-- The options for optimisation are those of the configuration, behind a plugin if at all. -/
def Fits (parts : LinkParts) (c : Config) : Prop :=
  ∃ plugin, (plugin = [] ∨ ∃ path, plugin = ["-plugin", path]) ∧
    parts.optimisation = if c.usesLto then plugin ++ ltoOptions c else []

theorem startSection_eq_map (c : Config) (t : Toolchain) :
    startSection c t = c.startFiles.map t.paths.file := by
  rw [startSection, Config.startFiles]
  split
  · rfl
  · rw [startTokens, List.map_cons]
    split <;> rfl

theorem startSection_inSysroot (t : Toolchain) (c : Config) (sysroot : String) :
    startSection (c.inSysroot sysroot) (t.inSysroot sysroot) =
      c.startFiles.map fun name =>
        if sysroot = "" then name else underSysroot sysroot ["System", "Libraries", name] := by
  rw [startSection_eq_map]
  apply List.map_congr_left
  intro name _
  exact SearchPaths.file_resolve _ _ sysroot name

theorem directoryTokens_inSysroot (t : Toolchain) (sysroot : String) :
    directoryTokens (t.inSysroot sysroot) =
      if sysroot = "" then []
      else ["-L" ++ underSysroot sysroot ["System", "Libraries"],
        "-L" ++ underSysroot sysroot ["Local", "Libraries"]] := by
  change (if sysroot = "" then [] else _).map _ = _
  split <;> rfl

theorem argsIn_eq (parts : LinkParts) (t : Toolchain) (c : Config) (sysroot : String) :
    parts.argsIn c sysroot =
      frontTokens (c.inSysroot sysroot) ++ ["-o", c.output] ++
        startSection (c.inSysroot sysroot) (t.inSysroot sysroot) ++ searchTokens c ++
        directoryTokens (t.inSysroot sysroot) ++ parts.optimisation ++ c.inputs ++
        parts.libraries := by
  rw [startSection_inSysroot, directoryTokens_inSysroot, argsIn, frontTokens, leadTokens]
  simp only [List.append_assoc]
  rfl

end LinkParts

namespace Toolchain
open LinkRule

def linkParts (t : Toolchain) (c : Config) : Except Fault LinkParts :=
  if c.usesLto && c.inputs.isEmpty then .error (.nothingToOptimise c.lto)
  else do
    let linker ← t.findLinker c
    let optimisation ← (contribution ⟨c, t, linker.path⟩ .lto).result
    let libraries ← (contribution ⟨c, t, linker.path⟩ .defaultLibs).result
    return ⟨linker.path, optimisation, libraries⟩

theorem linkParts_inSysroot (t : Toolchain) (c : Config) (own sysroot : String) :
    (t.inSysroot own).linkParts (c.inSysroot sysroot) = t.linkParts c := rfl

theorem fits_of_linkParts {t : Toolchain} {c : Config} {parts : LinkParts}
    (given : t.linkParts c = .ok parts) : parts.Fits c := by
  rw [linkParts] at given
  split at given
  · cases given
  · obtain ⟨linker, -, given⟩ := exists_of_bind_ok given
    obtain ⟨optimisation, optimise, given⟩ := exists_of_bind_ok given
    obtain ⟨libraries, -, given⟩ := exists_of_bind_ok given
    cases given
    exact optimisation_of_contribution optimise

theorem result_link_eq (t : Toolchain) (c : Config) :
    (t.link c).result =
      ((t.relocated c).linkParts c).map fun parts => ⟨parts.linker, parts.argsIn c c.sysroot⟩ := by
  rw [result_link, linkParts]
  split
  · rfl
  · simp only [Linker.result_tokens_standard, LinkParts.argsIn_eq _ t c]
    cases (t.relocated c).findLinker c with
    | error fault => rfl
    | ok linker =>
      change _ = ((contribution (t.linkContext c linker) .lto).result >>= _).map _
      simp only [bind, Except.bind]
      cases (contribution (t.linkContext c linker) .lto).result with
      | error fault => rfl
      | ok optimisation =>
        change _ = ((contribution (t.linkContext c linker) .defaultLibs).result >>= _).map _
        cases (contribution (t.linkContext c linker) .defaultLibs).result <;> rfl

theorem link_inSysroot (t : Toolchain) (c : Config) (own sysroot : String) :
    ((t.inSysroot own).link (c.inSysroot sysroot)).outcome =
      ((t.linkParts c).map fun parts => ⟨parts.linker, parts.argsIn c sysroot⟩,
        (t.link c).diagnostics) := by
  have answers : ((t.inSysroot own).link (c.inSysroot sysroot)).result =
      (t.linkParts c).map fun parts => ⟨parts.linker, parts.argsIn c sysroot⟩ := by
    have parts : ((t.inSysroot own).relocated (c.inSysroot sysroot)).linkParts
        (c.inSysroot sysroot) = t.linkParts c := t.linkParts_inSysroot c sysroot sysroot
    rw [result_link_eq, parts]
    rfl
  have reports : ((t.inSysroot own).link (c.inSysroot sysroot)).diagnostics =
      (t.link c).diagnostics := by
    rw [diagnostics_link, diagnostics_link]
    simp only [Linker.diagnostics_tokens_standard]
    rfl
  rw [Traced.outcome, answers, reports]

end Toolchain

/-! ## Compiling -/

def Config.headersIn (c : Config) (resources sysroot : String) : List String :=
  (if sysroot ≠ "" ∧ c.wantsCxxHeaders then
      [underSysroot sysroot ["System", "Includes", "c++", "v1"]]
    else []) ++
    (if c.noStdInc || c.noBuiltinInc then [] else [(Path.ofParts resources ["include"]).text]) ++
    if sysroot ≠ "" ∧ !(c.noStdInc || c.noStdlibInc) then
      [underSysroot sysroot ["System", "Includes"], underSysroot sysroot ["Local", "Includes"]]
    else []

namespace Toolchain

def compileResources (t : Toolchain) (c : Config) : Except Fault String :=
  if c.wantsCxxHeaders = true ∧ c.cxxStdlib = some "libstdc++" then
    .error (.unsupportedCxxLibrary .libstdcxx)
  else t.resourceDir

theorem systemHeaders_inSysroot (c : Config) (resources sysroot : String) :
    CrossDriver.systemHeaders (c.inSysroot sysroot) resources =
      (if c.noStdInc || c.noBuiltinInc then [] else [(Path.ofParts resources ["include"]).text]) ++
        if sysroot ≠ "" ∧ !(c.noStdInc || c.noStdlibInc) then
          [underSysroot sysroot ["System", "Includes"], underSysroot sysroot ["Local", "Includes"]]
        else [] := by
  rw [CrossDriver.systemHeaders]
  change (if c.noStdInc then _ else (if c.noBuiltinInc then _ else _) ++
    if c.noStdlibInc ∨ sysroot = "" then _ else _) = _
  by_cases empty : sysroot = "" <;> cases c.noStdInc <;> cases c.noStdlibInc <;>
    simp [empty, systemIncludes, localIncludes]

theorem headerArgs_append (directories others : List String) :
    headerArgs (directories ++ others) = headerArgs directories ++ headerArgs others :=
  List.flatMap_append

theorem headersIn_eq (c : Config) (resources sysroot : String) :
    c.headersIn resources sysroot =
      (if c.wantsCxxHeaders = true ∧ sysroot ≠ "" then [underSysroot sysroot cxxIncludes] else []) ++
        CrossDriver.systemHeaders (c.inSysroot sysroot) resources := by
  rw [Config.headersIn, systemHeaders_inSysroot, List.append_assoc]
  simp only [and_comm, cxxIncludes]

theorem compileArgs_inSysroot (t : Toolchain) (c : Config) (own sysroot : String) :
    ((t.inSysroot own).compileArgs (c.inSysroot sysroot)).outcome =
      ((t.compileResources c).map fun resources =>
          ["-triple", t.triple.text] ++ targetOptions c ++
            headerArgs (c.headersIn resources sysroot),
        (t.compileArgs c).diagnostics) := by
  have reports : ((t.inSysroot own).compileArgs (c.inSysroot sysroot)).diagnostics =
      (t.compileArgs c).diagnostics := by
    rw [diagnostics_compileArgs, diagnostics_compileArgs, diagnostics_modeHeaders,
      diagnostics_modeHeaders]
    rfl
  rw [Traced.outcome, reports, result_compileArgs, result_modeHeaders]
  change ((if c.wantsCxxHeaders = true ∧ c.cxxStdlib = some "libstdc++" then _ else _) >>= _, _) = _
  rw [compileResources]
  split
  · rfl
  · rw [Toolchain.systemHeaders]
    change ((t.resourceDir >>= _) >>= _, _) = _
    cases t.resourceDir with
    | error fault => rfl
    | ok resources =>
      simp only [Except.map, headersIn_eq, headerArgs_append, ← List.append_assoc]
      rfl

/-! ## Both jobs -/

/-- In every sysroot and without one, linking and compiling end in one fault, or else give arguments
that differ by what the sysroot adds; the reports are the same. -/
theorem outcome_inSysroot (t : Toolchain) (c : Config) :
    (∃ (parts : Except Fault LinkParts) (reports : Diagnostics),
      (∀ found, parts = .ok found → found.Fits c) ∧
      ∀ own sysroot : String, ((t.inSysroot own).link (c.inSysroot sysroot)).outcome =
        (parts.map fun found => ⟨found.linker, found.argsIn c sysroot⟩, reports)) ∧
    ∃ (resources : Except Fault String) (reports : Diagnostics),
      ∀ own sysroot : String, ((t.inSysroot own).compileArgs (c.inSysroot sysroot)).outcome =
        (resources.map fun directory =>
          ["-triple", t.triple.text] ++ targetOptions c ++
            headerArgs (c.headersIn directory sysroot), reports) := by
  constructor
  · exact ⟨t.linkParts c, _, fun _ => fits_of_linkParts, t.link_inSysroot c⟩
  · exact ⟨t.compileResources c, _, t.compileArgs_inSysroot c⟩

end Toolchain

end CrossDriver
