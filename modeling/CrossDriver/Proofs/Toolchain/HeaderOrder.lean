import CrossDriver.Proofs.Link.Failure
import CrossDriver.Proofs.Toolchain.Relocation

namespace CrossDriver

/-! ## Directories -/

theorem Path.text_ofParts_ne {first other : String} {parts more : List String}
    (plain : ∀ part ∈ parts, Plain part) (also : ∀ part ∈ more, Plain part)
    {ends others : List String} (here : ends <:+ parts) (there : others <:+ more)
    (length : ends.length = others.length) (ne : ends ≠ others) :
    (ofParts first parts).text ≠ (ofParts other more).text := by
  refine text_ne_of_suffix (clean_ofParts _ _) (clean_ofParts _ _) ?_ ?_ length ne
  · rw [names_ofParts_of_plain first plain]
    exact here.trans (List.suffix_append _ _)
  · rw [names_ofParts_of_plain other also]
    exact there.trans (List.suffix_append _ _)

namespace Config

theorem nodup_headers (resources sysroot : String) :
    [(Path.ofParts sysroot cxxIncludes).text, (Path.ofParts resources ["include"]).text,
      (Path.ofParts sysroot systemIncludes).text,
      (Path.ofParts sysroot localIncludes).text].Nodup := by
  have cxx : ∀ part ∈ cxxIncludes, Path.Plain part := by simp [cxxIncludes, Path.Plain]
  have own : ∀ part ∈ ["include"], Path.Plain part := by simp [Path.Plain]
  have system : ∀ part ∈ systemIncludes, Path.Plain part := by simp [systemIncludes, Path.Plain]
  have locals : ∀ part ∈ localIncludes, Path.Plain part := by simp [localIncludes, Path.Plain]
  have v1 : ["v1"] <:+ cxxIncludes := ⟨["System", "Includes", "c++"], rfl⟩
  have includes : ["Includes"] <:+ systemIncludes := ⟨["System"], rfl⟩
  have localEnd : ["Includes"] <:+ localIncludes := ⟨["Local"], rfl⟩
  -- No part of these directories climbs, so each ends as its parts do, whatever stands before them.
  simp only [List.nodup_cons, List.mem_cons, List.not_mem_nil, or_false, not_or, not_false_eq_true,
    List.nodup_nil, and_true]
  refine ⟨⟨?_, ?_, ?_⟩, ⟨?_, ?_⟩, ?_⟩
  · exact Path.text_ofParts_ne cxx own v1 (List.suffix_refl _) rfl (by decide)
  · exact Path.text_ofParts_ne cxx system v1 includes rfl (by decide)
  · exact Path.text_ofParts_ne cxx locals v1 localEnd rfl (by decide)
  · exact Path.text_ofParts_ne own system (List.suffix_refl _) includes rfl (by decide)
  · exact Path.text_ofParts_ne own locals (List.suffix_refl _) localEnd rfl (by decide)
  · have same : systemIncludes.length = localIncludes.length := rfl
    exact Path.text_ofParts_ne system locals (List.suffix_refl _) (List.suffix_refl _) same
      (by decide)

theorem nodup_headersIn (c : Config) (resources sysroot : String) :
    (c.headersIn resources sysroot).Nodup := by
  have kept (p : Prop) [Decidable p] (directories : List String) :
      (if p then directories else []).Sublist directories := by
    split
    · exact List.Sublist.refl _
    · exact List.nil_sublist _
  have own : (if c.noStdInc || c.noBuiltinInc then []
      else [(Path.ofParts resources ["include"]).text]).Sublist
        [(Path.ofParts resources ["include"]).text] := by
    rw [← ite_not]
    exact kept _ _
  by_cases empty : sysroot = ""
  · subst empty
    have only : c.headersIn resources "" = if c.noStdInc || c.noBuiltinInc then []
        else [(Path.ofParts resources ["include"]).text] := by
      simp [headersIn]
    rw [only]
    exact List.Nodup.sublist own (List.pairwise_singleton _ _)
  · refine (nodup_headers resources sysroot).sublist ?_
    rw [headersIn, underSysroot_of_ne empty, underSysroot_of_ne empty, underSysroot_of_ne empty]
    exact ((kept _ _).append own).append (kept _ _)

end Config

namespace Toolchain
open Config

/-! ## Compiling -/

theorem result_compileArgs_headersIn (t : Toolchain) (c : Config) :
    (t.compileArgs c).result = (t.compileResources c).map fun resources =>
      ["-triple", t.triple.text] ++ targetOptions c ++
        headerArgs (c.headersIn resources c.sysroot) :=
  congrArg Prod.fst (t.compileArgs_inSysroot c t.sysroot c.sysroot)

theorem result_compileArgs_of_refusesHeaders (t : Toolchain) {c : Config}
    (refuses : c.RefusesHeaders) :
    (t.compileArgs c).result = .error (.unsupportedCxxLibrary .libstdcxx) := by
  have refused : t.compileResources c = .error (.unsupportedCxxLibrary .libstdcxx) := if_pos refuses
  rw [result_compileArgs_headersIn, refused]
  rfl

theorem result_compileArgs_of_accepts {t : Toolchain} (complete : t.settings.Complete) {c : Config}
    (accepts : ¬c.RefusesHeaders) :
    ∃ resources, t.resourceDir = .ok resources ∧
      (t.compileArgs c).result = .ok (["-triple", t.triple.text] ++ targetOptions c ++
        headerArgs (c.headersIn resources c.sysroot)) := by
  obtain ⟨resources, located⟩ := complete.resourceDirectory_ok
  have looked_up : t.compileResources c = .ok resources := (if_neg accepts).trans located
  refine ⟨resources, located, ?_⟩
  rw [result_compileArgs_headersIn, looked_up]
  rfl

theorem result_compileArgs_error_iff {t : Toolchain} (complete : t.settings.Complete)
    (c : Config) :
    (t.compileArgs c).result = .error (.unsupportedCxxLibrary .libstdcxx) ↔ c.RefusesHeaders := by
  constructor
  · intro failed
    by_cases refuses : c.RefusesHeaders
    · exact refuses
    · obtain ⟨resources, -, given⟩ := result_compileArgs_of_accepts complete refuses
      cases failed.symm.trans given
  · exact t.result_compileArgs_of_refusesHeaders

/-! ## Compiling and linking -/

theorem link_agrees {t : Toolchain} (complete : t.settings.Complete) {c : Config}
    (headers : c.wantsCxxHeaders = true) (libraries : c.LinksCxx) (worth : ¬c.OptimisesNothing) :
    ((t.link c).result = .error (.unsupportedCxxLibrary .libstdcxx) ↔
      (t.compileArgs c).result = .error (.unsupportedCxxLibrary .libstdcxx)) ∧
    (t.link c).diagnostics = (t.compileArgs c).diagnostics ++
      if c.cxxStdlib = some "libstdc++" then [] else c.runtimeReports := by
  have asks : c.AsksForLibstdcxx ↔ c.cxxStdlib = some "libstdc++" := and_iff_right libraries
  have refuses : c.RefusesHeaders ↔ c.cxxStdlib = some "libstdc++" := and_iff_right headers
  have reports : (t.compileArgs c).diagnostics = c.cxxReports := by
    rw [diagnostics_compileArgs, diagnostics_modeHeaders, if_pos headers]
  constructor
  · rw [link_asksForLibstdcxx_iff complete, result_compileArgs_error_iff complete, asks, refuses]
    exact and_iff_right worth
  · rw [reports]
    by_cases foreign : c.cxxStdlib = some "libstdc++"
    · have failed := link_of_asksForLibstdcxx complete worth (asks.mpr foreign)
      have known : c.cxxReports = [] := by rw [cxxReports, foreign]; rfl
      rw [if_pos foreign, known]
      exact congrArg Prod.snd failed
    · obtain ⟨command, linked⟩ := link_ok complete worth (mt asks.mp foreign)
      have both : c.libraryReports = c.cxxReports ++ c.runtimeReports := by
        rw [libraryReports, if_pos libraries, if_pos libraries.linksRuntime]
      rw [if_neg foreign, ← both]
      exact congrArg Prod.snd linked

/-- The arguments for the compiler are the target, its options and every directory of headers once,
unless a foreign C++ library is asked for; an unknown one is reported. In C++ without suppression,
linking a configuration agrees with compiling it on both. -/
theorem compileArgs_in_order {t : Toolchain} (complete : t.settings.Complete) (c : Config) :
    ((t.compileArgs c).result = .error (.unsupportedCxxLibrary .libstdcxx) ↔
      c.RefusesHeaders) ∧
    (¬c.RefusesHeaders → ∃ resources, t.resourceDir = .ok resources ∧
      (t.compileArgs c).result = .ok (["-triple", t.triple.text] ++ targetOptions c ++
        headerArgs (c.headersIn resources c.sysroot))) ∧
    (t.compileArgs c).diagnostics = (if c.wantsCxxHeaders then c.cxxReports else []) ∧
    (∀ resources sysroot, (c.headersIn resources sysroot).Nodup) ∧
    (c.wantsCxxHeaders = true → c.LinksCxx → ¬c.OptimisesNothing →
      ((t.link c).result = .error (.unsupportedCxxLibrary .libstdcxx) ↔
        (t.compileArgs c).result = .error (.unsupportedCxxLibrary .libstdcxx)) ∧
      (t.link c).diagnostics = (t.compileArgs c).diagnostics ++
        if c.cxxStdlib = some "libstdc++" then [] else c.runtimeReports) := by
  refine ⟨result_compileArgs_error_iff complete c, result_compileArgs_of_accepts complete, ?_,
    c.nodup_headersIn, link_agrees complete⟩
  rw [diagnostics_compileArgs, diagnostics_modeHeaders]

theorem compileArgs_in_order_unknown :
    let t : Toolchain := ⟨{}, ⟨"x86_64", "unknown", "kush", ""⟩, "", fun _ => false, 0⟩
    let c : Config :=
      { cxx := true, cxxStdlib := some "libc", rtlib := some "libgcc", sysroot := "/k/",
        inputs := ["a.o"] }
    let unknown : Diagnostic := ⟨.error, "invalid library name in argument '-stdlib=libc'"⟩
    (t.compileArgs c).result = .ok ["-triple", "x86_64-unknown-kush", "-ffunction-sections",
        "-fdata-sections", "-internal-isystem", "/k/System/Includes/c++/v1", "-internal-isystem",
        "/usr/lib/clang/17/include", "-internal-isystem", "/k/System/Includes", "-internal-isystem",
        "/k/Local/Includes"] ∧
      (t.compileArgs c).diagnostics = [unknown] ∧
      (t.link c).diagnostics = [unknown,
        ⟨.error, "invalid runtime library name in argument '-rtlib=libgcc'"⟩] := by
  intro t c unknown
  have complete : t.settings.Complete := ⟨rfl, rfl, rfl⟩
  have accepts : ¬c.RefusesHeaders := fun refuses => absurd refuses.2 (by decide)
  have libraries : c.LinksCxx := ⟨rfl, rfl, rfl, rfl⟩
  have worth : ¬c.OptimisesNothing := fun vain => vain.1 rfl
  obtain ⟨-, returns, reports, -, agrees⟩ := compileArgs_in_order complete c
  obtain ⟨resources, located, given⟩ := returns accepts
  obtain rfl : resources = "/usr/lib/clang/17" := by
    have default : t.resourceDir = .ok "/usr/lib/clang/17" := rfl
    exact Except.ok.inj (located.symm.trans default)
  have directories : headerArgs (c.headersIn "/usr/lib/clang/17" c.sysroot) =
      ["-internal-isystem", "/k/System/Includes/c++/v1", "-internal-isystem",
        "/usr/lib/clang/17/include", "-internal-isystem", "/k/System/Includes",
        "-internal-isystem", "/k/Local/Includes"] := by decide +kernel
  refine ⟨?_, reports, ?_⟩
  · rw [given, directories]
    rfl
  · rw [(agrees rfl libraries worth).2, reports]
    rfl

end Toolchain

end CrossDriver
