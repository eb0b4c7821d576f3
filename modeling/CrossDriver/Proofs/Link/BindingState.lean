import CrossDriver.Link.Binding
import CrossDriver.Proofs.Link.DefaultLibraries

namespace CrossDriver.Link.State
open LinkRule

theorem runtimePath_not_mem_stateTokens (directory : String) (triple : Triple) :
    runtimePath directory triple ∉ stateTokens := by
  have other : ∀ token ∈ stateTokens, token.toList.getLast? ≠ some 'a' := by decide
  intro mem
  exact other _ mem (getLast?_runtimePath directory triple)

theorem run_singleton_of_not_mem (s : State) {token : String} (h : token ∉ stateTokens) :
    s.run [token] = s :=
  step_of_not_mem s h

theorem met_singleton_of_not_mem (s : State) {token : String} (h : token ∉ stateTokens) :
    s.met [token] = [(token, s.binding)] := by
  simp [met, h]

theorem run_cxxGroup (s : State) (c : Config) : s.run (cxxGroup c) = s := by
  unfold cxxGroup cxxLibraries
  cases c.cxx && Toolchain.linksCxx c with
  | false => rfl
  | true => cases c.staticCxxStdlib <;> cases c.isStatic <;> rfl

def cxxMode (c : Config) (outside : LinkMode) : LinkMode :=
  if c.staticCxxStdlib && !c.isStatic then .static else outside

def mathMode (c : Config) (outside : LinkMode) : LinkMode :=
  if c.staticCxxStdlib && !c.isStatic then .dynamic else outside

theorem met_cxxGroup (s : State) (c : Config) :
    s.met (cxxGroup c) =
      if c.cxx && Toolchain.linksCxx c then
        (cxxLibraries c).map (·, ⟨cxxMode c s.binding.mode, true⟩) ++
          [("-lopenlibm", ⟨mathMode c s.binding.mode, true⟩)]
      else [] := by
  unfold cxxGroup cxxLibraries cxxMode mathMode
  cases c.cxx && Toolchain.linksCxx c with
  | false => rfl
  | true => cases c.staticCxxStdlib <;> cases c.isStatic <;> rfl

def settle (s : State) (c : Config) : State :=
  if c.isStatic then { s with binding.mode := .static } else s

theorem run_lead (s : State) (c : Config) :
    s.run (if c.isStatic then ["-Bstatic"] else []) = s.settle c := by
  unfold settle
  cases c.isStatic <;> rfl

theorem met_lead (s : State) (c : Config) :
    s.met (if c.isStatic then ["-Bstatic"] else []) = [] := by
  cases c.isStatic <;> rfl

theorem run_libraryTokens (s : State) (c : Config) (triple : Triple) (directory : String) :
    s.run (libraryTokens c triple directory) = s.settle c := by
  have archive := run_singleton_of_not_mem (s.settle c)
    (runtimePath_not_mem_stateTokens directory triple)
  rw [libraryTokens, run_append, run_append, run_append, run_lead, run_cxxGroup, archive]
  cases c.noLibc <;> rfl

theorem met_libraryTokens (s : State) (c : Config) (triple : Triple) (directory : String) :
    s.met (libraryTokens c triple directory) =
      (s.settle c).met (cxxGroup c) ++ [(runtimePath directory triple, (s.settle c).binding)] ++
        if c.noLibc then [] else [("-lc", (s.settle c).binding)] := by
  have known := runtimePath_not_mem_stateTokens directory triple
  simp only [libraryTokens, met_append, run_append, run_lead, met_lead, run_cxxGroup,
    run_singleton_of_not_mem _ known, met_singleton_of_not_mem _ known, List.nil_append]
  cases c.noLibc <;> rfl

theorem mode_of_mem_met (s : State) {c : Config} (static : c.isStatic = true) (triple : Triple)
    (directory : String) {library : String × Binding}
    (mem : library ∈ s.met (libraryTokens c triple directory)) : library.2.mode = .static := by
  have settled : (s.settle c).binding.mode = .static := by simp [settle, static]
  have outside : (c.staticCxxStdlib && !c.isStatic) = false := by simp [static]
  rw [met_libraryTokens, met_cxxGroup] at mem
  simp only [List.mem_append, List.mem_singleton] at mem
  obtain (group | rfl) | libc := mem
  · split at group
    · obtain cxx | math := List.mem_append.mp group
      · obtain ⟨name, -, rfl⟩ := List.mem_map.mp cxx
        simp [cxxMode, outside, settled]
      · rw [List.mem_singleton.mp math]
        simp [mathMode, outside, settled]
    · cases group
  · exact settled
  · split at libc
    · cases libc
    · rw [List.mem_singleton.mp libc]
      exact settled

def isStackToken (token : String) : Bool :=
  token = "--push-state" || token = "--pop-state"

theorem filter_libraryTokens (c : Config) (triple : Triple) (directory : String) :
    (libraryTokens c triple directory).filter isStackToken =
      if c.cxx && Toolchain.linksCxx c then ["--push-state", "--pop-state"] else [] := by
  have archive : isStackToken (runtimePath directory triple) = false := by
    have known := runtimePath_not_mem_stateTokens directory triple
    simp only [stateTokens, List.mem_cons, not_or] at known
    simp [isStackToken, known]
  have group : (cxxGroup c).filter isStackToken =
      if c.cxx && Toolchain.linksCxx c then ["--push-state", "--pop-state"] else [] := by
    unfold cxxGroup cxxLibraries
    cases c.cxx && Toolchain.linksCxx c with
    | false => rfl
    | true => cases c.staticCxxStdlib <;> cases c.isStatic <;> rfl
  have lead : (if c.isStatic then ["-Bstatic"] else []).filter isStackToken = [] := by
    cases c.isStatic <;> rfl
  have libc : (if c.noLibc then [] else ["-lc"]).filter isStackToken = [] := by
    cases c.noLibc <;> rfl
  simp only [libraryTokens, List.filter_append, lead, group, libc, List.filter_cons, archive,
    List.filter_nil, List.nil_append, List.append_nil, Bool.false_eq_true, if_false]

/-- Whatever state the inputs leave, the default libraries keep it, static images apart, and they
are bound as the configuration says. -/
theorem emit_defaultLibs_state {ctx : LinkContext} {tokens : List String}
    (emitted : (LinkRule.defaultLibs.emit ctx).result = .ok tokens) (s : State) :
    s.run tokens =
        (if ctx.config.isStatic then { s with binding.mode := .static } else s) ∧
      (tokens.filter isStackToken = [] ∨
        tokens.filter isStackToken = ["--push-state", "--pop-state"]) ∧
      (ctx.config.isStatic = true → ∀ library ∈ s.met tokens, library.2.mode = .static) ∧
      (ctx.config.isStatic = false → ctx.config.staticCxxStdlib = true →
        ∃ directory, ctx.toolchain.resourceDir = .ok directory ∧ s.met tokens =
          (if ctx.config.cxx && Toolchain.linksCxx ctx.config then
            [("-lc++abi", ⟨.static, true⟩), ("-lc++", ⟨.static, true⟩),
              ("-lunwind", ⟨.static, true⟩), ("-lopenlibm", ⟨.dynamic, true⟩)]
          else []) ++
          [(runtimePath directory ctx.toolchain.triple, s.binding)] ++
          if ctx.config.noLibc then [] else [("-lc", s.binding)]) := by
  obtain ⟨directory, located, rfl⟩ := defaultTokens_ok emitted
  refine ⟨run_libraryTokens s _ _ _, ?_, fun static _ => mode_of_mem_met s static _ _,
    fun dynamic only => ⟨directory, located, ?_⟩⟩
  · rw [filter_libraryTokens]
    cases ctx.config.cxx && Toolchain.linksCxx ctx.config
    · exact .inl rfl
    · exact .inr rfl
  · -- The C++ group is bracketed by tokens of its own, so the start reaches only what follows it.
    rw [met_libraryTokens, met_cxxGroup]
    simp [settle, cxxLibraries, cxxMode, mathMode, dynamic, only]

theorem emit_defaultLibs_state_behind_static :
    let config : Config := { cxx := true, staticCxxStdlib := true }
    let toolchain : Toolchain := ⟨{}, ⟨"i686", "unknown", "kush", ""⟩, "", fun _ => false, 0⟩
    let archive := "/usr/lib/clang/17/lib/kush/libclang_rt.builtins-i386.a"
    let tokens := ["--push-state", "--as-needed", "-Bstatic", "-lc++abi", "-lc++", "-lunwind",
      "-Bdynamic", "-lopenlibm", "--pop-state", archive, "-lc"]
    let s : State := ⟨⟨.static, false⟩, [⟨.dynamic, true⟩]⟩
    (LinkRule.defaultLibs.emit ⟨config, toolchain, "ld.lld"⟩).result = .ok tokens ∧
      s.run tokens = s ∧
      ∃ directory, toolchain.resourceDir = .ok directory ∧ s.met tokens =
        [("-lc++abi", ⟨.static, true⟩), ("-lc++", ⟨.static, true⟩), ("-lunwind", ⟨.static, true⟩),
          ("-lopenlibm", ⟨.dynamic, true⟩), (runtimePath directory toolchain.triple, s.binding),
          ("-lc", s.binding)] := by
  intro config toolchain archive tokens s
  have located : toolchain.resourceDir = .ok "/usr/lib/clang/17" := rfl
  have listed : libraryTokens config toolchain.triple "/usr/lib/clang/17" = tokens := by
    decide +kernel
  have emitted : (LinkRule.defaultLibs.emit ⟨config, toolchain, "ld.lld"⟩).result = .ok tokens := by
    rw [← listed]
    exact (result_defaultTokens config toolchain).trans (by rw [located]; rfl)
  have state := emit_defaultLibs_state emitted s
  exact ⟨emitted, state.1, state.2.2.2 rfl rfl⟩

end CrossDriver.Link.State
