import CrossDriver.Proofs.Link.DefaultLibraries

namespace CrossDriver

def Config.wantsCxxHeaders (c : Config) : Bool :=
  c.cxx && !(c.noStdInc || c.noStdlibInc || c.noCxxInc)

def Config.RefusesHeaders (c : Config) : Prop :=
  c.wantsCxxHeaders = true ∧ c.cxxStdlib = some "libstdc++"

namespace Toolchain

def modeHeaders (t : Toolchain) (c : Config) : Traced (List String) :=
  if c.cxx then t.cxxHeaders c else pure []

theorem modeHeaders_of_wanted (t : Toolchain) {c : Config} (wanted : c.wantsCxxHeaders = true) :
    t.modeHeaders c =
      chooseCxx t.engine c >>= fun kind => Traced.ofExcept (CrossDriver.cxxHeaders c kind) := by
  obtain ⟨mode, unsuppressed⟩ := Bool.and_eq_true_iff.mp wanted
  have unsuppressed : ¬(c.noStdInc || c.noStdlibInc || c.noCxxInc) = true := by
    simpa using unsuppressed
  rw [modeHeaders, if_pos mode, cxxHeaders, if_neg unsuppressed]

theorem modeHeaders_of_unwanted (t : Toolchain) {c : Config}
    (unwanted : ¬c.wantsCxxHeaders = true) : t.modeHeaders c = pure [] := by
  rw [modeHeaders, cxxHeaders]
  cases mode : c.cxx with
  | false => rfl
  | true =>
    cases suppressed : c.noStdInc || c.noStdlibInc || c.noCxxInc with
    | true => rfl
    | false =>
      refine absurd ?_ unwanted
      rw [Config.wantsCxxHeaders, mode, suppressed]
      rfl

theorem result_modeHeaders (t : Toolchain) (c : Config) :
    (t.modeHeaders c).result =
      if c.wantsCxxHeaders = true ∧ c.cxxStdlib = some "libstdc++" then
        .error (.unsupportedCxxLibrary .libstdcxx)
      else .ok (if c.wantsCxxHeaders = true ∧ c.sysroot ≠ "" then
          [underSysroot c.sysroot cxxIncludes]
        else []) := by
  by_cases wanted : c.wantsCxxHeaders = true
  · rw [t.modeHeaders_of_wanted wanted, Traced.result_bind, result_chooseCxx]
    by_cases foreign : c.cxxStdlib = some "libstdc++"
    · simp only [if_pos foreign, if_pos (And.intro wanted foreign)]
      rfl
    · simp only [if_neg foreign, if_neg fun both : _ ∧ _ => foreign both.2]
      by_cases empty : c.sysroot = ""
      · simp [empty, CrossDriver.cxxHeaders, bind, Except.bind]
      · simp [empty, wanted, CrossDriver.cxxHeaders, bind, Except.bind]
  · rw [t.modeHeaders_of_unwanted wanted, if_neg fun both => wanted both.1,
      if_neg fun both => wanted both.1]
    rfl

theorem diagnostics_modeHeaders (t : Toolchain) (c : Config) :
    (t.modeHeaders c).diagnostics = if c.wantsCxxHeaders then c.cxxReports else [] := by
  by_cases wanted : c.wantsCxxHeaders = true
  · rw [t.modeHeaders_of_wanted wanted, if_pos wanted, Traced.diagnostics_bind,
      diagnostics_chooseCxx, result_chooseCxx]
    exact List.append_nil _
  · rw [t.modeHeaders_of_unwanted wanted, if_neg wanted]
    rfl

theorem compileArgs_eq (t : Toolchain) (c : Config) :
    t.compileArgs c = do
      let cxx ← t.modeHeaders c
      let system ← Traced.ofExcept (t.systemHeaders c)
      return ["-triple", t.triple.text] ++ targetOptions c ++ headerArgs cxx ++
        headerArgs system := by
  rw [compileArgs, modeHeaders]
  split <;> rfl

theorem result_compileArgs (t : Toolchain) (c : Config) :
    (t.compileArgs c).result = do
      let cxx ← (t.modeHeaders c).result
      let system ← t.systemHeaders c
      return ["-triple", t.triple.text] ++ targetOptions c ++ headerArgs cxx ++
        headerArgs system := by
  simp only [compileArgs_eq, Traced.result_bind, Traced.result_ofExcept, Traced.result_pure]
  rfl

theorem diagnostics_compileArgs (t : Toolchain) (c : Config) :
    (t.compileArgs c).diagnostics = (t.modeHeaders c).diagnostics := by
  rw [compileArgs_eq, Traced.diagnostics_bind]
  cases (t.modeHeaders c).result with
  | error fault => exact List.append_nil _
  | ok cxx =>
    dsimp only
    rw [Traced.diagnostics_bind, Traced.result_ofExcept, Traced.diagnostics_ofExcept,
      List.nil_append]
    cases t.systemHeaders c <;> exact List.append_nil _

end Toolchain

end CrossDriver
