import CrossDriver.Link.Rule
import CrossDriver.Proofs.Path.LastName
import CrossDriver.Proofs.Traced

namespace CrossDriver

/-! ## The C++ standard library -/

theorem result_chooseCxx (e : Engine) (c : Config) :
    (chooseCxx e c).result =
      .ok (if c.cxxStdlib = some "libstdc++" then CxxLibrary.libstdcxx else .libcxx) := by
  unfold chooseCxx
  cases c.cxxStdlib with
  | none => rfl
  | some name =>
    by_cases foreign : name = "libstdc++"
    · subst foreign
      rfl
    · by_cases shipped : name = "libc++"
      · subst shipped
        rfl
      · have unknown : CxxLibrary.ofName? name = none := by
          simp [CxxLibrary.ofName?, CxxLibrary.name, Ne.symm foreign, Ne.symm shipped]
        simp only [unknown, Option.some.injEq, foreign, if_false]
        rfl

def Config.cxxReports (c : Config) : Diagnostics :=
  match c.cxxStdlib with
  | none => []
  | some name =>
    if name = "libc++" ∨ name = "libstdc++" then []
    else [⟨.error, "invalid library name in argument '-stdlib=" ++ name ++ "'"⟩]

theorem diagnostics_chooseCxx (e : Engine) (c : Config) :
    (chooseCxx e c).diagnostics = c.cxxReports := by
  unfold chooseCxx Config.cxxReports
  cases c.cxxStdlib with
  | none => rfl
  | some name =>
    by_cases known : name = "libc++" ∨ name = "libstdc++"
    · rcases known with rfl | rfl <;> rfl
    · obtain ⟨shipped, foreign⟩ := not_or.mp known
      have unknown : CxxLibrary.ofName? name = none := by
        simp [CxxLibrary.ofName?, CxxLibrary.name, Ne.symm foreign, Ne.symm shipped]
      simp only [unknown, if_neg known]
      rfl

def Config.runtimeReports (c : Config) : Diagnostics :=
  match c.rtlib with
  | none => []
  | some name =>
    if name = "compiler-rt" then []
    else [⟨.error, "invalid runtime library name in argument '-rtlib=" ++ name ++ "'"⟩]

theorem diagnostics_chooseRuntime (e : Engine) (c : Config) :
    (chooseRuntime e c).diagnostics = c.runtimeReports := by
  unfold chooseRuntime Config.runtimeReports
  cases c.rtlib with
  | none => rfl
  | some name =>
    by_cases shipped : name = "compiler-rt"
    · subst shipped
      rfl
    · have other : name ≠ RuntimeLibrary.default.name := shipped
      simp only [if_pos other, if_neg shipped]
      rfl

namespace LinkRule

def refusesCxx (c : Config) : Bool :=
  c.cxx && Toolchain.linksCxx c && c.cxxStdlib = some "libstdc++"

def cxxLibraries (c : Config) : List String :=
  ["-lc++abi", "-lc++"] ++ if c.isStatic then [] else ["-lunwind"]

def cxxGroup (c : Config) : List String :=
  if c.cxx && Toolchain.linksCxx c then
    ["--push-state", "--as-needed"] ++
      (if c.staticCxxStdlib && !c.isStatic then ["-Bstatic"] ++ cxxLibraries c ++ ["-Bdynamic"]
        else cxxLibraries c) ++
      ["-lopenlibm", "--pop-state"]
  else []

theorem result_cxxLibraryArgs (t : Toolchain) (c : Config) :
    (t.cxxLibraryArgs c).result =
      if c.cxxStdlib = some "libstdc++" then .error (.unsupportedCxxLibrary .libstdcxx)
      else .ok (cxxLibraries c) := by
  rw [Toolchain.cxxLibraryArgs, Traced.result_bind, result_chooseCxx]
  split <;> rfl

theorem result_cxxTokens (c : Config) (t : Toolchain) :
    (cxxTokens c t).result =
      if refusesCxx c then .error (.unsupportedCxxLibrary .libstdcxx) else .ok (cxxGroup c) := by
  unfold cxxTokens cxxGroup refusesCxx
  cases c.cxx && Toolchain.linksCxx c with
  | false => rfl
  | true =>
    simp only [if_true, Bool.true_and, decide_eq_true_eq, Traced.result_bind,
      result_cxxLibraryArgs]
    split
    · rfl
    · cases c.staticCxxStdlib && !c.isStatic <;> simp [bind, Except.bind]

theorem diagnostics_cxxLibraryArgs (t : Toolchain) (c : Config) :
    (t.cxxLibraryArgs c).diagnostics = c.cxxReports := by
  rw [Toolchain.cxxLibraryArgs, Traced.diagnostics_bind, diagnostics_chooseCxx, result_chooseCxx]
  exact List.append_nil _

theorem diagnostics_cxxTokens (c : Config) (t : Toolchain) :
    (cxxTokens c t).diagnostics = if c.cxx && Toolchain.linksCxx c then c.cxxReports else [] := by
  unfold cxxTokens
  split
  · rw [Traced.diagnostics_bind, diagnostics_cxxLibraryArgs]
    cases (t.cxxLibraryArgs c).result <;> exact List.append_nil _
  · rfl

/-! ## The runtime library -/

def runtimePath (directory : String) (triple : Triple) : String :=
  (Path.ofParts directory ["lib", triple.os, runtimeArchive triple]).text

theorem result_runtimeArgs (c : Config) (t : Toolchain) :
    (t.runtimeArgs c).result =
      t.resourceDir.map fun directory => [runtimePath directory t.triple] := by
  rw [Toolchain.runtimeArgs, Traced.result_bind, chooseRuntime_result]
  change (Traced.ofExcept t.resourceDir >>= _).result = _
  rw [Traced.result_bind, Traced.result_ofExcept]
  cases t.resourceDir <;> rfl

theorem diagnostics_runtimeArgs (c : Config) (t : Toolchain) :
    (t.runtimeArgs c).diagnostics = c.runtimeReports := by
  rw [Toolchain.runtimeArgs, Traced.diagnostics_bind, chooseRuntime_result,
    diagnostics_chooseRuntime]
  change c.runtimeReports ++ (Traced.ofExcept t.resourceDir >>= _).diagnostics = _
  rw [Traced.diagnostics_bind, Traced.diagnostics_ofExcept, Traced.result_ofExcept]
  cases t.resourceDir <;> exact List.append_nil _

theorem getLast?_runtimePath (directory : String) (triple : Triple) :
    (runtimePath directory triple).toList.getLast? = some 'a' := by
  have archive_ends : (runtimeArchive triple).toList.getLast? = some 'a' := by
    unfold runtimeArchive
    exact Text.getLast?_toList_append _ (by decide)
  obtain ⟨last, name, ends⟩ :=
    Path.getLast?_names_ofString archive_ends (by decide) (by decide)
  simp only [runtimePath, Path.ofParts, List.foldl_cons, List.foldl_nil]
  exact Path.getLast?_toList_text (Path.getLast?_names_join _ name) ends

/-! ## All default libraries -/

def libraryTokens (c : Config) (triple : Triple) (directory : String) : List String :=
  (if c.isStatic then ["-Bstatic"] else []) ++ cxxGroup c ++ [runtimePath directory triple] ++
    if c.noLibc then [] else ["-lc"]

theorem result_defaultTokens (c : Config) (t : Toolchain) :
    (defaultTokens c t).result =
      if refusesCxx c then .error (.unsupportedCxxLibrary .libstdcxx)
      else t.resourceDir.map (libraryTokens c t.triple) := by
  rw [defaultTokens, Traced.result_bind, result_cxxTokens]
  split
  · rfl
  · change ((t.runtimeArgs c) >>= _).result = _
    rw [Traced.result_bind, result_runtimeArgs]
    cases t.resourceDir <;> rfl

theorem cxxReports_of_refusesCxx {c : Config} (refused : refusesCxx c = true) :
    c.cxxReports = [] := by
  have asked : c.cxxStdlib = some "libstdc++" := by
    simpa using (Bool.and_eq_true_iff.mp refused).2
  rw [Config.cxxReports, asked]
  rfl

theorem diagnostics_defaultTokens (c : Config) (t : Toolchain) :
    (defaultTokens c t).diagnostics =
      if refusesCxx c then []
      else (if c.cxx && Toolchain.linksCxx c then c.cxxReports else []) ++ c.runtimeReports := by
  rw [defaultTokens, Traced.diagnostics_bind, result_cxxTokens, diagnostics_cxxTokens]
  by_cases refused : refusesCxx c = true
  · simp [refused, cxxReports_of_refusesCxx refused]
  · rw [if_neg refused, if_neg refused]
    dsimp only
    rw [Traced.diagnostics_bind, diagnostics_runtimeArgs]
    cases (t.runtimeArgs c).result <;> simp

theorem defaultTokens_ok {c : Config} {t : Toolchain} {tokens : List String}
    (h : (defaultTokens c t).result = .ok tokens) :
    ∃ directory, t.resourceDir = .ok directory ∧ tokens = libraryTokens c t.triple directory := by
  rw [result_defaultTokens] at h
  split at h
  · cases h
  · cases located : t.resourceDir with
    | error fault => rw [located] at h; cases h
    | ok directory => rw [located] at h; cases h; exact ⟨directory, rfl, rfl⟩

end LinkRule

end CrossDriver
