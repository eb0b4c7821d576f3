import CrossDriver.Proofs.Config.Field
import CrossDriver.Proofs.Link.Outcome
import CrossDriver.Proofs.Toolchain.CompileArgs

namespace CrossDriver

/-! ## Fields -/

namespace Config

/-- The fields that linking does not look at, some of them because of what others hold. -/
def unusedByLink (c : Config) : Field → Bool
  | .word .triple | .useInitArray | .switch .noStdInc | .switch .noBuiltinInc
  | .switch .noStdlibInc | .switch .noCxxInc | .switch .debug | .switch .emitLlvm
  | .switch .suppressWarnings => true
  | .word .optLevel => c.lto = .none
  | .word .ltoJobs => c.lto = .none || c.lto = .full
  | .switch .rdynamic => c.isStatic
  | .switch .pie | .switch .pieDefault => c.shared
  | .word .cxxStdlib | .switch .noCxxStdlib => !c.cxx || c.noStdlib || c.noDefaultLibs
  | .switch .staticCxxStdlib => c.isStatic || !c.cxx || c.noStdlib || c.noDefaultLibs
  | .word .rtlib | .switch .noLibc | .switch .cxx => c.noStdlib || c.noDefaultLibs
  | _ => false

def usedByCompile (c : Config) : Field → Bool
  | .word .sysroot | .useInitArray | .switch .cxx | .switch .noStdInc | .switch .noBuiltinInc
  | .switch .noStdlibInc => true
  | .word .cxxStdlib | .switch .noCxxInc => c.cxx
  | _ => false

structure LinksLike (c d : Config) : Prop where
  fields : ∀ f, c.unusedByLink f = false → c.get f = d.get f
  entries : ∀ list, c.entries list = d.entries list

def CompilesLike (c d : Config) : Prop :=
  ∀ f, c.usedByCompile f = true → c.get f = d.get f

theorem isOn_eq_of_get {c d : Config} {f : Switch} (same : c.get (.switch f) = d.get (.switch f)) :
    c.isOn f = d.isOn f := by
  simpa [get] using same

theorem wordOf_eq_of_get {c d : Config} {f : Word} (same : c.get (.word f) = d.get (.word f)) :
    c.wordOf f = d.wordOf f := by
  simpa [get] using same

namespace LinksLike

variable {c d : Config}

theorem isOn (alike : c.LinksLike d) {f : Switch} (used : c.unusedByLink (.switch f) = false) :
    c.isOn f = d.isOn f :=
  isOn_eq_of_get (alike.fields _ used)

theorem wordOf (alike : c.LinksLike d) {f : Word} (used : c.unusedByLink (.word f) = false) :
    c.wordOf f = d.wordOf f :=
  wordOf_eq_of_get (alike.fields _ used)

theorem lto (alike : c.LinksLike d) : c.lto = d.lto := by
  simpa [get] using alike.fields .lto rfl

theorem usesLto (alike : c.LinksLike d) : c.usesLto = d.usesLto := by
  rw [Config.usesLto, alike.lto, ← Config.usesLto]

theorem isStatic (alike : c.LinksLike d) : c.isStatic = d.isStatic := by
  have mode : c.linkMode = d.linkMode := by simpa [get] using alike.fields .linkMode rfl
  rw [Config.isStatic, mode, ← Config.isStatic]

theorem shared (alike : c.LinksLike d) : c.shared = d.shared :=
  alike.isOn (f := .shared) rfl

theorem isPie (alike : c.LinksLike d) : c.isPie = d.isPie := by
  rw [Config.isPie, Config.isPie, ← alike.shared]
  cases image : c.shared with
  | true => rfl
  | false =>
    have pie : c.pie = d.pie := alike.isOn (f := .pie) image
    have pieDefault : c.pieDefault = d.pieDefault := alike.isOn (f := .pieDefault) image
    rw [pie, pieDefault]

theorem sysroot (alike : c.LinksLike d) : c.sysroot = d.sysroot :=
  Option.some.inj (alike.wordOf (f := .sysroot) rfl)

theorem inputs (alike : c.LinksLike d) : c.inputs = d.inputs :=
  alike.entries .inputs

end LinksLike

end Config

/-! ## Linking -/

namespace Config.LinksLike
open LinkRule

variable {c d : Config}

theorem applies_eq (alike : c.LinksLike d) (rule : LinkRule) :
    rule.applies c = rule.applies d := by
  have noStdlib : c.noStdlib = d.noStdlib := alike.isOn (f := .noStdlib) rfl
  have noStartFiles : c.noStartFiles = d.noStartFiles := alike.isOn (f := .noStartFiles) rfl
  have noDefaultLibs : c.noDefaultLibs = d.noDefaultLibs := alike.isOn (f := .noDefaultLibs) rfl
  have strip : c.strip = d.strip := alike.isOn (f := .strip) rfl
  cases rule <;> simp only [applies, alike.sysroot, alike.isPie, strip, alike.isStatic,
    alike.usesLto, noStdlib, noStartFiles, noDefaultLibs]

theorem dynamicTokens_eq (alike : c.LinksLike d) (dynamic : c.isStatic = false) :
    dynamicTokens c = dynamicTokens d := by
  have rdynamic : c.rdynamic = d.rdynamic := alike.isOn (f := .rdynamic) dynamic
  rw [dynamicTokens, dynamicTokens, rdynamic, alike.shared]

theorem startTokens_eq (alike : c.LinksLike d) (t : Toolchain) :
    startTokens c t = startTokens d t := by
  simp only [startTokens, startObject, alike.isStatic, alike.shared, alike.isPie]

theorem searchTokens_eq (alike : c.LinksLike d) : searchTokens c = searchTokens d := by
  have libraryPaths : c.libraryPaths = d.libraryPaths := alike.entries .libraryPaths
  have undefined : c.undefined = d.undefined := alike.entries .undefined
  rw [searchTokens, searchTokens, libraryPaths, undefined]

theorem ltoOptions_eq (alike : c.LinksLike d) (uses : c.usesLto = true) :
    ltoOptions c = ltoOptions d := by
  have mode : c.lto ≠ .none := by simpa [Config.usesLto] using uses
  have level : c.optLevel = d.optLevel :=
    alike.wordOf (f := .optLevel) (by simp [unusedByLink, mode])
  rw [ltoOptions, ltoOptions, level, ← alike.lto]
  by_cases thin : c.lto = .thin
  · have jobs : c.ltoJobs = d.ltoJobs := alike.wordOf (f := .ltoJobs) (by simp [unusedByLink, thin])
    rw [jobs]
  · rw [if_neg thin, if_neg thin]

theorem cxxTokens_eq (alike : c.LinksLike d) (t : Toolchain)
    (wanted : (c.noStdlib || c.noDefaultLibs) = false) : cxxTokens c t = cxxTokens d t := by
  obtain ⟨stdlib, defaults⟩ := Bool.or_eq_false_iff.mp wanted
  have noStdlib : c.noStdlib = d.noStdlib := alike.isOn (f := .noStdlib) rfl
  have noDefaultLibs : c.noDefaultLibs = d.noDefaultLibs := alike.isOn (f := .noDefaultLibs) rfl
  have cxx : c.cxx = d.cxx := alike.isOn (f := .cxx) wanted
  rw [cxxTokens, cxxTokens, ← cxx]
  cases mode : c.cxx with
  | false => rfl
  | true =>
    have known : c.cxxStdlib = d.cxxStdlib :=
      alike.wordOf (f := .cxxStdlib) (by simp [unusedByLink, mode, stdlib, defaults])
    have noCxxStdlib : c.noCxxStdlib = d.noCxxStdlib :=
      alike.isOn (f := .noCxxStdlib) (by simp [unusedByLink, mode, stdlib, defaults])
    have bound : (c.staticCxxStdlib && !c.isStatic) = (d.staticCxxStdlib && !d.isStatic) := by
      rw [← alike.isStatic]
      cases image : c.isStatic with
      | true => simp
      | false =>
        have only : c.staticCxxStdlib = d.staticCxxStdlib := alike.isOn (f := .staticCxxStdlib)
          (by simp [unusedByLink, image, mode, stdlib, defaults])
        rw [only]
    have links : Toolchain.linksCxx c = Toolchain.linksCxx d := by
      rw [Toolchain.linksCxx, Toolchain.linksCxx, noStdlib, noDefaultLibs, noCxxStdlib]
    have libraries : t.cxxLibraryArgs c = t.cxxLibraryArgs d := by
      simp only [Toolchain.cxxLibraryArgs, chooseCxx, CrossDriver.cxxLibraryArgs, known,
        alike.isStatic]
    rw [links, bound, libraries]

theorem defaultTokens_eq (alike : c.LinksLike d) (t : Toolchain)
    (wanted : (c.noStdlib || c.noDefaultLibs) = false) :
    defaultTokens c t = defaultTokens d t := by
  have rtlib : c.rtlib = d.rtlib := alike.wordOf (f := .rtlib) wanted
  have noLibc : c.noLibc = d.noLibc := alike.isOn (f := .noLibc) wanted
  have runtime : t.runtimeArgs c = t.runtimeArgs d := by
    simp only [Toolchain.runtimeArgs, chooseRuntime, rtlib]
  rw [defaultTokens, defaultTokens, alike.cxxTokens_eq t wanted, runtime, noLibc, alike.isStatic]

theorem emit_outcome (alike : c.LinksLike d) (t : Toolchain) (linker : String) {rule : LinkRule}
    (fires : rule.applies c = true) :
    (rule.emit ⟨c, t, linker⟩).outcome = (rule.emit ⟨d, t, linker⟩).outcome := by
  cases rule with
  | claim => rw [outcome_emit_claim, outcome_emit_claim]
  | relro | pie | strip | staticBinding | libraryPaths => rfl
  | sysroot => simp only [emit, alike.sysroot]
  | dynamicBinding =>
    have dynamic : c.isStatic = false := by simpa [applies] using fires
    simp only [emit, alike.dynamicTokens_eq dynamic]
  | output =>
    have output : c.output = d.output := Option.some.inj (alike.wordOf (f := .output) rfl)
    simp only [emit, output]
  | startFiles => simp only [emit, alike.startTokens_eq]
  | searchArgs => simp only [emit, alike.searchTokens_eq]
  | lto =>
    have plugin : pluginTokens ⟨c, t, linker⟩ = pluginTokens ⟨d, t, linker⟩ := rfl
    simp only [emit, plugin, alike.ltoOptions_eq fires]
  | inputs => simp only [emit, alike.inputs]
  | defaultLibs =>
    have wanted : (c.noStdlib || c.noDefaultLibs) = false := by simpa [applies] using fires
    simp only [emit, alike.defaultTokens_eq t wanted]

theorem tokens_outcome (alike : c.LinksLike d) (t : Toolchain) (linker : String)
    (rules : List LinkRule) :
    (Linker.tokens ⟨c, t, linker⟩ rules).outcome = (Linker.tokens ⟨d, t, linker⟩ rules).outcome := by
  induction rules with
  | nil => rfl
  | cons rule rest ih =>
    rw [Linker.tokens_cons, Linker.tokens_cons]
    apply Traced.outcome_bind_congr
    · rw [contribution, contribution, ← alike.applies_eq]
      split
      · next fires => exact alike.emit_outcome t linker fires
      · rfl
    · intro first _
      apply Traced.outcome_bind_congr ih
      intro others _
      rfl

theorem context_cases (alike : c.LinksLike d) (l : Linker) :
    (∃ fault, (l.context c).result = .error fault ∧ (l.context d).result = .error fault) ∨
      ∃ t linker, (l.context c).result = .ok ⟨c, t, linker⟩ ∧
        (l.context d).result = .ok ⟨d, t, linker⟩ := by
  have relocated : l.toolchain.relocated d = l.toolchain.relocated c := by
    rw [Toolchain.relocated, Toolchain.relocated, alike.sysroot]
  have fuseLd : c.fuseLd = d.fuseLd := alike.wordOf (f := .fuseLd) rfl
  have found (t : Toolchain) : t.findLinker d = t.findLinker c := by
    rw [Toolchain.findLinker, Toolchain.findLinker, Toolchain.requestedLinker,
      Toolchain.requestedLinker, fuseLd]
  rw [Linker.result_context, Linker.result_context, relocated, found, ← alike.usesLto,
    ← alike.inputs, ← alike.lto]
  cases c.usesLto && c.inputs.isEmpty with
  | true => exact .inl ⟨_, rfl, rfl⟩
  | false =>
    cases (l.toolchain.relocated c).findLinker c with
    | error fault => exact .inl ⟨fault, rfl, rfl⟩
    | ok linker => exact .inr ⟨_, _, rfl, rfl⟩

theorem command_outcome (alike : c.LinksLike d) (l : Linker) :
    (l.command c).outcome = (l.command d).outcome := by
  apply Traced.outcome_eq_iff.mpr
  rw [Linker.result_command, Linker.result_command, Linker.diagnostics_command,
    Linker.diagnostics_command]
  rcases alike.context_cases l with ⟨fault, first, second⟩ | ⟨t, linker, first, second⟩
  · rw [first, second]
    exact ⟨rfl, rfl⟩
  · obtain ⟨answers, reports⟩ :=
      Traced.outcome_eq_iff.mp (alike.tokens_outcome t linker l.rules)
    rw [first, second]
    constructor
    · simp only [bind, Except.bind, answers]
    · exact reports

theorem firedRules_outcome (alike : c.LinksLike d) (l : Linker) :
    (l.firedRules c).outcome = (l.firedRules d).outcome := by
  apply Traced.outcome_eq_iff.mpr
  rw [Linker.result_firedRules, Linker.result_firedRules, Linker.diagnostics_firedRules,
    Linker.diagnostics_firedRules]
  refine ⟨?_, rfl⟩
  rcases alike.context_cases l with ⟨fault, first, second⟩ | ⟨t, linker, first, second⟩
  · rw [first, second]
  · simp only [first, second, Except.map, alike.applies_eq]

end Config.LinksLike

/-! ## Compiling -/

theorem Config.CompilesLike.compileArgs_eq {c d : Config} (alike : c.CompilesLike d)
    (t : Toolchain) : t.compileArgs c = t.compileArgs d := by
  have sysroot : c.sysroot = d.sysroot :=
    Option.some.inj (wordOf_eq_of_get (f := .sysroot) (alike _ rfl))
  have useInitArray : c.useInitArray = d.useInitArray := by
    simpa [get] using alike .useInitArray rfl
  have cxx : c.cxx = d.cxx := isOn_eq_of_get (f := .cxx) (alike _ rfl)
  have noStdInc : c.noStdInc = d.noStdInc := isOn_eq_of_get (f := .noStdInc) (alike _ rfl)
  have noBuiltinInc : c.noBuiltinInc = d.noBuiltinInc :=
    isOn_eq_of_get (f := .noBuiltinInc) (alike _ rfl)
  have noStdlibInc : c.noStdlibInc = d.noStdlibInc :=
    isOn_eq_of_get (f := .noStdlibInc) (alike _ rfl)
  have options : targetOptions c = targetOptions d := by
    rw [targetOptions, targetOptions, useInitArray]
  have system : t.systemHeaders c = t.systemHeaders d := by
    simp only [Toolchain.systemHeaders, CrossDriver.systemHeaders, noStdInc, noBuiltinInc,
      noStdlibInc, sysroot]
  have headers : t.modeHeaders c = t.modeHeaders d := by
    rw [Toolchain.modeHeaders, Toolchain.modeHeaders, ← cxx]
    split
    · next mode =>
      have cxxStdlib : c.cxxStdlib = d.cxxStdlib :=
        wordOf_eq_of_get (f := .cxxStdlib) (alike _ mode)
      have noCxxInc : c.noCxxInc = d.noCxxInc := isOn_eq_of_get (f := .noCxxInc) (alike _ mode)
      simp only [Toolchain.cxxHeaders, CrossDriver.cxxHeaders, chooseCxx, noStdInc, noStdlibInc,
        noCxxInc, cxxStdlib, sysroot]
    · rfl
  rw [Toolchain.compileArgs_eq, Toolchain.compileArgs_eq, headers, system, options]

/-! ## Both jobs -/

/-- Unused fields have no part in what linking and compiling answer and report. -/
theorem outcome_eq_of_unused (t : Toolchain) :
    (∀ c d : Config, c.LinksLike d →
      (t.link c).outcome = (t.link d).outcome ∧
        (Linker.firedRules { toolchain := t } c).outcome =
          (Linker.firedRules { toolchain := t } d).outcome) ∧
      ∀ c d : Config, c.CompilesLike d → (t.compileArgs c).outcome = (t.compileArgs d).outcome := by
  constructor
  · intro c d alike
    exact ⟨alike.command_outcome _, alike.firedRules_outcome _⟩
  · intro c d alike
    rw [alike.compileArgs_eq]

theorem outcome_eq_of_unused_static :
    let t : Toolchain := ⟨{}, ⟨"x86_64", "unknown", "kush", ""⟩, "/other", fun _ => false, 0⟩
    let c : Config :=
      { linkMode := .static, shared := true, noDefaultLibs := true, cxx := true,
        cxxStdlib := some "libstdc++", sysroot := "/sdk", inputs := ["a.o"] }
    let d : Config :=
      { linkMode := .static, shared := true, noDefaultLibs := true, rtlib := some "libgcc",
        sysroot := "/sdk", inputs := ["a.o"], triple := some "arm-kush", pie := true,
        rdynamic := true, optLevel := some "3", ltoJobs := some "8", noLibc := true,
        debug := true }
    let e : Config := { noBuiltinInc := true, sysroot := "/sdk", cxxStdlib := some "libstdc++" }
    let f : Config := { noBuiltinInc := true, sysroot := "/sdk", noCxxInc := true, lto := .thin }
    c.LinksLike d ∧ (t.link c).outcome = (t.link d).outcome ∧
      e.CompilesLike f ∧ (t.compileArgs e).outcome = (t.compileArgs f).outcome := by
  intro t c d e f
  have links : c.LinksLike d := by
    constructor
    · intro field used
      cases field with
      | switch field => cases field <;> first | rfl | cases used
      | word field => cases field <;> first | rfl | cases used
      | linkMode | lto | useInitArray => rfl
    · intro list
      cases list <;> rfl
  have compiles : e.CompilesLike f := by
    intro field used
    cases field with
    | switch field => cases field <;> first | rfl | cases used
    | word field => cases field <;> first | rfl | cases used
    | linkMode | useInitArray => rfl
    | lto => cases used
  obtain ⟨linking, compiling⟩ := outcome_eq_of_unused t
  exact ⟨links, (linking c d links).1, compiles, compiling e f compiles⟩

end CrossDriver
