import CrossDriver.Proofs.Link.DefaultLibraries
import CrossDriver.Proofs.Link.Outcome

namespace CrossDriver

theorem Text.ne_append_of_not_prefix {s front : String} (h : ¬front.toList <+: s.toList)
    (rest : String) : s ≠ front ++ rest := by
  rintro rfl
  rw [String.toList_append] at h
  exact h (List.prefix_append _ _)

structure LinkNames where
  output : String
  libraryPaths : List String
  undefined : List String
  inputs : List String

def Config.withNames (c : Config) (names : LinkNames) : Config :=
  { c with
    output := names.output
    libraryPaths := names.libraryPaths
    undefined := names.undefined
    inputs := names.inputs }

structure Layout where
  front : List String
  start : List String
  between : List String
  libraries : List String

namespace Layout

def args (layout : Layout) (names : LinkNames) : List String :=
  layout.front ++ ["-o", names.output] ++ layout.start ++ names.libraryPaths.map ("-L" ++ ·) ++
    names.undefined.flatMap (fun symbol => ["-u", symbol]) ++ layout.between ++ names.inputs ++
    layout.libraries

def bindingRules : List LinkRule :=
  [.staticBinding, .dynamicBinding]

def dynamicNames : List String :=
  ["-Bshareable", "-dynamic-linker", "--enable-new-dtags", "-export-dynamic"]

/-- A layout for a configuration and a toolchain in its sysroot. -/
structure Fits (layout : Layout) (t : Toolchain) (c : Config) : Prop where
  start_eq_nil_iff : layout.start = [] ↔ (c.noStdlib || c.noStartFiles) = true
  start : layout.start ≠ [] → layout.start =
    t.paths.file (if c.isStatic then "crt0T.o" else if c.shared || c.isPie then "crt0S.o"
      else "crt0.o") :: if c.isStatic then [t.paths.file "crti.o"] else []
  dynamic : ∀ token ∈ dynamicNames, token ∈ layout.front → c.isStatic = false
  binding : ∃ rule ∈ bindingRules, (∀ other ∈ bindingRules, other.applies c = true ↔ other = rule) ∧
    ∃ lead tokens, layout.front = lead ++ tokens ∧ tokens ≠ [] ∧
      (∀ token ∈ lead, token ∉ "-Bstatic" :: dynamicNames) ∧
      ∀ ctx : LinkContext, ctx.config = c → (rule.emit ctx).result = .ok tokens
  between : ∃ plugin, (plugin = [] ∨ ∃ path, plugin = ["-plugin", path]) ∧
    layout.between = t.paths.libraries.map ("-L" ++ ·) ++
      if c.usesLto then plugin ++ LinkRule.ltoOptions c else []
  libraries_eq_nil : (c.noStdlib || c.noDefaultLibs) = true → layout.libraries = []
  libraries : (c.noStdlib || c.noDefaultLibs) = false → ∀ directory, t.resourceDir = .ok directory →
    layout.libraries = LinkRule.libraryTokens c t.triple directory

/-! ## The layout of the standard rules -/

def defaultLibraries (t : Toolchain) (c : Config) : List String :=
  if c.noStdlib || c.noDefaultLibs then []
  else match t.resourceDir with
    | .ok directory => LinkRule.libraryTokens c t.triple directory
    | .error _ => []

def standard (t : Toolchain) (c : Config) (optimisation : List String) : Layout where
  front := LinkRule.frontTokens c
  start := LinkRule.startSection c t
  between := LinkRule.directoryTokens t ++ optimisation
  libraries := defaultLibraries t c

theorem not_mem_of_mem_leadTokens {c : Config} {token : String}
    (lead : token ∈ LinkRule.leadTokens c) : token ∉ "-Bstatic" :: dynamicNames := by
  have fixed_free : ∀ other ∈ "-Bstatic" :: dynamicNames, other ∉ ["-znorelro", "-pie", "-s"] := by
    decide
  have prefix_free : ∀ other ∈ "-Bstatic" :: dynamicNames,
      ¬"--sysroot=".toList <+: other.toList := by
    decide
  have fixed {name : String} (listed : name ∈ ["-znorelro", "-pie", "-s"]) (same : token = name) :
      token ∉ "-Bstatic" :: dynamicNames := by
    intro binds
    exact fixed_free token binds (same ▸ listed)
  simp only [LinkRule.leadTokens, List.mem_append] at lead
  rcases lead with ((relro | sysroot) | pie) | strip
  · exact fixed (by decide) (List.mem_singleton.mp relro)
  · split at sysroot
    · cases sysroot
    · intro binds
      exact Text.ne_append_of_not_prefix (prefix_free token binds) _ (List.mem_singleton.mp sysroot)
  · split at pie
    · exact fixed (by decide) (List.mem_singleton.mp pie)
    · cases pie
  · split at strip
    · exact fixed (by decide) (List.mem_singleton.mp strip)
    · cases strip

theorem isStatic_of_mem_frontTokens {c : Config} {token : String} (dynamic : token ∈ dynamicNames)
    (found : token ∈ LinkRule.frontTokens c) : c.isStatic = false := by
  rcases List.mem_append.mp found with lead | binding
  · exact absurd (List.mem_cons_of_mem _ dynamic) (not_mem_of_mem_leadTokens lead)
  · cases static : c.isStatic with
    | false => rfl
    | true =>
      rw [LinkRule.bindingTokens, if_pos static, List.mem_singleton] at binding
      subst binding
      exact absurd dynamic (by decide)

theorem binding_frontTokens (c : Config) :
    ∃ rule ∈ bindingRules, (∀ other ∈ bindingRules, other.applies c = true ↔ other = rule) ∧
      ∃ tokens, LinkRule.frontTokens c = LinkRule.leadTokens c ++ tokens ∧ tokens ≠ [] ∧
        ∀ ctx : LinkContext, ctx.config = c → (rule.emit ctx).result = .ok tokens := by
  cases static : c.isStatic with
  | true =>
    refine ⟨.staticBinding, by decide, by simp [bindingRules, LinkRule.applies, static],
      ["-Bstatic"], ?_, List.cons_ne_nil _ _, fun _ _ => rfl⟩
    rw [LinkRule.frontTokens, LinkRule.bindingTokens, if_pos static]
  | false =>
    refine ⟨.dynamicBinding, by decide, by simp [bindingRules, LinkRule.applies, static],
      LinkRule.dynamicTokens c, ?_, ?_, ?_⟩
    · rw [LinkRule.frontTokens, LinkRule.bindingTokens, static, if_neg Bool.false_ne_true]
    · exact List.append_ne_nil_of_right_ne_nil _ (List.cons_ne_nil _ _)
    · rintro ctx rfl
      rfl

theorem startSection_eq_nil_iff (t : Toolchain) (c : Config) :
    LinkRule.startSection c t = [] ↔ (c.noStdlib || c.noStartFiles) = true := by
  unfold LinkRule.startSection
  cases c.noStdlib || c.noStartFiles with
  | true => exact iff_of_true rfl rfl
  | false => exact iff_of_false (List.cons_ne_nil _ _) Bool.false_ne_true

theorem fits_standard (t : Toolchain) (c : Config) {plugin : List String}
    (shape : plugin = [] ∨ ∃ path, plugin = ["-plugin", path]) :
    (standard t c (if c.usesLto then plugin ++ LinkRule.ltoOptions c else [])).Fits t c where
  start_eq_nil_iff := startSection_eq_nil_iff t c
  start := by
    intro started
    have wanted : ¬(c.noStdlib || c.noStartFiles) = true :=
      fun unwanted => started ((startSection_eq_nil_iff t c).mpr unwanted)
    exact if_neg wanted
  dynamic _ := isStatic_of_mem_frontTokens
  binding := by
    obtain ⟨rule, listed, alone, tokens, front, ne, emits⟩ := binding_frontTokens c
    exact ⟨rule, listed, alone, _, tokens, front, ne,
      fun _ lead => not_mem_of_mem_leadTokens lead, emits⟩
  between := ⟨plugin, shape, rfl⟩
  libraries_eq_nil := by
    intro unwanted
    exact if_pos unwanted
  libraries := by
    intro wanted directory located
    rw [standard, defaultLibraries, wanted, located]
    rfl

end Layout

namespace LinkRule

theorem plugin_shape {ctx : LinkContext} {plugin : List String}
    (h : pluginTokens ctx = .ok plugin) : plugin = [] ∨ ∃ path, plugin = ["-plugin", path] := by
  unfold pluginTokens at h
  split at h
  · cases h
    exact .inl rfl
  · cases base : ctx.toolchain.settings.besideInstallation with
    | error fault =>
      rw [base] at h
      cases h
    | ok directory =>
      rw [base] at h
      cases h
      exact .inr ⟨_, rfl⟩

theorem optimisation_of_contribution {ctx : LinkContext} {optimisation : List String}
    (h : (contribution ctx .lto).result = .ok optimisation) :
    ∃ plugin, (plugin = [] ∨ ∃ path, plugin = ["-plugin", path]) ∧
      optimisation = if ctx.config.usesLto then plugin ++ ltoOptions ctx.config else [] := by
  rw [result_contribution_lto] at h
  split at h
  · next uses =>
    cases found : pluginTokens ctx with
    | error fault =>
      rw [found] at h
      cases h
    | ok plugin =>
      rw [found] at h
      cases h
      exact ⟨plugin, plugin_shape found, by rw [if_pos uses]⟩
  · next uses =>
    cases h
    exact ⟨[], .inl rfl, by rw [if_neg uses]⟩

theorem libraries_of_contribution {ctx : LinkContext} {libraries : List String}
    (h : (contribution ctx .defaultLibs).result = .ok libraries) :
    libraries = Layout.defaultLibraries ctx.toolchain ctx.config := by
  rw [contribution, applies] at h
  cases unwanted : ctx.config.noStdlib || ctx.config.noDefaultLibs with
  | true =>
    rw [unwanted] at h
    cases h
    rw [Layout.defaultLibraries, unwanted]
    rfl
  | false =>
    rw [unwanted] at h
    obtain ⟨directory, located, tokens⟩ := defaultTokens_ok h
    rw [Layout.defaultLibraries, unwanted, located, tokens]
    rfl

end LinkRule

namespace Toolchain
open LinkRule

theorem result_link_withNames (t : Toolchain) (c : Config) (names : LinkNames) :
    (t.link (c.withNames names)).result =
      if c.usesLto && names.inputs.isEmpty then .error (.nothingToOptimise c.lto)
      else do
        let linker ← (t.relocated c).findLinker c
        let optimisation ← (contribution (t.linkContext c linker) .lto).result
        let libraries ← (contribution (t.linkContext c linker) .defaultLibs).result
        return ⟨linker.path, frontTokens c ++ ["-o", names.output] ++
          startSection c (t.relocated c) ++ searchTokens (c.withNames names) ++
          directoryTokens (t.relocated c) ++ optimisation ++ names.inputs ++ libraries⟩ := by
  rw [result_link]
  simp only [Linker.result_tokens_standard, bind_assoc, pure_bind]
  rfl

def linkReports (t : Toolchain) (c : Config) : Diagnostics :=
  match (t.relocated c).findLinker c with
  | .ok linker =>
    match (contribution (t.linkContext c linker) .lto).result with
    | .ok _ => (contribution (t.linkContext c linker) .defaultLibs).diagnostics
    | .error _ => []
  | .error _ => []

theorem diagnostics_link_withNames (t : Toolchain) (c : Config) (names : LinkNames) :
    (t.link (c.withNames names)).diagnostics =
      if c.usesLto && names.inputs.isEmpty then [] else t.linkReports c := by
  rw [diagnostics_link]
  simp only [Linker.diagnostics_tokens_standard]
  rfl

theorem args_standard (t : Toolchain) (c : Config) (names : LinkNames)
    (optimisation : List String) :
    (Layout.standard t c optimisation).args names =
      frontTokens c ++ ["-o", names.output] ++ startSection c t ++
        searchTokens (c.withNames names) ++ directoryTokens t ++ optimisation ++ names.inputs ++
        Layout.defaultLibraries t c := by
  simp only [Layout.args, Layout.standard, searchTokens, Config.withNames, List.append_assoc]

/-- One layout, one linker and the same reports for all names. -/
theorem link_layout (t : Toolchain) (c : Config) :
    ∃ (layout : Layout) (outcome : Except Fault String) (reports : Diagnostics),
      layout.Fits (t.relocated c) c ∧
        ∀ names : LinkNames,
          (t.link (c.withNames names)).result =
            (if c.usesLto && names.inputs.isEmpty then .error (.nothingToOptimise c.lto)
            else outcome.map fun linker => ⟨linker, layout.args names⟩) ∧
          (t.link (c.withNames names)).diagnostics =
            (if c.usesLto && names.inputs.isEmpty then [] else reports) := by
  suffices given : ∃ (layout : Layout) (outcome : Except Fault String),
      layout.Fits (t.relocated c) c ∧
        ∀ names : LinkNames, (t.link (c.withNames names)).result =
          if c.usesLto && names.inputs.isEmpty then .error (.nothingToOptimise c.lto)
          else outcome.map fun linker => ⟨linker, layout.args names⟩ by
    obtain ⟨layout, outcome, fits, answers⟩ := given
    exact ⟨layout, outcome, t.linkReports c, fits, fun names =>
      ⟨answers names, diagnostics_link_withNames t c names⟩⟩
  have without_plugin := Layout.fits_standard (t.relocated c) c (.inl rfl)
  simp only [result_link_withNames, bind, Except.bind]
  cases (t.relocated c).findLinker c with
  | error fault => exact ⟨_, .error fault, without_plugin, fun names => rfl⟩
  | ok linker =>
    dsimp only
    cases optimise : (contribution (t.linkContext c linker) .lto).result with
    | error fault => exact ⟨_, .error fault, without_plugin, fun names => rfl⟩
    | ok optimisation =>
      dsimp only
      cases link : (contribution (t.linkContext c linker) .defaultLibs).result with
      | error fault => exact ⟨_, .error fault, without_plugin, fun names => rfl⟩
      | ok libraries =>
        obtain ⟨plugin, shape, rfl⟩ := optimisation_of_contribution optimise
        have fits := Layout.fits_standard (t.relocated c) c shape
        refine ⟨_, .ok linker.path, fits, fun names => ?_⟩
        rw [args_standard, libraries_of_contribution link]
        rfl

end Toolchain

end CrossDriver
