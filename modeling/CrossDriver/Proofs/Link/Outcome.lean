import CrossDriver.Link.Linker
import CrossDriver.Proofs.Traced

namespace CrossDriver

def Toolchain.relocated (t : Toolchain) (c : Config) : Toolchain :=
  { t with sysroot := c.sysroot }

/-! ## Rules -/

namespace LinkRule

def contribution (ctx : LinkContext) (rule : LinkRule) : Traced (List String) :=
  if rule.applies ctx.config then rule.emit ctx else pure []

def bindingTokens (c : Config) : List String :=
  if c.isStatic then ["-Bstatic"] else dynamicTokens c

def leadTokens (c : Config) : List String :=
  ["-znorelro"] ++ (if c.sysroot = "" then [] else ["--sysroot=" ++ c.sysroot]) ++
    (if c.isPie then ["-pie"] else []) ++ if c.strip then ["-s"] else []

def frontTokens (c : Config) : List String :=
  leadTokens c ++ bindingTokens c

def startSection (c : Config) (t : Toolchain) : List String :=
  if c.noStdlib || c.noStartFiles then [] else startTokens c t

def directoryTokens (t : Toolchain) : List String :=
  t.paths.libraries.map ("-L" ++ ·)

theorem leadTokens_eq (c : Config) :
    leadTokens c = ["-znorelro"] ++
      (if applies c .sysroot then ["--sysroot=" ++ c.sysroot] else []) ++
      (if applies c .pie then ["-pie"] else []) ++ if applies c .strip then ["-s"] else [] := by
  have sysroot : (if c.sysroot = "" then [] else ["--sysroot=" ++ c.sysroot]) =
      if applies c .sysroot then ["--sysroot=" ++ c.sysroot] else [] := by
    by_cases empty : c.sysroot = "" <;> simp [applies, empty]
  rw [leadTokens, sysroot]
  rfl

theorem bindingTokens_eq (c : Config) :
    bindingTokens c = (if applies c .staticBinding then ["-Bstatic"] else []) ++
      if applies c .dynamicBinding then dynamicTokens c else [] := by
  by_cases static : c.isStatic = true <;> simp [bindingTokens, applies, static]

theorem startSection_eq (c : Config) (t : Toolchain) :
    startSection c t = if applies c .startFiles then startTokens c t else [] := by
  unfold startSection applies
  cases c.noStdlib || c.noStartFiles <;> rfl

theorem ite_pure (p : Prop) [Decidable p] (tokens others : List String) :
    (if p then pure tokens else pure others : Traced (List String)) =
      pure (if p then tokens else others) := by
  split <;> rfl

def noteClaimed (c : Config) : Traced Unit :=
  if claimedFlags c = [] then pure () else Traced.emit (.ignoredFlags (claimedFlags c))

theorem contribution_claim (ctx : LinkContext) :
    contribution ctx .claim = do
      noteClaimed ctx.config
      return [] := by
  change emit ctx .claim = _
  rw [emit, noteClaimed]
  by_cases none : claimedFlags ctx.config = []
  · simp [none]
  · simp [none]

theorem result_noteClaimed (c : Config) : (noteClaimed c).result = .ok () := by
  unfold noteClaimed
  split <;> rfl

theorem diagnostics_noteClaimed (c : Config) : (noteClaimed c).diagnostics = [] := by
  unfold noteClaimed
  split <;> rfl

theorem outcome_emit_claim (ctx : LinkContext) : (emit ctx .claim).outcome = (.ok [], []) := by
  have noted : emit ctx .claim = _ := contribution_claim ctx
  rw [noted, Traced.outcome, Traced.result_bind, Traced.diagnostics_bind, result_noteClaimed,
    diagnostics_noteClaimed]
  rfl

theorem result_contribution_lto (ctx : LinkContext) :
    (contribution ctx .lto).result =
      if ctx.config.usesLto then (pluginTokens ctx).map (· ++ ltoOptions ctx.config)
      else .ok [] := by
  rw [contribution, applies]
  split
  · rw [emit, Traced.result_bind, Traced.result_ofExcept]
    cases pluginTokens ctx <;> rfl
  · rfl

theorem result_contribution_lto_of_plain {ctx : LinkContext} (plain : ctx.config.usesLto = false) :
    (contribution ctx .lto).result = .ok [] := by
  rw [result_contribution_lto, if_neg (ne_true_of_eq_false plain)]

theorem diagnostics_contribution_lto (ctx : LinkContext) :
    (contribution ctx .lto).diagnostics = [] := by
  rw [contribution, applies]
  split
  · rw [emit, Traced.diagnostics_bind, Traced.result_ofExcept]
    cases pluginTokens ctx <;> rfl
  · rfl

end LinkRule

namespace Linker
open LinkRule

theorem tokens_cons (ctx : LinkContext) (rule : LinkRule) (rest : List LinkRule) :
    tokens ctx (rule :: rest) = do
      let first ← contribution ctx rule
      let others ← tokens ctx rest
      return first ++ others := by
  rw [tokens, contribution]
  split
  · rfl
  · simp

theorem tokens_nil (ctx : LinkContext) : tokens ctx [] = pure [] := rfl

theorem tokens_standard (ctx : LinkContext) :
    tokens ctx LinkRule.standard = do
      noteClaimed ctx.config
      let optimisation ← contribution ctx .lto
      let libraries ← contribution ctx .defaultLibs
      return frontTokens ctx.config ++ ["-o", ctx.config.output] ++
        startSection ctx.config ctx.toolchain ++ searchTokens ctx.config ++
        directoryTokens ctx.toolchain ++ optimisation ++ ctx.config.inputs ++ libraries := by
  simp only [LinkRule.standard, tokens_cons, tokens_nil, contribution_claim]
  -- The two rules that can fail stay closed, the others are opened.
  generalize contribution ctx .lto = optimise
  generalize contribution ctx .defaultLibs = link
  simp only [contribution, emit, ite_pure, bind_assoc, pure_bind]
  simp only [frontTokens, leadTokens_eq, bindingTokens_eq, startSection_eq, directoryTokens,
    applies, if_true, List.append_assoc, List.nil_append, List.append_nil]

theorem result_tokens_standard (ctx : LinkContext) :
    (tokens ctx LinkRule.standard).result = do
      let optimisation ← (contribution ctx .lto).result
      let libraries ← (contribution ctx .defaultLibs).result
      return frontTokens ctx.config ++ ["-o", ctx.config.output] ++
        startSection ctx.config ctx.toolchain ++ searchTokens ctx.config ++
        directoryTokens ctx.toolchain ++ optimisation ++ ctx.config.inputs ++ libraries := by
  rw [tokens_standard, Traced.result_bind, result_noteClaimed]
  simp only [Traced.result_bind, Traced.result_pure]
  rfl

theorem diagnostics_tokens_standard (ctx : LinkContext) :
    (tokens ctx LinkRule.standard).diagnostics =
      match (contribution ctx .lto).result with
      | .ok _ => (contribution ctx .defaultLibs).diagnostics
      | .error _ => [] := by
  rw [tokens_standard, Traced.diagnostics_bind, diagnostics_noteClaimed, result_noteClaimed,
    List.nil_append]
  dsimp only
  rw [Traced.diagnostics_bind, diagnostics_contribution_lto, List.nil_append]
  cases (contribution ctx .lto).result with
  | error fault => rfl
  | ok optimisation =>
    dsimp only
    rw [Traced.diagnostics_bind]
    cases (contribution ctx .defaultLibs).result with
    | error fault => exact List.append_nil _
    | ok libraries => exact List.append_nil _

/-! ## Contexts and commands -/

def relocate (t : Toolchain) (c : Config) : Traced Toolchain :=
  if c.sysroot = t.sysroot then pure t else t.withSysroot c.sysroot

theorem result_relocate (t : Toolchain) (c : Config) :
    (relocate t c).result = .ok (t.relocated c) := by
  unfold relocate Toolchain.relocated
  split
  · next same => rw [same, Traced.result_pure]
  · rfl

theorem diagnostics_relocate (t : Toolchain) (c : Config) : (relocate t c).diagnostics = [] := by
  unfold relocate
  split <;> rfl

theorem context_of_linkable (l : Linker) {c : Config}
    (linkable : (c.usesLto && c.inputs.isEmpty) = false) :
    l.context c = do
      let toolchain ← relocate l.toolchain c
      let linker ← Traced.ofExcept (toolchain.findLinker c)
      return ⟨c, toolchain, linker.path⟩ := by
  rw [context, linkable, relocate]
  by_cases same : c.sysroot = l.toolchain.sysroot
  · rw [if_neg Bool.false_ne_true, if_pos same, if_pos same]
  · rw [if_neg Bool.false_ne_true, if_neg same, if_neg same]

theorem context_of_not_linkable (l : Linker) {c : Config}
    (vain : (c.usesLto && c.inputs.isEmpty) = true) :
    l.context c = Traced.fail (.nothingToOptimise c.lto) := by
  rw [context, vain]
  rfl

theorem result_context (l : Linker) (c : Config) :
    (l.context c).result =
      if c.usesLto && c.inputs.isEmpty then .error (.nothingToOptimise c.lto)
      else ((l.toolchain.relocated c).findLinker c).map fun linker =>
        ⟨c, l.toolchain.relocated c, linker.path⟩ := by
  cases vain : c.usesLto && c.inputs.isEmpty with
  | true => rw [context_of_not_linkable l vain]; rfl
  | false =>
    rw [context_of_linkable l vain, Traced.result_bind, result_relocate]
    change (Traced.ofExcept ((l.toolchain.relocated c).findLinker c) >>= _).result = _
    rw [Traced.result_bind, Traced.result_ofExcept]
    cases (l.toolchain.relocated c).findLinker c <;> rfl

theorem diagnostics_context (l : Linker) (c : Config) : (l.context c).diagnostics = [] := by
  cases vain : c.usesLto && c.inputs.isEmpty with
  | true => rw [context_of_not_linkable l vain]; rfl
  | false =>
    rw [context_of_linkable l vain, Traced.diagnostics_bind, result_relocate,
      diagnostics_relocate, List.nil_append]
    change (Traced.ofExcept ((l.toolchain.relocated c).findLinker c) >>= _).diagnostics = _
    rw [Traced.diagnostics_bind, Traced.result_ofExcept]
    cases (l.toolchain.relocated c).findLinker c <;> rfl

theorem result_command (l : Linker) (c : Config) :
    (l.command c).result = do
      let ctx ← (l.context c).result
      let args ← (tokens ctx l.rules).result
      return ⟨ctx.linker, args⟩ := by
  simp only [command, Traced.result_bind]
  rfl

theorem diagnostics_command (l : Linker) (c : Config) :
    (l.command c).diagnostics =
      match (l.context c).result with
      | .ok ctx => (tokens ctx l.rules).diagnostics
      | .error _ => [] := by
  rw [command, Traced.diagnostics_bind, diagnostics_context, List.nil_append]
  cases (l.context c).result with
  | error fault => rfl
  | ok ctx =>
    dsimp only
    rw [Traced.diagnostics_bind]
    cases (tokens ctx l.rules).result with
    | error fault => exact List.append_nil _
    | ok args => exact List.append_nil _

theorem result_firedRules (l : Linker) (c : Config) :
    (l.firedRules c).result =
      (l.context c).result.map fun ctx =>
        (l.rules.filter (·.applies ctx.config)).map LinkRule.name := by
  rw [firedRules, Traced.result_bind]
  cases (l.context c).result <;> rfl

theorem diagnostics_firedRules (l : Linker) (c : Config) : (l.firedRules c).diagnostics = [] := by
  rw [firedRules, Traced.diagnostics_bind, diagnostics_context, List.nil_append]
  cases (l.context c).result <;> rfl

end Linker

namespace Toolchain
open Linker LinkRule

def linkContext (t : Toolchain) (c : Config) (linker : ProgramSearch) : LinkContext :=
  ⟨c, t.relocated c, linker.path⟩

theorem result_link (t : Toolchain) (c : Config) :
    (t.link c).result =
      if c.usesLto && c.inputs.isEmpty then .error (.nothingToOptimise c.lto)
      else do
        let linker ← (t.relocated c).findLinker c
        let args ← (tokens (t.linkContext c linker) LinkRule.standard).result
        return ⟨linker.path, args⟩ := by
  rw [link, result_command, result_context]
  cases c.usesLto && c.inputs.isEmpty with
  | true => rfl
  | false =>
    change (((t.relocated c).findLinker c).map _ >>= _) = _
    cases (t.relocated c).findLinker c <;> rfl

theorem diagnostics_link (t : Toolchain) (c : Config) :
    (t.link c).diagnostics =
      if c.usesLto && c.inputs.isEmpty then []
      else match (t.relocated c).findLinker c with
        | .ok linker => (tokens (t.linkContext c linker) LinkRule.standard).diagnostics
        | .error _ => [] := by
  rw [link, diagnostics_command, result_context]
  cases c.usesLto && c.inputs.isEmpty with
  | true => rfl
  | false =>
    dsimp only
    cases (t.relocated c).findLinker c <;> rfl

end Toolchain

end CrossDriver
