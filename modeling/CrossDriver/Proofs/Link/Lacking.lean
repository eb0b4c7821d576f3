import CrossDriver.Proofs.Link.Failure

namespace CrossDriver

namespace Settings

def LacksResources (s : Settings) : Prop :=
  nonEmpty? s.resourceDir = none ∧ (s.installDir = none ∨ s.clangVersion = none)

theorem resourceDirectory_cases (s : Settings) :
    (s.LacksResources ∧ s.resourceDirectory = .error .absentPath) ∨
      (¬s.LacksResources ∧ ∃ dir, s.resourceDirectory = .ok dir) := by
  unfold LacksResources resourceDirectory besideInstallation
  cases nonEmpty? s.resourceDir with
  | some dir => exact .inr ⟨by simp, dir, rfl⟩
  | none =>
    cases s.installDir with
    | none => exact .inl ⟨⟨rfl, .inl rfl⟩, rfl⟩
    | some base =>
      cases s.clangVersion with
      | none => exact .inl ⟨⟨rfl, .inr rfl⟩, rfl⟩
      | some version => exact .inr ⟨by simp, _, rfl⟩

end Settings

namespace Toolchain

def LacksLinker (t : Toolchain) (c : Config) : Prop :=
  t.requestedLinker c = none ∨
    t.settings.installDir = none ∧
      ∃ name, t.requestedLinker c = some name ∧ Path.isAbsolute name = false

theorem findProgram_of_no_installation {t : Toolchain} (absent : t.settings.installDir = none)
    (name : String) : t.paths.findProgram t.present name = .error .absentPath := by
  unfold paths SearchPaths.findProgram SearchPaths.resolve
  rw [absent]
  dsimp only
  split <;> rfl

theorem findLinker_cases (t : Toolchain) (c : Config) :
    (t.LacksLinker c ∧ t.findLinker c = .error .absentPath) ∨
      (¬t.LacksLinker c ∧ ∃ name found, t.requestedLinker c = some name ∧
        t.findLinker c = .ok found ∧ (t.settings.installDir = none → found.path = name)) := by
  unfold LacksLinker findLinker
  cases requested : t.requestedLinker c with
  | none => exact .inl ⟨.inl rfl, rfl⟩
  | some name =>
    dsimp only
    cases rooted : Path.isAbsolute name with
    | true => exact .inr ⟨by simp [rooted], name, _, rfl, rfl, fun _ => rfl⟩
    | false =>
      cases installed : t.settings.installDir with
      | none =>
        refine .inl ⟨.inr ⟨rfl, name, rfl, rooted⟩, ?_⟩
        rw [if_neg Bool.false_ne_true]
        exact findProgram_of_no_installation installed name
      | some dir =>
        have present : t.settings.installDir.isSome := by rw [installed]; rfl
        have driven : t.settings.driverDirectory.isSome := by
          rw [Settings.driverDirectory, Option.isSome_or, present, Bool.or_true]
        obtain ⟨found, search⟩ := SearchPaths.search_ok t.present name
          (SearchPaths.isSome_of_mem_programs present driven t.sysroot)
        refine .inr ⟨by simp, name, found, rfl, ?_, by simp⟩
        rw [if_neg Bool.false_ne_true]
        exact search

/-- What a link computes from absent entries. -/
inductive LacksForLink (t : Toolchain) (c : Config) : Prop
  | linker (lacks : t.LacksLinker c)
  | plugin {name : String} (requested : t.requestedLinker c = some name)
      (optimises : c.usesLto = true) (foreign : LinkRule.isLld name = false)
      (absent : t.settings.installDir = none)
  | resources (links : c.LinksRuntime) (accepts : ¬c.AsksForLibstdcxx)
      (lacks : t.settings.LacksResources)

end Toolchain

namespace LinkRule

theorem result_contribution_lto_cases (ctx : LinkContext) :
    ((ctx.config.usesLto = true ∧ isLld ctx.linker = false ∧
        ctx.toolchain.settings.installDir = none) ∧
      (contribution ctx .lto).result = .error .absentPath) ∨
    (¬(ctx.config.usesLto = true ∧ isLld ctx.linker = false ∧
        ctx.toolchain.settings.installDir = none) ∧
      ∃ tokens, (contribution ctx .lto).result = .ok tokens) := by
  rw [result_contribution_lto, pluginTokens, Settings.besideInstallation]
  cases ctx.config.usesLto with
  | false => exact .inr ⟨by simp, _, rfl⟩
  | true =>
    cases isLld ctx.linker with
    | true => exact .inr ⟨by simp, _, rfl⟩
    | false =>
      cases ctx.toolchain.settings.installDir with
      | none => exact .inl ⟨⟨rfl, rfl, rfl⟩, rfl⟩
      | some dir => exact .inr ⟨by simp, _, rfl⟩

theorem result_contribution_defaultLibs_cases (ctx : LinkContext)
    (accepts : ¬ctx.config.AsksForLibstdcxx) :
    ((ctx.config.LinksRuntime ∧ ctx.toolchain.settings.LacksResources) ∧
      (contribution ctx .defaultLibs).result = .error .absentPath) ∨
    (¬(ctx.config.LinksRuntime ∧ ctx.toolchain.settings.LacksResources) ∧
      ∃ tokens, (contribution ctx .defaultLibs).result = .ok tokens) := by
  by_cases links : ctx.config.LinksRuntime
  · rw [contribution_defaultLibs_of_linksRuntime links, result_defaultTokens,
      if_neg fun refused => accepts ((Config.refusesCxx_iff _).mp refused), Toolchain.resourceDir]
    rcases ctx.toolchain.settings.resourceDirectory_cases with
      ⟨lacks, located⟩ | ⟨given, dir, located⟩
    · exact .inl ⟨⟨links, lacks⟩, by rw [located]; rfl⟩
    · exact .inr ⟨fun both => given both.2, _, by rw [located]; rfl⟩
  · rw [contribution_defaultLibs_of_not_linksRuntime links]
    exact .inr ⟨fun both => links both.1, [], rfl⟩

end LinkRule

namespace Toolchain
open LinkRule

theorem lacksForLink_iff {t : Toolchain} {c : Config} (given : ¬t.LacksLinker c)
    {name path : String} (requested : t.requestedLinker c = some name)
    (bare : t.settings.installDir = none → path = name) :
    t.LacksForLink c ↔
      (c.usesLto = true ∧ isLld path = false ∧ t.settings.installDir = none) ∨
        (¬c.AsksForLibstdcxx ∧ c.LinksRuntime ∧ t.settings.LacksResources) := by
  constructor
  · intro lacks
    cases lacks with
    | linker lacks => exact absurd lacks given
    | plugin asked optimises foreign absent =>
      cases requested.symm.trans asked
      exact .inl ⟨optimises, (bare absent).symm ▸ foreign, absent⟩
    | resources links accepts lacks => exact .inr ⟨accepts, links, lacks⟩
  · rintro (⟨optimises, foreign, absent⟩ | ⟨accepts, links, lacks⟩)
    · exact .plugin requested optimises (bare absent ▸ foreign) absent
    · exact .resources links accepts lacks

theorem result_link_cases (t : Toolchain) (c : Config) :
    (c.OptimisesNothing ∧ (t.link c).result = .error (.nothingToOptimise c.lto)) ∨
    ((¬c.OptimisesNothing ∧ t.LacksForLink c) ∧ (t.link c).result = .error .absentPath) ∨
    (((¬c.OptimisesNothing ∧ ¬t.LacksForLink c) ∧ c.AsksForLibstdcxx) ∧
      (t.link c).result = .error (.unsupportedCxxLibrary .libstdcxx)) ∨
    (((¬c.OptimisesNothing ∧ ¬t.LacksForLink c) ∧ ¬c.AsksForLibstdcxx) ∧
      ∃ command, (t.link c).result = .ok command) := by
  by_cases vain : c.OptimisesNothing
  · exact .inl ⟨vain, (Prod.mk.inj (t.link_of_optimisesNothing vain)).1⟩
  have worth := mt c.optimisesNothing_iff.mpr vain
  -- The order of the cases is that of the link: its linker, the plugin, the libraries.
  rcases findLinker_cases (t.relocated c) c with
    ⟨lacks, search⟩ | ⟨given, name, found, requested, search, bare⟩
  · refine .inr (.inl ⟨⟨vain, .linker lacks⟩, ?_⟩)
    rw [result_link, if_neg worth, search]
    rfl
  have link : (t.link c).result = do
      let args ← (Linker.tokens (t.linkContext c found) LinkRule.standard).result
      return ⟨found.path, args⟩ := by
    rw [result_link, if_neg worth, search]
    rfl
  rw [Linker.result_tokens_standard] at link
  rw [lacksForLink_iff (t := t) given requested bare]
  rcases result_contribution_lto_cases (t.linkContext c found) with ⟨lacks, lto⟩ | ⟨whole, _, lto⟩
  · rw [lto] at link
    exact .inr (.inl ⟨⟨vain, .inl lacks⟩, link⟩)
  rw [lto] at link
  by_cases asks : c.AsksForLibstdcxx
  · rw [result_contribution_defaultLibs_of_asks (t.linkContext c found) asks] at link
    exact .inr (.inr (.inl ⟨⟨⟨vain, not_or.mpr ⟨whole, fun lacks => lacks.1 asks⟩⟩, asks⟩, link⟩))
  rcases result_contribution_defaultLibs_cases (t.linkContext c found) asks with
    ⟨lacks, libraries⟩ | ⟨located, libraries, made⟩
  · rw [libraries] at link
    exact .inr (.inl ⟨⟨vain, .inr ⟨asks, lacks⟩⟩, link⟩)
  · rw [made] at link
    refine .inr (.inr (.inr ⟨⟨⟨vain, not_or.mpr ⟨whole, fun lacks => ?_⟩⟩, asks⟩, _, link⟩))
    exact located lacks.2

end Toolchain

end CrossDriver
