import CrossDriver.Proofs.Config.Whole
import CrossDriver.Proofs.Link.Outcome
import CrossDriver.Proofs.Path.Whole
import CrossDriver.Proofs.Settings.Saved

namespace CrossDriver

/-! ## Targets -/

namespace Triple

structure Whole (t : Triple) : Prop where
  arch : Text.Whole t.arch.toList
  os : Text.Whole t.os.toList

theorem whole_orUnknown {component : List Char} (whole : Text.Whole component) :
    Text.Whole (orUnknown component).toList := by
  rw [orUnknown]
  split
  · exact Text.whole_literal (by decide)
  · rwa [String.toList_ofList]

theorem whole_parse {s : String} (whole : Text.Whole s.toList) : (parse s).Whole := by
  have small : Text.Whole (Text.lower (Text.strip s)).toList := by
    apply Text.whole_lower
    rw [Text.strip, String.toList_ofList]
    exact whole.within (Text.infix_trimBlank s.toList)
  have each : ∀ component ∈ components s, Text.Whole component :=
    fun component mem => small.within (Text.infix_of_mem_firstPieces mem)
  have unknown : Text.Whole "unknown".toList := Text.whole_literal (by decide)
  rw [parse]
  match components s, each with
  | [], _ => exact ⟨unknown, unknown⟩
  | [arch], each => exact ⟨whole_orUnknown (each arch (by simp)), unknown⟩
  | [arch, os], each =>
    exact ⟨whole_orUnknown (each arch (by simp)), whole_orUnknown (each os (by simp))⟩
  | [arch, _, os], each =>
    exact ⟨whole_orUnknown (each arch (by simp)), whole_orUnknown (each os (by simp))⟩
  | arch :: _ :: os :: _ :: _, each =>
    exact ⟨whole_orUnknown (each arch (by simp)), whole_orUnknown (each os (by simp))⟩

theorem whole_archiveArch {t : Triple} (whole : t.Whole) : Text.Whole t.archiveArch.toList := by
  rw [archiveArch]
  split
  · exact Text.whole_literal (by decide)
  · split
    · exact Text.whole_literal (by decide)
    · exact whole.arch

end Triple

/-! ## Toolchains -/

namespace Settings

variable {s : Settings} (whole : s.Whole)
include whole

theorem whole_besideInstallation {base : Path} (given : s.besideInstallation = .ok base) :
    base.Whole := by
  rw [besideInstallation] at given
  cases installed : s.installDir with
  | none =>
    rw [installed] at given
    cases given
  | some dir =>
    rw [installed] at given
    cases given
    exact Path.whole_parent (Path.whole_ofString (whole .installDir dir installed))

theorem whole_resourceDirectory {dir : String} (given : s.resourceDirectory = .ok dir) :
    Text.Whole dir.toList := by
  rw [resourceDirectory] at given
  cases named : nonEmpty? s.resourceDir with
  | some own =>
    rw [named] at given
    exact Except.ok.inj given ▸ whole .resourceDir own (Option.filter_eq_some_iff.mp named).1
  | none =>
    rw [named] at given
    obtain ⟨base, beside, given⟩ := exists_of_bind_ok given
    cases numbered : s.clangVersion with
    | none =>
      rw [numbered] at given
      cases given
    | some version =>
      rw [numbered] at given
      cases given
      have literal {name : String} (plain : name.toList.all fun c => (Text.standsFor? c).isNone) :
          Text.Whole name.toList := Text.whole_literal plain
      exact Path.whole_text (Path.whole_join (Path.whole_join (Path.whole_join
        (whole_besideInstallation whole beside) (literal (by decide))) (literal (by decide)))
        (whole .clangVersion version numbered))

end Settings

namespace Toolchain

structure Whole (t : Toolchain) : Prop where
  settings : t.settings.Whole
  triple : t.triple.Whole
  sysroot : Text.Whole t.sysroot.toList

theorem whole_relocated {t : Toolchain} (whole : t.Whole) {c : Config} (config : c.Whole) :
    (t.relocated c).Whole :=
  ⟨whole.settings, whole.triple, config.word .sysroot c.sysroot rfl⟩

variable {t : Toolchain} (whole : t.Whole)
include whole

theorem whole_libraries : ∀ path ∈ t.paths.libraries, Text.Whole path.toList := by
  have below {parts : List String}
      (plain : parts.all fun s => s.toList.all fun c => (Text.standsFor? c).isNone) :
      Text.Whole (underSysroot t.sysroot parts).toList :=
    whole_underSysroot whole.sysroot (Text.whole_literals plain)
  rw [paths, SearchPaths.resolve]
  dsimp only
  split
  · exact fun path mem => nomatch mem
  · rw [List.forall_mem_cons, List.forall_mem_singleton]
    exact ⟨below (by decide), below (by decide)⟩

theorem whole_programs {directory : String} (mem : some directory ∈ t.paths.programs) :
    Text.Whole directory.toList := by
  have installed (dir : String) (given : t.settings.installDir = some dir) : Text.Whole dir.toList :=
    whole.settings .installDir dir given
  have driven (given : t.settings.driverDirectory = some directory) :
      Text.Whole directory.toList := by
    rw [Settings.driverDirectory, Option.or_eq_some_iff] at given
    rcases given with named | ⟨-, given⟩
    · exact whole.settings .driverDir directory (Option.filter_eq_some_iff.mp named).1
    · exact installed directory given
  rw [paths, SearchPaths.resolve] at mem
  dsimp only at mem
  split at mem
  · rcases List.mem_pair.mp mem with given | given
    · exact installed directory given.symm
    · exact driven given.symm
  · exact installed directory (List.mem_singleton.mp mem).symm

theorem whole_requestedLinker {c : Config} (config : c.Whole) {linker : String}
    (asked : t.requestedLinker c = some linker) : Text.Whole linker.toList := by
  rw [requestedLinker] at asked
  cases named : Settings.nonEmpty? c.fuseLd with
  | none =>
    rw [named] at asked
    exact whole.settings .linker linker asked
  | some name =>
    rw [named] at asked
    rw [← Option.some.inj asked]
    split
    · exact Text.whole_literal (by decide)
    · exact config.word .fuseLd name (Option.filter_eq_some_iff.mp named).1

theorem whole_findLinker {c : Config} (config : c.Whole) {found : ProgramSearch}
    (given : t.findLinker c = .ok found) : Text.Whole found.path.toList := by
  rw [findLinker] at given
  cases asked : t.requestedLinker c with
  | none =>
    rw [asked] at given
    cases given
  | some linker =>
    have own := whole_requestedLinker whole config asked
    rw [asked] at given
    dsimp only at given
    split at given
    · cases given
      exact own
    · exact SearchPaths.whole_search own (fun _ mem => whole_programs whole mem) given

end Toolchain

/-! ## Tokens -/

structure LinkContext.Whole (ctx : LinkContext) : Prop where
  config : ctx.config.Whole
  toolchain : ctx.toolchain.Whole

namespace LinkRule

theorem whole_dynamicTokens (c : Config) : ∀ token ∈ dynamicTokens c, Text.Whole token.toList := by
  rw [dynamicTokens, List.forall_mem_append, List.forall_mem_append]
  refine ⟨⟨?_, ?_⟩, Text.whole_literals (by decide)⟩
  all_goals split <;> exact Text.whole_literals (by decide)

theorem whole_startTokens {t : Toolchain} (whole : t.Whole) (c : Config) :
    ∀ token ∈ startTokens c t, Text.Whole token.toList := by
  have object : Text.Whole (startObject c).toList := by
    rw [startObject]
    split
    · exact Text.whole_literal (by decide)
    · split <;> exact Text.whole_literal (by decide)
  have frame : Text.Whole "crti.o".toList := Text.whole_literal (by decide)
  rw [startTokens, List.forall_mem_cons]
  refine ⟨SearchPaths.whole_file (Toolchain.whole_libraries whole) object, ?_⟩
  split
  · rw [List.forall_mem_singleton]
    exact SearchPaths.whole_file (Toolchain.whole_libraries whole) frame
  · exact fun token mem => (nomatch mem)

theorem whole_searchTokens {c : Config} (whole : c.Whole) :
    ∀ token ∈ searchTokens c, Text.Whole token.toList := by
  rw [searchTokens, List.forall_mem_append, List.forall_mem_map]
  refine ⟨fun path mem => (whole.entry .libraryPaths path mem).behind (by decide), ?_⟩
  intro token mem
  obtain ⟨symbol, named, within⟩ := List.mem_flatMap.mp mem
  rcases List.mem_pair.mp within with rfl | rfl
  · exact Text.whole_literal (by decide)
  · exact whole.entry .undefined token named

theorem whole_ltoLevel (level : Option String) : Text.Whole (ltoLevel level).toList := by
  cases level with
  | none => exact Text.whole_literal (by decide)
  | some level =>
    rw [ltoLevel]
    split
    case isTrue digit => rcases digit with rfl | rfl | rfl | rfl <;> exact Text.whole_singleton _
    case isFalse => split <;> exact Text.whole_singleton _

theorem whole_ltoOptions {c : Config} (whole : c.Whole) :
    ∀ token ∈ ltoOptions c, Text.Whole token.toList := by
  rw [ltoOptions, List.forall_mem_append, List.forall_mem_singleton]
  refine ⟨(whole_ltoLevel c.optLevel).behind (by decide), ?_⟩
  split
  · rw [List.forall_mem_append]
    refine ⟨Text.whole_literals (by decide), ?_⟩
    split
    case h_1 jobs given =>
      rw [List.forall_mem_singleton]
      exact (whole.word .ltoJobs jobs (Option.filter_eq_some_iff.mp given).1).behind (by decide)
    case h_2 => exact fun token mem => (nomatch mem)
  · exact fun token mem => (nomatch mem)

theorem whole_pluginTokens {ctx : LinkContext} (whole : ctx.Whole) {plugin : List String}
    (given : pluginTokens ctx = .ok plugin) : ∀ token ∈ plugin, Text.Whole token.toList := by
  rw [pluginTokens] at given
  split at given
  · cases given
    exact fun token mem => (nomatch mem)
  · obtain ⟨base, beside, given⟩ := exists_of_bind_ok given
    cases given
    have installed := Settings.whole_besideInstallation whole.toolchain.settings beside
    rw [List.forall_mem_cons, List.forall_mem_singleton]
    exact ⟨Text.whole_literal (by decide), Path.whole_text (Path.whole_join
      (Path.whole_join installed (Text.whole_literal (by decide))) (Text.whole_literal (by decide)))⟩

theorem whole_cxxLibraryArgs {kind : CxxLibrary} {c : Config} {libraries : List String}
    (given : cxxLibraryArgs kind c = .ok libraries) :
    ∀ token ∈ libraries, Text.Whole token.toList := by
  cases kind with
  | libcxx =>
    cases given
    rw [List.forall_mem_append]
    refine ⟨Text.whole_literals (by decide), ?_⟩
    split <;> exact Text.whole_literals (by decide)
  | libstdcxx => cases given

theorem whole_cxxTokens {c : Config} {t : Toolchain} {tokens : List String}
    (given : (cxxTokens c t).result = .ok tokens) : ∀ token ∈ tokens, Text.Whole token.toList := by
  rw [cxxTokens] at given
  split at given
  case isTrue =>
    dsimp only at given
    rw [Traced.result_bind, Toolchain.cxxLibraryArgs, Traced.result_bind] at given
    obtain ⟨libraries, chosen, given⟩ := exists_of_bind_ok given
    obtain ⟨kind, -, listed⟩ := exists_of_bind_ok chosen
    cases given
    have static (on : Bool) (flag : String)
        (plain : [flag].all fun s => s.toList.all fun c => (Text.standsFor? c).isNone) :
        ∀ token ∈ (if on then [flag] else []), Text.Whole token.toList := by
      cases on
      · exact fun token mem => (nomatch mem)
      · exact Text.whole_literals plain
    simp only [List.forall_mem_append]
    exact ⟨⟨⟨⟨Text.whole_literals (by decide), static _ _ (by decide)⟩,
      whole_cxxLibraryArgs listed⟩, static _ _ (by decide)⟩, Text.whole_literals (by decide)⟩
  case isFalse =>
    cases given
    exact fun token mem => (nomatch mem)

theorem whole_runtimeArgs {t : Toolchain} (whole : t.Whole) {c : Config} {tokens : List String}
    (given : (t.runtimeArgs c).result = .ok tokens) :
    ∀ token ∈ tokens, Text.Whole token.toList := by
  rw [Toolchain.runtimeArgs, Traced.result_bind, chooseRuntime_result] at given
  obtain ⟨kind, chosen, given⟩ := exists_of_bind_ok given
  cases chosen
  rw [Traced.result_bind, Traced.result_ofExcept, Toolchain.resourceDir] at given
  obtain ⟨dir, found, given⟩ := exists_of_bind_ok given
  have resources := Settings.whole_resourceDirectory whole.settings found
  have archive : Text.Whole (runtimeArchive t.triple).toList := by
    have named : Text.Whole ("libclang_rt.builtins-" ++ t.triple.archiveArch).toList :=
      (Triple.whole_archiveArch whole.triple).behind (by decide)
    unfold runtimeArchive
    rw [String.toList_append]
    exact named.append_proper (Text.standsFor?_eq_none_of_all (by decide))
  cases given
  rw [List.forall_mem_singleton]
  refine Path.whole_text (Path.whole_ofParts resources ?_)
  rw [List.forall_mem_cons, List.forall_mem_cons, List.forall_mem_singleton]
  exact ⟨Text.whole_literal (by decide), whole.triple.os, archive⟩

theorem whole_defaultTokens {c : Config} {t : Toolchain} (whole : t.Whole) {tokens : List String}
    (given : (defaultTokens c t).result = .ok tokens) :
    ∀ token ∈ tokens, Text.Whole token.toList := by
  rw [defaultTokens, Traced.result_bind] at given
  obtain ⟨cxx, standard, given⟩ := exists_of_bind_ok given
  rw [Traced.result_bind] at given
  obtain ⟨runtime, archive, given⟩ := exists_of_bind_ok given
  cases given
  simp only [List.forall_mem_append]
  refine ⟨⟨⟨?_, whole_cxxTokens standard⟩, whole_runtimeArgs whole archive⟩, ?_⟩
  · split <;> exact Text.whole_literals (by decide)
  · split <;> exact Text.whole_literals (by decide)

theorem whole_emit {ctx : LinkContext} (whole : ctx.Whole) {rule : LinkRule} {tokens : List String}
    (given : (rule.emit ctx).result = .ok tokens) : ∀ token ∈ tokens, Text.Whole token.toList := by
  have literals {texts : List String}
      (plain : texts.all fun s => s.toList.all fun c => (Text.standsFor? c).isNone)
      (same : texts = tokens) : ∀ token ∈ tokens, Text.Whole token.toList :=
    same ▸ Text.whole_literals plain
  cases rule with
  | claim =>
    rw [(Prod.mk.inj (outcome_emit_claim ctx)).1] at given
    exact literals (by decide) (Except.ok.inj given)
  | relro | pie | strip | staticBinding => exact literals (by decide) (Except.ok.inj given)
  | sysroot =>
    cases given
    rw [List.forall_mem_singleton]
    exact (whole.config.word .sysroot _ rfl).behind (by decide)
  | dynamicBinding =>
    cases given
    exact whole_dynamicTokens ctx.config
  | output =>
    cases given
    rw [List.forall_mem_cons, List.forall_mem_singleton]
    exact ⟨Text.whole_literal (by decide), whole.config.word .output _ rfl⟩
  | startFiles =>
    cases given
    exact whole_startTokens whole.toolchain ctx.config
  | searchArgs =>
    cases given
    exact whole_searchTokens whole.config
  | libraryPaths =>
    cases given
    rw [List.forall_mem_map]
    exact fun path mem => (Toolchain.whole_libraries whole.toolchain path mem).behind (by decide)
  | lto =>
    rw [emit, Traced.result_bind] at given
    obtain ⟨plugin, found, given⟩ := exists_of_bind_ok given
    cases given
    exact List.forall_mem_append.mpr
      ⟨whole_pluginTokens whole found, whole_ltoOptions whole.config⟩
  | inputs =>
    cases given
    exact whole.config.entry .inputs
  | defaultLibs => exact whole_defaultTokens whole.toolchain given

end LinkRule

/-! ## Commands -/

namespace Linker

theorem whole_tokens {ctx : LinkContext} (whole : ctx.Whole) {rules : List LinkRule}
    {args : List String} (given : (tokens ctx rules).result = .ok args) :
    ∀ token ∈ args, Text.Whole token.toList := by
  induction rules generalizing args with
  | nil =>
    cases given
    exact fun token mem => (nomatch mem)
  | cons rule rest ih =>
    rw [tokens] at given
    split at given
    · rw [Traced.result_bind] at given
      obtain ⟨first, emitted, given⟩ := exists_of_bind_ok given
      rw [Traced.result_bind] at given
      obtain ⟨others, later, given⟩ := exists_of_bind_ok given
      cases given
      exact List.forall_mem_append.mpr ⟨LinkRule.whole_emit whole emitted, ih later⟩
    · exact ih given

theorem whole_command {l : Linker} (toolchain : l.toolchain.Whole) {c : Config} (config : c.Whole)
    {command : LinkCommand} (given : (l.command c).result = .ok command) :
    ∀ token ∈ command.argv, Text.Whole token.toList := by
  rw [result_command] at given
  obtain ⟨ctx, contextual, given⟩ := exists_of_bind_ok given
  obtain ⟨args, emitted, given⟩ := exists_of_bind_ok given
  cases given
  have relocated := Toolchain.whole_relocated toolchain config
  rw [result_context] at contextual
  split at contextual
  · cases contextual
  · obtain ⟨linker, found, rfl⟩ := exists_of_map_eq_ok contextual
    have whole : LinkContext.Whole ⟨c, l.toolchain.relocated c, linker.path⟩ := ⟨config, relocated⟩
    rw [LinkCommand.argv, List.forall_mem_cons]
    exact ⟨Toolchain.whole_findLinker relocated config found, whole_tokens whole emitted⟩

end Linker

end CrossDriver
