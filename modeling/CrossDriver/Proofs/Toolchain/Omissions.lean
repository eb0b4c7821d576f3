import CrossDriver.Proofs.Config.Field
import CrossDriver.Proofs.Link.Reports
import CrossDriver.Proofs.Toolchain.CompileArgs
import Mathlib.Data.List.Flatten

namespace CrossDriver

/-! ## Thinner jobs -/

namespace Traced

variable {α : Type} {less : α → α → Prop}

/-- One job answers whenever another does, with less, and reports nothing else than that. -/
def Thins (less : α → α → Prop) (fewer more : Traced α) : Prop :=
  ∀ a, more.result = .ok a →
    ∃ b, fewer.result = .ok b ∧ less b a ∧ fewer.diagnostics.Sublist more.diagnostics

theorem Thins.refl (reflexive : ∀ a, less a a) (job : Traced α) : Thins less job job :=
  fun a answer => ⟨a, answer, reflexive a, List.Sublist.refl _⟩

theorem Thins.trans (transitive : ∀ {a b c}, less a b → less b c → less a c)
    {least fewer more : Traced α} (first : Thins less least fewer) (second : Thins less fewer more) :
    Thins less least more := by
  intro a answer
  obtain ⟨b, between, less_b, reports_b⟩ := second a answer
  obtain ⟨c, last, less_c, reports_c⟩ := first b between
  exact ⟨c, last, transitive less_c less_b, reports_c.trans reports_b⟩

theorem thins_pure_nil (job : Traced (List String)) : Thins List.Sublist (pure []) job :=
  fun tokens _ => ⟨[], rfl, List.nil_sublist tokens, List.nil_sublist _⟩

def joinedWith (first second : Traced (List String)) : Traced (List String) := do
  let before ← first
  let behind ← second
  return before ++ behind

theorem result_joinedWith_eq_ok {first second : Traced (List String)} {tokens : List String} :
    (first.joinedWith second).result = .ok tokens ↔
      ∃ before behind, first.result = .ok before ∧ second.result = .ok behind ∧
        tokens = before ++ behind := by
  rw [joinedWith, result_bind]
  cases first.result with
  | error fault => simp [bind, Except.bind]
  | ok before =>
    change (second >>= _).result = _ ↔ _
    rw [result_bind]
    cases second.result <;> simp [bind, Except.bind, eq_comm]

theorem diagnostics_joinedWith_of_ok {first second : Traced (List String)} {before : List String}
    (given : first.result = .ok before) :
    (first.joinedWith second).diagnostics = first.diagnostics ++ second.diagnostics := by
  rw [joinedWith, diagnostics_bind, given]
  exact congrArg _ (diagnostics_map second _)

theorem Thins.joinedWith {fewer more furtherFewer furtherMore : Traced (List String)}
    (first : Thins List.Sublist fewer more) (second : Thins List.Sublist furtherFewer furtherMore) :
    Thins List.Sublist (fewer.joinedWith furtherFewer) (more.joinedWith furtherMore) := by
  intro tokens answer
  obtain ⟨before, behind, given, later, rfl⟩ := result_joinedWith_eq_ok.mp answer
  obtain ⟨kept, keeps, within, reports⟩ := first before given
  obtain ⟨rest, rests, restWithin, restReports⟩ := second behind later
  refine ⟨kept ++ rest, ?_, within.append restWithin, ?_⟩
  · exact result_joinedWith_eq_ok.mpr ⟨kept, rest, keeps, rests, rfl⟩
  · rw [diagnostics_joinedWith_of_ok keeps, diagnostics_joinedWith_of_ok given]
    exact reports.append restReports

end Traced

theorem sublist_unless {α : Type} {p q : Prop} [Decidable p] [Decidable q] {fewer more : List α}
    (implies : q → p) (within : fewer.Sublist more) :
    (if p then [] else fewer).Sublist (if q then [] else more) := by
  by_cases omitted : p
  · rw [if_pos omitted]
    exact List.nil_sublist _
  · rwa [if_neg omitted, if_neg (mt implies omitted)]

theorem sublist_when {α : Type} {p q : Prop} [Decidable p] [Decidable q] (implies : p → q)
    (kept : List α) : (if p then kept else []).Sublist (if q then kept else []) := by
  by_cases given : p
  · simp [given, implies given]
  · simp [given]

def LinkCommand.Trims (fewer more : LinkCommand) : Prop :=
  fewer.executable = more.executable ∧ fewer.args.Sublist more.args

/-! ## Further omissions -/

namespace Switch

inductive OmitsFromImage : Switch → Prop
  | noStdlib : OmitsFromImage .noStdlib
  | noStartFiles : OmitsFromImage .noStartFiles
  | noDefaultLibs : OmitsFromImage .noDefaultLibs
  | noLibc : OmitsFromImage .noLibc
  | noCxxStdlib : OmitsFromImage .noCxxStdlib

inductive OmitsHeaders : Switch → Prop
  | noStdInc : OmitsHeaders .noStdInc
  | noBuiltinInc : OmitsHeaders .noBuiltinInc
  | noStdlibInc : OmitsHeaders .noStdlibInc
  | noCxxInc : OmitsHeaders .noCxxInc

end Switch

namespace Config

def omitting (c : Config) (flags : List Switch) : Config :=
  c.edits (flags.map fun flag => .assign (.switch flag true))

theorem on_switch {c : Config} {f : Switch} (field : Switch) (on : c.isOn field = true) :
    (c.switch true f).isOn field = true := by
  rw [isOn_switch, on, ite_self]

theorem off_of_switch {c : Config} {f : Switch} (field : Switch)
    (off : (c.switch true f).isOn field = false) : c.isOn field = false := by
  rw [isOn_switch] at off
  split at off
  · cases off
  · exact off

theorem LinksRuntime.of_switch {c : Config} {f : Switch} (links : (c.switch true f).LinksRuntime) :
    c.LinksRuntime :=
  ⟨off_of_switch .noStdlib links.1, off_of_switch .noDefaultLibs links.2⟩

end Config

/-! ## Linking -/

section
variable {f : Switch} (omission : f.OmitsFromImage) {c : Config}
include omission

namespace Config

theorem LinksCxx.of_switch (links : (c.switch true f).LinksCxx) : c.LinksCxx := by
  obtain ⟨mode, noStdlib, noDefaultLibs, noCxxStdlib⟩ := links
  refine ⟨?_, off_of_switch .noStdlib noStdlib, off_of_switch .noDefaultLibs noDefaultLibs,
    off_of_switch .noCxxStdlib noCxxStdlib⟩
  cases omission <;> exact mode

theorem AsksForLibstdcxx.of_switch (asks : (c.switch true f).AsksForLibstdcxx) :
    c.AsksForLibstdcxx := by
  refine ⟨asks.1.of_switch omission, ?_⟩
  cases omission <;> exact asks.2

end Config

namespace LinkRule

theorem applies_of_switch {rule : LinkRule} (fires : rule.applies (c.switch true f) = true) :
    rule.applies c = true := by
  cases rule with
  | startFiles =>
    simp only [applies, Bool.not_eq_true', Bool.or_eq_false_iff] at fires ⊢
    exact ⟨Config.off_of_switch .noStdlib fires.1, Config.off_of_switch .noStartFiles fires.2⟩
  | defaultLibs =>
    rw [Config.linksRuntime_iff] at fires ⊢
    exact fires.of_switch
  | _ => cases omission <;> exact fires

theorem emit_switch (t : Toolchain) (linker : String) {rule : LinkRule}
    (other : rule ≠ .defaultLibs) :
    emit ⟨c.switch true f, t, linker⟩ rule = emit ⟨c, t, linker⟩ rule := by
  -- Whether there are startup objects is no matter of their tokens, but of the rule that applies.
  cases rule with
  | defaultLibs => exact absurd rfl other
  | _ => cases omission <;> rfl

theorem sublist_cxxGroup (c : Config) : (cxxGroup (c.switch true f)).Sublist (cxxGroup c) := by
  by_cases links : (c.switch true f).LinksCxx
  · have before := (Config.linksCxx_iff _).mpr (links.of_switch omission)
    have behind := (Config.linksCxx_iff _).mpr links
    rw [cxxGroup, cxxGroup, if_pos before, if_pos behind]
    cases omission <;> exact List.Sublist.refl _
  · rw [cxxGroup, if_neg (mt (Config.linksCxx_iff _).mp links)]
    exact List.nil_sublist _

theorem sublist_libraryTokens (c : Config) (triple : Triple) (directory : String) :
    (libraryTokens (c.switch true f) triple directory).Sublist
      (libraryTokens c triple directory) := by
  have binding : (c.switch true f).isStatic = c.isStatic := by cases omission <;> rfl
  have libc : (if (c.switch true f).noLibc then [] else ["-lc"]).Sublist
      (if c.noLibc then [] else ["-lc"]) :=
    sublist_unless (Config.on_switch .noLibc) (List.Sublist.refl _)
  rw [libraryTokens, libraryTokens, binding]
  exact (((List.Sublist.refl _).append (sublist_cxxGroup omission c)).append
    (List.Sublist.refl _)).append libc

theorem thins_defaultTokens (c : Config) (t : Toolchain) :
    Traced.Thins List.Sublist (defaultTokens (c.switch true f) t) (defaultTokens c t) := by
  intro tokens answer
  have accepts : ¬refusesCxx c = true := by
    intro refuses
    rw [result_defaultTokens, if_pos refuses] at answer
    cases answer
  have still : ¬refusesCxx (c.switch true f) = true := fun refuses =>
    accepts ((Config.refusesCxx_iff c).mpr
      (((Config.refusesCxx_iff _).mp refuses).of_switch omission))
  obtain ⟨directory, located, rfl⟩ := defaultTokens_ok answer
  refine ⟨_, ?_, sublist_libraryTokens omission c t.triple directory, ?_⟩
  · rw [result_defaultTokens, if_neg still, located]
    rfl
  · rw [diagnostics_defaultTokens, diagnostics_defaultTokens, if_neg accepts, if_neg still]
    have reports : (c.switch true f).cxxReports = c.cxxReports := by cases omission <;> rfl
    have runtime : (c.switch true f).runtimeReports = c.runtimeReports := by
      cases omission <;> rfl
    rw [reports, runtime]
    refine List.Sublist.append ?_ (List.Sublist.refl _)
    refine sublist_when (fun links => (Config.linksCxx_iff c).mpr ?_) c.cxxReports
    exact ((Config.linksCxx_iff _).mp links).of_switch omission

theorem thins_contribution (c : Config) (t : Toolchain) (linker : String) (rule : LinkRule) :
    Traced.Thins List.Sublist (contribution ⟨c.switch true f, t, linker⟩ rule)
      (contribution ⟨c, t, linker⟩ rule) := by
  by_cases fires : rule.applies (c.switch true f) = true
  · have emitted : contribution ⟨c.switch true f, t, linker⟩ rule =
        emit ⟨c.switch true f, t, linker⟩ rule := if_pos fires
    have before : contribution ⟨c, t, linker⟩ rule = emit ⟨c, t, linker⟩ rule :=
      if_pos (applies_of_switch omission fires)
    rw [emitted, before]
    by_cases libraries : rule = .defaultLibs
    · rw [libraries]
      exact thins_defaultTokens omission c t
    · rw [emit_switch omission t linker libraries]
      exact .refl List.Sublist.refl _
  · have silent : contribution ⟨c.switch true f, t, linker⟩ rule = pure [] := if_neg fires
    rw [silent]
    exact Traced.thins_pure_nil _

end LinkRule

namespace Linker

theorem thins_tokens (c : Config) (t : Toolchain) (linker : String) (rules : List LinkRule) :
    Traced.Thins List.Sublist (tokens ⟨c.switch true f, t, linker⟩ rules)
      (tokens ⟨c, t, linker⟩ rules) := by
  induction rules with
  | nil => exact .refl List.Sublist.refl _
  | cons rule rest ih =>
    rw [tokens_cons, tokens_cons]
    exact (LinkRule.thins_contribution omission c t linker rule).joinedWith ih

theorem context_of_switch (l : Linker) (c : Config) :
    (l.context (c.switch true f)).result =
      (l.context c).result.map fun ctx => { ctx with config := c.switch true f } := by
  have vain : ((c.switch true f).usesLto && (c.switch true f).inputs.isEmpty) =
      (c.usesLto && c.inputs.isEmpty) := by cases omission <;> rfl
  have lto : (c.switch true f).lto = c.lto := by cases omission <;> rfl
  have toolchain : l.toolchain.relocated (c.switch true f) = l.toolchain.relocated c := by
    cases omission <;> rfl
  have found (t : Toolchain) : t.findLinker (c.switch true f) = t.findLinker c := by
    cases omission <;> rfl
  rw [result_context, result_context, vain, lto, toolchain, found]
  split
  · rfl
  · cases (l.toolchain.relocated c).findLinker c <;> rfl

theorem thins_command (l : Linker) (c : Config) :
    Traced.Thins LinkCommand.Trims (l.command (c.switch true f)) (l.command c) := by
  intro command linked
  have context := context_of_switch omission l c
  rw [result_command] at linked
  obtain ⟨ctx, given, linked⟩ := exists_of_bind_ok linked
  obtain ⟨args, built, linked⟩ := exists_of_bind_ok linked
  cases linked
  obtain ⟨-, rfl, -⟩ := l.eq_of_context_ok c given
  obtain ⟨fewer, trimmed, within, reports⟩ :=
    thins_tokens omission ctx.config ctx.toolchain ctx.linker l.rules args built
  rw [given] at context
  refine ⟨⟨ctx.linker, fewer⟩, ?_, ⟨rfl, within⟩, ?_⟩
  · rw [result_command, context]
    change ((tokens ⟨ctx.config.switch true f, _, _⟩ l.rules).result >>= _) = _
    rw [trimmed]
    rfl
  · rw [diagnostics_command, diagnostics_command, given, context]
    exact reports

end Linker

theorem Toolchain.link_error_of_switch {t : Toolchain} (complete : t.settings.Complete)
    {fault : Fault} (failed : (t.link (c.switch true f)).result = .error fault) :
    (t.link c).result = .error fault := by
  have lto : (c.switch true f).lto = c.lto := by cases omission <;> rfl
  have vain : (c.switch true f).OptimisesNothing ↔ c.OptimisesNothing := by
    cases omission <;> exact Iff.rfl
  rw [← failed]
  rcases link_cases complete (c.switch true f) with
    ⟨nothing, fails⟩ | ⟨⟨worth, asks⟩, fails⟩ | ⟨-, command, links⟩
  · rw [(Prod.mk.inj fails).1, lto]
    exact (link_optimisesNothing_iff complete c).mpr (vain.mp nothing)
  · rw [(Prod.mk.inj fails).1]
    exact (link_asksForLibstdcxx_iff complete c).mpr
      ⟨mt vain.mpr worth, asks.of_switch omission⟩
  · cases failed.symm.trans (Prod.mk.inj links).1

end

/-! ## Compiling -/

section
variable {f : Switch} (omission : f.OmitsHeaders) {c : Config}
include omission

theorem Config.wantsCxxHeaders_of_switch (wanted : (c.switch true f).wantsCxxHeaders = true) :
    c.wantsCxxHeaders = true := by
  simp only [wantsCxxHeaders, Bool.and_eq_true, Bool.not_eq_true', Bool.or_eq_false_iff] at wanted ⊢
  obtain ⟨mode, ⟨noStdInc, noStdlibInc⟩, noCxxInc⟩ := wanted
  refine ⟨?_, ⟨off_of_switch .noStdInc noStdInc, off_of_switch .noStdlibInc noStdlibInc⟩,
    off_of_switch .noCxxInc noCxxInc⟩
  cases omission <;> exact mode

theorem sublist_systemHeaders (c : Config) (resources : String) :
    (systemHeaders (c.switch true f) resources).Sublist (systemHeaders c resources) := by
  have sysroot : (c.switch true f).sysroot = c.sysroot := by cases omission <;> rfl
  rw [systemHeaders, systemHeaders, sysroot]
  refine sublist_unless (Config.on_switch .noStdInc) (List.Sublist.append ?_ ?_)
  · exact sublist_unless (Config.on_switch .noBuiltinInc) (List.Sublist.refl _)
  · exact sublist_unless (Or.imp_left (Config.on_switch .noStdlibInc)) (List.Sublist.refl _)

namespace Toolchain

theorem diagnostics_compileArgs_sublist (t : Toolchain) (c : Config) :
    (t.compileArgs (c.switch true f)).diagnostics.Sublist (t.compileArgs c).diagnostics := by
  have reports : (c.switch true f).cxxReports = c.cxxReports := by cases omission <;> rfl
  rw [diagnostics_compileArgs, diagnostics_compileArgs, diagnostics_modeHeaders,
    diagnostics_modeHeaders, reports]
  exact sublist_when (Config.wantsCxxHeaders_of_switch omission) c.cxxReports

theorem modeHeaders_of_switch (t : Toolchain) {cxx : List String}
    (given : (t.modeHeaders c).result = .ok cxx) :
    ∃ fewer, (t.modeHeaders (c.switch true f)).result = .ok fewer ∧ fewer.Sublist cxx := by
  have asked : (c.switch true f).cxxStdlib = c.cxxStdlib := by cases omission <;> rfl
  have sysroot : (c.switch true f).sysroot = c.sysroot := by cases omission <;> rfl
  by_cases wanted : (c.switch true f).wantsCxxHeaders = true
  · have same : (t.modeHeaders (c.switch true f)).result = (t.modeHeaders c).result := by
      rw [result_modeHeaders, result_modeHeaders, asked, sysroot, wanted,
        Config.wantsCxxHeaders_of_switch omission wanted]
    exact ⟨cxx, same.trans given, List.Sublist.refl _⟩
  · rw [t.modeHeaders_of_unwanted wanted]
    exact ⟨[], rfl, List.nil_sublist _⟩

theorem thins_compileArgs (t : Toolchain) (c : Config) :
    Traced.Thins List.Sublist (t.compileArgs (c.switch true f)) (t.compileArgs c) := by
  have options : targetOptions (c.switch true f) = targetOptions c := by cases omission <;> rfl
  intro args given
  rw [result_compileArgs] at given
  obtain ⟨cxx, headers, given⟩ := exists_of_bind_ok given
  obtain ⟨system, located, given⟩ := exists_of_bind_ok given
  cases given
  obtain ⟨directory, resources, located⟩ := exists_of_bind_ok located
  cases located
  obtain ⟨fewer, keeps, within⟩ := modeHeaders_of_switch omission t headers
  have rest := sublist_systemHeaders omission c directory
  refine ⟨["-triple", t.triple.text] ++ targetOptions c ++ headerArgs fewer ++
    headerArgs (CrossDriver.systemHeaders (c.switch true f) directory), ?_, ?_,
    diagnostics_compileArgs_sublist omission t c⟩
  · rw [result_compileArgs, keeps, systemHeaders, resources, options]
    rfl
  · exact ((List.Sublist.refl _).append (within.flatMap _)).append (rest.flatMap _)

theorem compileArgs_error_of_switch {t : Toolchain} (complete : t.settings.Complete)
    {fault : Fault} (failed : (t.compileArgs (c.switch true f)).result = .error fault) :
    (t.compileArgs c).result = .error fault := by
  obtain ⟨directory, resources⟩ : ∃ directory, t.resourceDir = .ok directory :=
    complete.resourceDirectory_ok
  have asked : (c.switch true f).cxxStdlib = c.cxxStdlib := by cases omission <;> rfl
  rw [result_compileArgs, systemHeaders, resources] at failed
  cases headers : (t.modeHeaders (c.switch true f)).result with
  | ok cxx =>
    rw [headers] at failed
    cases failed
  | error reason =>
    rw [headers] at failed
    cases failed
    rw [result_modeHeaders, asked] at headers
    split at headers
    · next refused =>
      cases headers
      have still := Config.wantsCxxHeaders_of_switch omission refused.1
      rw [result_compileArgs, result_modeHeaders, if_pos ⟨still, refused.2⟩]
      rfl
    · cases headers

end Toolchain
end

/-! ## Any number of omissions -/

/-- What one more omission does to an outcome, any number of them does. -/
theorem Config.omitting_induction {motive : Config → Config → Prop} (refl : ∀ c, motive c c)
    (trans : ∀ {c d e}, motive c d → motive d e → motive c e) {flags : List Switch}
    (step : ∀ f ∈ flags, ∀ c, motive (c.switch true f) c) (c : Config) :
    motive (c.omitting flags) c := by
  induction flags generalizing c with
  | nil => exact refl c
  | cons f more ih =>
    obtain ⟨once, others⟩ := List.forall_mem_cons.mp step
    exact trans (ih others (c.switch true f)) (once c)

theorem LinkCommand.Trims.refl (command : LinkCommand) : command.Trims command :=
  ⟨rfl, List.Sublist.refl _⟩

theorem LinkCommand.Trims.trans {least fewer more : LinkCommand} (first : least.Trims fewer)
    (second : fewer.Trims more) : least.Trims more :=
  ⟨first.1.trans second.1, first.2.trans second.2⟩

namespace Toolchain

/-- One configuration links whenever another does, with some of its arguments and reports; with
complete settings it fails for no other reason. -/
structure LinksLess (t : Toolchain) (d c : Config) : Prop where
  thins : Traced.Thins LinkCommand.Trims (t.link d) (t.link c)
  faults : t.settings.Complete →
    ∀ fault, (t.link d).result = .error fault → (t.link c).result = .error fault

structure CompilesLess (t : Toolchain) (d c : Config) : Prop where
  thins : Traced.Thins List.Sublist (t.compileArgs d) (t.compileArgs c)
  reports : (t.compileArgs d).diagnostics.Sublist (t.compileArgs c).diagnostics
  faults : t.settings.Complete →
    ∀ fault, (t.compileArgs d).result = .error fault → (t.compileArgs c).result = .error fault

variable {t : Toolchain} {c d e : Config}

theorem LinksLess.refl (c : Config) : t.LinksLess c c where
  thins := .refl LinkCommand.Trims.refl _
  faults _ _ := id

theorem LinksLess.trans (first : t.LinksLess c d) (second : t.LinksLess d e) : t.LinksLess c e where
  thins := first.thins.trans .trans second.thins
  faults complete fault failed :=
    second.faults complete fault (first.faults complete fault failed)

theorem linksLess_switch {f : Switch} (omission : f.OmitsFromImage) (c : Config) :
    t.LinksLess (c.switch true f) c where
  thins := Linker.thins_command omission { toolchain := t } c
  faults complete _ := link_error_of_switch omission complete

theorem CompilesLess.refl (c : Config) : t.CompilesLess c c where
  thins := .refl List.Sublist.refl _
  reports := List.Sublist.refl _
  faults _ _ := id

theorem CompilesLess.trans (first : t.CompilesLess c d) (second : t.CompilesLess d e) :
    t.CompilesLess c e where
  thins := first.thins.trans .trans second.thins
  reports := first.reports.trans second.reports
  faults complete fault failed :=
    second.faults complete fault (first.faults complete fault failed)

theorem compilesLess_switch {f : Switch} (omission : f.OmitsHeaders) (c : Config) :
    t.CompilesLess (c.switch true f) c where
  thins := thins_compileArgs omission t c
  reports := diagnostics_compileArgs_sublist omission t c
  faults complete _ := compileArgs_error_of_switch omission complete

theorem less_of_omissions (t : Toolchain) (c : Config) (flags : List Switch) :
    ((∀ f ∈ flags, f.OmitsFromImage) → t.LinksLess (c.omitting flags) c) ∧
      ((∀ f ∈ flags, f.OmitsHeaders) → t.CompilesLess (c.omitting flags) c) := by
  constructor
  · intro omissions
    exact Config.omitting_induction LinksLess.refl LinksLess.trans
      (fun f mem => linksLess_switch (omissions f mem)) c
  · intro omissions
    exact Config.omitting_induction CompilesLess.refl CompilesLess.trans
      (fun f mem => compilesLess_switch (omissions f mem)) c

theorem less_of_omissions_cxx :
    let t : Toolchain := ⟨{}, ⟨"x86_64", "unknown", "kush", ""⟩, "", fun _ => false, 0⟩
    let c : Config := { cxx := true, rtlib := some "libgcc", inputs := ["a.o"] }
    let e : Config := { cxx := true, cxxStdlib := some "libstdc++" }
    (t.LinksLess (c.omitting [.noStartFiles, .noLibc]) c ∧
      (t.link (c.omitting [.noStartFiles, .noLibc])).result = .ok ⟨"ld.lld", ["-znorelro",
        "-dynamic-linker", "/sbin/ldyldo", "--enable-new-dtags", "-o", "a.out", "a.o",
        "--push-state", "--as-needed", "-lc++abi", "-lc++", "-lunwind", "-lopenlibm", "--pop-state",
        "/usr/lib/clang/17/lib/kush/libclang_rt.builtins-x86_64.a"]⟩) ∧
      t.CompilesLess (e.omitting [.noCxxInc]) e ∧
      (t.compileArgs e).result = .error (.unsupportedCxxLibrary .libstdcxx) ∧
      (t.compileArgs (e.omitting [.noCxxInc])).result = .ok ["-triple", "x86_64-unknown-kush",
        "-ffunction-sections", "-fdata-sections", "-internal-isystem",
        "/usr/lib/clang/17/include"] := by
  intro t c e
  have linking := (less_of_omissions t c [.noStartFiles, .noLibc]).1
    (by simp [Switch.OmitsFromImage.noStartFiles, Switch.OmitsFromImage.noLibc])
  have compiling := (less_of_omissions t e [.noCxxInc]).2 (by simp [Switch.OmitsHeaders.noCxxInc])
  exact ⟨⟨linking, by decide +kernel⟩, compiling, by decide +kernel, by decide +kernel⟩

end Toolchain

end CrossDriver
