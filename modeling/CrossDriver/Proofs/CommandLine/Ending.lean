import Mathlib
import CrossDriver.Proofs.CommandLine.SettingsFile
import CrossDriver.Proofs.CommandLine.Target
import CrossDriver.Proofs.Link.Lacking
import CrossDriver.Proofs.Toolchain.CompileArgs

namespace CrossDriver

namespace Toolchain
open Config

theorem systemHeaders_cases (t : Toolchain) (c : Config) :
    (t.settings.LacksResources ∧ t.systemHeaders c = .error .absentPath) ∨
      (¬t.settings.LacksResources ∧ ∃ headers, t.systemHeaders c = .ok headers) := by
  rw [systemHeaders, resourceDir]
  rcases t.settings.resourceDirectory_cases with ⟨lacks, located⟩ | ⟨given, dir, located⟩
  · exact .inl ⟨lacks, by rw [located]; rfl⟩
  · exact .inr ⟨given, _, by rw [located]; rfl⟩

theorem result_compileArgs_cases (t : Toolchain) (c : Config) :
    (c.RefusesHeaders ∧
      (t.compileArgs c).result = .error (.unsupportedCxxLibrary .libstdcxx)) ∨
    ((¬c.RefusesHeaders ∧ t.settings.LacksResources) ∧
      (t.compileArgs c).result = .error .absentPath) ∨
    ((¬c.RefusesHeaders ∧ ¬t.settings.LacksResources) ∧
      ∃ args, (t.compileArgs c).result = .ok args) := by
  rw [result_compileArgs, result_modeHeaders]
  unfold RefusesHeaders
  by_cases refuses : c.wantsCxxHeaders = true ∧ c.cxxStdlib = some "libstdc++"
  · rw [if_pos refuses]
    exact .inl ⟨refuses, rfl⟩
  · rw [if_neg refuses]
    rcases t.systemHeaders_cases c with ⟨lacks, system⟩ | ⟨given, headers, system⟩
    · exact .inr (.inl ⟨⟨refuses, lacks⟩, by rw [system]; rfl⟩)
    · exact .inr (.inr ⟨⟨refuses, given⟩, _, by rw [system]; rfl⟩)

end Toolchain

namespace CommandLine
open Config

/-! ## What is lacking -/

def LacksDriverTarget (settings : Settings) (r : Request) : Prop :=
  (settings.triple = none ∧
      (targets r.arguments).getLast?.getD Triple.defaultText = Triple.defaultText) ∧
    ∃ parsed, (parse r.arguments r.cxx false).result = .ok parsed

namespace Command

def LacksTarget (settings : Settings) (r : Request) : Command → Prop
  | .link | .cc1 => LacksDriverTarget settings r
  | .paths => settings.triple = none ∧ Settings.nonEmpty? r.target = none

def LacksPath (world : World) (settings : Settings) (r : Request) : Command → Prop
  | .link => ∃ c t, (prepare world r).result = .ok (c, t) ∧ ¬c.OptimisesNothing ∧ t.LacksForLink c
  | .cc1 => settings.LacksResources ∧
      ∃ c t, (prepare world r).result = .ok (c, t) ∧ ¬c.RefusesHeaders
  | .paths => settings.LacksResources ∧
      ∃ t, (Toolchain.find (pathsConfig settings r) settings world.present (some engine)).result =
        .ok t

end Command

/-! ## Jobs -/

theorem triple_withTarget_eq_none_iff (settings : Settings) {argv : List String}
    {cxx pieDefault : Bool} {parsed : Config}
    (read : (parse argv cxx pieDefault).result = .ok parsed) :
    (withTarget settings parsed).triple = none ↔ settings.triple = none ∧
      (targets argv).getLast?.getD Triple.defaultText = Triple.defaultText := by
  rw [triple_withTarget settings read]
  split
  case isTrue built_in => simp [built_in]
  case isFalse other =>
    cases last : (targets argv).getLast? with
    | none => simp [last] at other
    | some target =>
      rw [last, Option.getD_some] at other
      simp [other]

theorem find_cases (c : Config) (settings : Settings) (present : String → Bool) :
    let found := (Toolchain.find c settings present (some engine)).result
    (c.triple = none ∧ found = .error .absentTriple) ∨
    (c.triple ≠ none ∧ ∃ fault, found = .error fault ∧ fault.family = .configuration) ∨
    (c.triple ≠ none ∧ ∃ t, found = .ok t ∧ t.settings = settings) := by
  have found := Toolchain.result_find c settings present (some engine) 0
  rw [Config.target] at found
  cases given : c.triple with
  | none =>
    rw [given] at found
    exact .inl ⟨rfl, found⟩
  | some text =>
    simp only [given, bind, Except.bind] at found
    by_cases served : (Triple.parse text).os = "kush"
    · rw [if_pos served] at found
      exact .inr (.inr ⟨Option.some_ne_none text, _, found, rfl⟩)
    · rw [if_neg served] at found
      exact .inr (.inl ⟨Option.some_ne_none text, _, found, rfl⟩)

theorem result_prepare_cases {world : World} {r : Request} {settings : Settings}
    (loaded : (loadSettings world r).result = .ok settings) :
    (LacksDriverTarget settings r ∧ (prepare world r).result = .error .absentTriple) ∨
    (¬LacksDriverTarget settings r ∧ ∃ fault, (prepare world r).result = .error fault ∧
      fault.family = .configuration) ∨
    (¬LacksDriverTarget settings r ∧ ∃ c t, (prepare world r).result = .ok (c, t) ∧
      t.settings = settings) := by
  have job : (prepare world r).result =
      (parse r.arguments r.cxx false).result >>= fun parsed =>
        (Toolchain.find (withTarget settings parsed) settings world.present
            (some engine)).result >>= fun t =>
          .ok (withTarget settings parsed, t) := by
    rw [result_prepare, loaded]
    rfl
  cases missing : (OptionLookup.standard.scan r.arguments).findSome? ArgItem.missingValue? with
  | some spelling =>
    have fails : (parse r.arguments r.cxx false).result = .error (.missingValue spelling) :=
      result_parse_eq_missing_iff.mpr missing
    rw [fails] at job
    refine .inr (.inl ⟨?_, _, job, rfl⟩)
    rintro ⟨-, parsed, read⟩
    cases fails.symm.trans read
  | none =>
    obtain ⟨parsed, read⟩ : ∃ parsed, (parse r.arguments r.cxx false).result = .ok parsed :=
      ⟨_, result_parse_eq_ok_iff.mpr ⟨missing, rfl⟩⟩
    have aimless := triple_withTarget_eq_none_iff settings read
    rw [read] at job
    change _ = ((Toolchain.find (withTarget settings parsed) settings world.present
      (some engine)).result >>= _) at job
    rcases find_cases (withTarget settings parsed) settings world.present with
      ⟨absent, found⟩ | ⟨given, fault, found, mendable⟩ | ⟨given, t, found, same⟩
    · rw [found] at job
      exact .inl ⟨⟨aimless.mp absent, parsed, read⟩, job⟩
    · rw [found] at job
      exact .inr (.inl ⟨fun lacks => given (aimless.mpr lacks.1), fault, job, mendable⟩)
    · rw [found] at job
      exact .inr (.inr ⟨fun lacks => given (aimless.mpr lacks.1), _, t, job, same⟩)

inductive ComesTo (target path : Prop) : Except Fault Unit → Prop
  | aimless (lacks : target) (located : ¬path) : ComesTo target path (.error .absentTriple)
  | pathless (aimed : ¬target) (lacks : path) : ComesTo target path (.error .absentPath)
  | told (aimed : ¬target) (located : ¬path) {fault : Fault}
      (mendable : fault.family = .configuration) : ComesTo target path (.error fault)
  | refused (aimed : ¬target) (located : ¬path) :
      ComesTo target path (.error (.unsupportedCxxLibrary .libstdcxx))
  | answered (aimed : ¬target) (located : ¬path) : ComesTo target path (.ok ())

namespace ComesTo

variable {target path : Prop} {answer : Except Fault Unit} (comes : ComesTo target path answer)
include comes

theorem eq_absentTriple_iff : answer = .error .absentTriple ↔ target := by
  cases comes with
  | aimless lacks _ => exact iff_of_true rfl lacks
  | pathless aimed _ | refused aimed _ | answered aimed _ => exact iff_of_false nofun aimed
  | told aimed _ mendable =>
    refine iff_of_false (fun same => ?_) aimed
    cases same
    cases mendable

theorem eq_absentPath_iff : answer = .error .absentPath ↔ path := by
  cases comes with
  | pathless _ lacks => exact iff_of_true rfl lacks
  | aimless _ located | refused _ located | answered _ located =>
    exact iff_of_false nofun located
  | told _ located mendable =>
    refine iff_of_false (fun same => ?_) located
    cases same
    cases mendable

theorem eq_of_stray {fault : Fault} (failed : answer = .error fault)
    (stray : isCaught fault = false) :
    fault = .unsupportedCxxLibrary .libstdcxx ∨ fault = .absentTriple ∨ fault = .absentPath := by
  cases comes with
  | aimless _ _ => exact .inr (.inl (Except.error.inj failed).symm)
  | pathless _ _ => exact .inr (.inr (Except.error.inj failed).symm)
  | refused _ _ => exact .inl (Except.error.inj failed).symm
  | told _ _ mendable =>
    cases failed
    exact absurd (isCaught_of_configuration mendable) (Bool.eq_false_iff.mp stray)
  | answered _ _ => cases failed

end ComesTo

namespace Command

section
variable {world : World} {r : Request} {c : Config} {t : Toolchain}
  (prepared : (prepare world r).result = .ok (c, t))
include prepared

theorem exists_prepared_iff {P : Config → Toolchain → Prop} :
    (∃ c t, (prepare world r).result = .ok (c, t) ∧ P c t) ↔ P c t := by
  constructor
  · rintro ⟨c', t', other, given⟩
    cases prepared.symm.trans other
    exact given
  · exact fun given => ⟨c, t, prepared, given⟩

theorem answer_link_of_prepared :
    link.answer world r = (t.link c).result.map fun _ => () := by
  rw [answer, result_linkJob, prepared]
  change Except.map _ ((t.link c).result >>= _) = _
  cases (t.link c).result <;> rfl

theorem answer_cc1_of_prepared :
    cc1.answer world r = (t.compileArgs c).result.map fun _ => () := by
  rw [answer, result_compileJob, prepared]
  rfl

end

theorem cxxHeaders_pathsConfig (t : Toolchain) (settings : Settings) (r : Request) :
    ∃ directories, (t.cxxHeaders (pathsConfig settings r)).result = .ok directories := by
  have mode : t.modeHeaders (pathsConfig settings r) = t.cxxHeaders (pathsConfig settings r) :=
    if_pos rfl
  have unnamed : ¬((pathsConfig settings r).wantsCxxHeaders = true ∧
      (pathsConfig settings r).cxxStdlib = some "libstdc++") := by
    simp [pathsConfig]
  rw [← mode, Toolchain.result_modeHeaders, if_neg unnamed]
  exact ⟨_, rfl⟩

section
variable {world : World} {r : Request} {settings : Settings}
  (loaded : (loadSettings world r).result = .ok settings)
include loaded

theorem comesTo_link :
    ComesTo (link.LacksTarget settings r) (link.LacksPath world settings r)
      (link.answer world r) := by
  rw [LacksTarget, LacksPath]
  rcases result_prepare_cases loaded with
    ⟨lacks, prepared⟩ | ⟨aimed, fault, prepared, mendable⟩ | ⟨aimed, c, t, prepared, -⟩
  · rw [answer, result_linkJob, prepared]
    exact .aimless lacks (by simp)
  · rw [answer, result_linkJob, prepared]
    exact .told aimed (by simp) mendable
  · rw [exists_prepared_iff prepared, answer_link_of_prepared prepared]
    rcases t.result_link_cases c with ⟨vain, link⟩ | ⟨lacks, link⟩ |
      ⟨⟨⟨worth, whole⟩, -⟩, link⟩ | ⟨⟨⟨worth, whole⟩, -⟩, command, link⟩
    · rw [link]
      exact .told aimed (fun lacks => lacks.1 vain) rfl
    · rw [link]
      exact .pathless aimed lacks
    · rw [link]
      exact .refused aimed fun lacks => whole lacks.2
    · rw [link]
      exact .answered aimed fun lacks => whole lacks.2

theorem comesTo_cc1 :
    ComesTo (cc1.LacksTarget settings r) (cc1.LacksPath world settings r)
      (cc1.answer world r) := by
  rw [LacksTarget, LacksPath]
  rcases result_prepare_cases loaded with
    ⟨lacks, prepared⟩ | ⟨aimed, fault, prepared, mendable⟩ | ⟨aimed, c, t, prepared, same⟩
  · rw [answer, result_compileJob, prepared]
    exact .aimless lacks (by simp)
  · rw [answer, result_compileJob, prepared]
    exact .told aimed (by simp) mendable
  · rw [exists_prepared_iff prepared, answer_cc1_of_prepared prepared, ← same]
    rw [← same] at aimed
    rcases t.result_compileArgs_cases c with
      ⟨refuses, args⟩ | ⟨⟨accepts, lacks⟩, args⟩ | ⟨⟨accepts, whole⟩, made, args⟩
    · rw [args]
      exact .refused aimed fun lacks => lacks.2 refuses
    · rw [args]
      exact .pathless aimed ⟨lacks, accepts⟩
    · rw [args]
      exact .answered aimed fun lacks => whole lacks.1

theorem comesTo_paths :
    ComesTo (paths.LacksTarget settings r) (paths.LacksPath world settings r)
      (paths.answer world r) := by
  rw [LacksTarget, LacksPath]
  have target : (pathsConfig settings r).triple = none ↔
      settings.triple = none ∧ Settings.nonEmpty? r.target = none := by
    simp [pathsConfig, Option.or_eq_none_iff, and_comm]
  have job : paths.answer world r =
      ((Toolchain.find (pathsConfig settings r) settings world.present
          (some engine)).result >>= fun t =>
        t.systemHeaders (pathsConfig settings r)).map fun _ => () := by
    rw [answer, result_pathsJob, loaded]
    change Except.map _ ((Toolchain.find (pathsConfig settings r) settings world.present
      (some engine)).result >>= _) = _
    cases (Toolchain.find (pathsConfig settings r) settings world.present (some engine)).result with
    | error fault => rfl
    | ok t =>
      obtain ⟨directories, headers⟩ := cxxHeaders_pathsConfig t settings r
      simp only [bind, Except.bind, headers]
      cases t.systemHeaders (pathsConfig settings r) <;> rfl
  rw [job]
  rcases find_cases (pathsConfig settings r) settings world.present with
    ⟨absent, found⟩ | ⟨given, fault, found, mendable⟩ | ⟨given, t, found, same⟩
  · rw [found]
    exact .aimless (target.mp absent) (by simp)
  · rw [found]
    exact .told (mt target.mpr given) (by simp) mendable
  · rw [found]
    change ComesTo _ _ ((t.systemHeaders (pathsConfig settings r)).map fun _ => ())
    rcases t.systemHeaders_cases (pathsConfig settings r) with ⟨lacks, system⟩ | ⟨whole, _, system⟩
    · rw [system]
      exact .pathless (mt target.mpr given) ⟨same ▸ lacks, t, rfl⟩
    · rw [system]
      exact .answered (mt target.mpr given) fun lacks => whole (same.symm ▸ lacks.1)

theorem comesTo (command : Command) :
    ComesTo (command.LacksTarget settings r) (command.LacksPath world settings r)
      (command.answer world r) := by
  cases command with
  | link => exact comesTo_link loaded
  | cc1 => exact comesTo_cc1 loaded
  | paths => exact comesTo_paths loaded

theorem ending_run_cases (command : Command) :
    let ending := (command.run world r).ending
    ending = .exit 0 ∨ ending = .exit 1 ∨
      ending = .uncaught (.unsupportedCxxLibrary .libstdcxx) ∨
      ending = .uncaught .absentTriple ∨ ending = .uncaught .absentPath := by
  intro ending
  cases given : command.answer world r with
  | ok answer =>
    obtain ⟨code, le_one, ends⟩ := ending_run_of_ok given
    match code, le_one with
    | 0, _ => exact .inl ends
    | 1, _ => exact .inr (.inl ends)
  | error fault =>
    cases caught : isCaught fault with
    | true =>
      have ends := ending_run_of_error given
      rw [if_pos caught] at ends
      exact .inr (.inl ends)
    | false =>
      have ends := ending_run_eq_uncaught_iff.mpr ⟨given, caught⟩
      rcases (comesTo loaded command).eq_of_stray given caught with rfl | rfl | rfl
      · exact .inr (.inr (.inl ends))
      · exact .inr (.inr (.inr (.inl ends)))
      · exact .inr (.inr (.inr (.inr ends)))

end

end Command

/-! ## Endings -/

theorem absent_of_lacksResources {settings : Settings} (lacks : settings.LacksResources) :
    ∃ key ∈ [Settings.Key.installDir, .clangVersion, .linker], settings.get key = none := by
  rcases lacks.2 with absent | absent
  · exact ⟨.installDir, by decide, absent⟩
  · exact ⟨.clangVersion, by decide, absent⟩

theorem absent_of_lacksForLink {t : Toolchain} {c : Config} (lacks : t.LacksForLink c) :
    ∃ key ∈ [Settings.Key.installDir, .clangVersion, .linker], t.settings.get key = none := by
  cases lacks with
  | linker lacks =>
    rcases lacks with absent | ⟨absent, -⟩
    · refine ⟨.linker, by decide, ?_⟩
      rw [Toolchain.requestedLinker] at absent
      split at absent
      · cases absent
      · exact absent
    · exact ⟨.installDir, by decide, absent⟩
  | plugin _ _ _ absent => exact ⟨.installDir, by decide, absent⟩
  | resources _ _ lacks => exact absent_of_lacksResources lacks

theorem absent_of_lacksPath {world : World} {r : Request} {settings : Settings}
    (loaded : (loadSettings world r).result = .ok settings) {command : Command}
    (lacks : command.LacksPath world settings r) :
    ∃ key ∈ [Settings.Key.installDir, .clangVersion, .linker], settings.get key = none := by
  cases command with
  | link =>
    obtain ⟨c, t, prepared, -, lacks⟩ := lacks
    rcases result_prepare_cases loaded with
      ⟨-, fails⟩ | ⟨-, fault, fails, -⟩ | ⟨-, c', t', other, same⟩
    · cases prepared.symm.trans fails
    · cases prepared.symm.trans fails
    · cases prepared.symm.trans other
      exact same ▸ absent_of_lacksForLink lacks
  | cc1 => exact absent_of_lacksResources lacks.1
  | paths => exact absent_of_lacksResources lacks.1

theorem absent_of_lacksTarget {settings : Settings} {r : Request} {command : Command}
    (lacks : command.LacksTarget settings r) : settings.get .triple = none := by
  cases command with
  | link | cc1 => exact lacks.1.1
  | paths => exact lacks.1

theorem close_of_lookUp_error {world : World} {r : Request} {path : String}
    (named : r.config = some (some path)) {fault : Fault} (stray : isCaught fault = false)
    (failed : Settings.lookUp world.files path world.limits = .error fault) (command : Command) :
    ((command.run world r).written world.encodes).close = .ended (.uncaught fault) :=
  Command.close_run_eq_uncaught_iff.mpr
    ⟨command.answer_of_loadSettings_error (loadSettings_of_lookUp_error named failed), stray⟩

theorem close_run_cases {world : World} {r : Request} {settings : Settings}
    (loaded : (loadSettings world r).result = .ok settings) (command : Command) :
    let close := ((command.run world r).written world.encodes).close
    (∃ text, close = .unencodable text) ∨ close = .ended (.exit 0) ∨ close = .ended (.exit 1) ∨
      close = .ended (.uncaught (.unsupportedCxxLibrary .libstdcxx)) ∨
      close = .ended (.uncaught .absentTriple) ∨ close = .ended (.uncaught .absentPath) := by
  intro close
  cases closed : close with
  | unencodable text => exact .inl ⟨text, rfl⟩
  | ended ending =>
    rw [← (Outcome.close_written_eq_ended_iff.mp closed).1]
    simpa using Command.ending_run_cases loaded command

/-- With a settings file that is an object a run ends with an exit code, or at a library that is not
supported, or where an entry that it needs is left empty by the file. Otherwise the reader does not
get through the file, or the standard output does not take what is to be printed. -/
theorem run_ending_of_object {world : World} {args : List String} {command : Command} {r : Request}
    (asked : Invocation.ofArgs args world.keepsMark = .run command r) {path : String}
    (named : r.config = some (some path)) {cs : List Char}
    (holds : Settings.Holds world.files path cs) {room : Json.Limits} {members : Table Json}
    (object : Json.read cs room = .ok (.object members)) :
    let settings := Settings.settled world.environment members
    let close := (written world args).close
    let read := Json.read cs world.limits
    (close = .ended (.exit 0) ∨ close = .ended (.exit 1) ∨
      close = .ended (.uncaught (.unsupportedCxxLibrary .libstdcxx)) ∨
      close = .ended (.uncaught .absentTriple) ∨ close = .ended (.uncaught .absentPath) ∨
      close = .ended (.uncaught .settingsTooDeep) ∨
      (∃ excess, close = .ended (.uncaught (.settingsLongInteger excess))) ∨
      ∃ text, close = .unencodable text) ∧
    (read = .ok (.object members) ∨ read = .error .tooDeep ∨
      ∃ excess, read = .error (.longInteger excess)) ∧
    (close = .ended (.uncaught .settingsTooDeep) ↔ read = .error .tooDeep) ∧
    (∀ excess, close = .ended (.uncaught (.settingsLongInteger excess)) ↔
      read = .error (.longInteger excess)) ∧
    ((∃ text, close = .unencodable text) ↔
      ∃ text ∈ (run world args).printed, world.encodes text = false) ∧
    (close = .ended (.uncaught .absentTriple) ↔
      read = .ok (.object members) ∧ command.LacksTarget settings r) ∧
    (close = .ended (.uncaught .absentPath) ↔
      read = .ok (.object members) ∧ command.LacksPath world settings r) ∧
    (command.LacksTarget settings r → Settings.Vacant world.environment members .triple) ∧
    (read = .ok (.object members) → command.LacksPath world settings r →
      ∃ key ∈ [Settings.Key.installDir, .clangVersion, .linker],
        Settings.Vacant world.environment members key) := by
  intro settings close read
  have unique := Json.nodup_keys_of_read object
  have looked := Settings.lookUp_of_holds holds world.limits
  have runs : close = ((command.run world r).written world.encodes).close :=
    congrArg (fun o : Outcome => (o.written world.encodes).close) (run_of_asked asked)
  have printed : (∃ text, close = .unencodable text) ↔
      ∃ text ∈ (run world args).printed, world.encodes text = false :=
    Outcome.exists_unencodable_iff
  have aimless (lacks : command.LacksTarget settings r) :
      Settings.Vacant world.environment members .triple :=
    Settings.vacant_of_get_settled unique (by decide) (absent_of_lacksTarget lacks)
  -- Within the limits of the surroundings the same object is read, or one of them is met.
  rcases Json.read_cases_of_ok object world.limits with given | stopped | ⟨excess, stopped⟩
  · rw [given] at looked
    have loaded := loadSettings_of_lookUp_ok named looked
    have comes := Command.comesTo loaded command
    have uncaught (fault : Fault) : close = .ended (.uncaught fault) ↔
        command.answer world r = .error fault ∧ isCaught fault = false := by
      rw [runs]
      exact Command.close_run_eq_uncaught_iff
    have foreign {fault : Fault} (closed : close = .ended (.uncaught fault)) :
        fault = .unsupportedCxxLibrary .libstdcxx ∨ fault = .absentTriple ∨ fault = .absentPath :=
      comes.eq_of_stray ((uncaught fault).mp closed).1 ((uncaught fault).mp closed).2
    have endings := close_run_cases loaded command
    rw [← runs] at endings
    have read_ok : read = .ok (.object members) := given
    refine ⟨by grind, .inl read_ok, ?_, fun excess => ?_, printed, ?_, ?_, aimless,
      fun _ lacks => ?_⟩
    · exact iff_of_false (fun closed => by simpa using foreign closed) (by simp [read_ok])
    · exact iff_of_false (fun closed => by simpa using foreign closed) (by simp [read_ok])
    · rw [uncaught, comes.eq_absentTriple_iff]
      exact (and_iff_left rfl).trans (and_iff_right read_ok).symm
    · rw [uncaught, comes.eq_absentPath_iff]
      exact (and_iff_left rfl).trans (and_iff_right read_ok).symm
    · obtain ⟨key, listed, absent⟩ := absent_of_lacksPath loaded lacks
      refine ⟨key, listed, Settings.vacant_of_get_settled unique ?_ absent⟩
      cases key <;> simp [Settings.get] at listed ⊢
  · rw [stopped] at looked
    have closed := close_of_lookUp_error named rfl looked command
    rw [← runs] at closed
    have failed : read = .error .tooDeep := stopped
    rw [failed, ← printed, closed]
    simpa using aimless
  · rw [stopped] at looked
    have closed := close_of_lookUp_error named rfl looked command
    rw [← runs] at closed
    have failed : read = .error (.longInteger excess) := stopped
    rw [failed, ← printed, closed]
    simpa using aimless

def holding (text : String) : World where
  files := fun _ => .file text.toUTF8
  environment := []
  present := fun _ => false
  system := "Linux"

theorem holds_holding (text path : String) :
    Settings.Holds (holding text).files path (Text.unifyLineEnds text.toList) :=
  ⟨text.toUTF8, text, rfl, Settings.fromUTF8?_toUTF8 text, rfl⟩

theorem lookUp_holding {text : String} {members : Table Json}
    (read : Json.read (Text.unifyLineEnds text.toList) = .ok (.object members)) (path : String) :
    Settings.lookUp (holding text).files path = .ok members := by
  rw [Settings.lookUp_of_holds (holds_holding text path), read]

theorem run_ending_of_object_null_triple :
    (written (holding "\x7b\"triple\": null\x7d") ["paths", "-c", "s.json"]).close =
        .ended (.uncaught .absentTriple) ∧
      Settings.Vacant [] [("triple", .null)] .triple := by
  have asked : Invocation.ofArgs ["paths", "-c", "s.json"]
      (holding "\x7b\"triple\": null\x7d").keepsMark =
      .run .paths { config := some (some "s.json") } := rfl
  have holds := holds_holding "\x7b\"triple\": null\x7d" "s.json"
  have read : Json.read (Text.unifyLineEnds "\x7b\"triple\": null\x7d".toList) {} =
      .ok (.object [("triple", .null)]) := by
    cbv
  obtain ⟨-, -, -, -, -, aimless, -, vacant, -⟩ := run_ending_of_object asked rfl holds read
  have lacks : Command.paths.LacksTarget (Settings.settled [] [("triple", .null)])
      { config := some (some "s.json") } := ⟨rfl, rfl⟩
  exact ⟨aimless.mpr ⟨read, lacks⟩, vacant lacks⟩

/-- A file that leaves the installation empty, which a link cannot do without, and one that gives a
lone half for the linker, which a standard output that goes by bytes does not take. -/
theorem run_link_null_installation :
    let args := ["link", "-c", "s.json", "--", "a.o"]
    let null := holding "\x7b\"install_dir\": null\x7d"
    let lone := String.ofList [Text.standIn 0xd800]
    let half : World := { holding "\x7b\"linker\": \"\\ud800\"\x7d" with encodes := Text.isProper }
    (Settings.lookUp null.files "s.json" = .ok [("install_dir", .null)] ∧
      Invocation.ofArgs args = .run .link
        { config := some (some "s.json"), arguments := ["a.o"] } ∧
      (written null args).close = .ended (.uncaught .absentPath) ∧
      Fault.absentPath.family = .plain) ∧
    Settings.lookUp half.files "s.json" = .ok [("linker", .text lone)] ∧
    (written half args).close = .unencodable (withLineEnd (Shell.bash.line [lone, "-znorelro",
      "-dynamic-linker", "/sbin/ldyldo", "--enable-new-dtags", "-o", "a.out", "crt0.o", "a.o",
      "/usr/lib/clang/17/lib/kush/libclang_rt.builtins-x86_64.a", "-lc"])) := by
  intro args null lone half
  let r : Request := { config := some (some "s.json"), arguments := ["a.o"] }
  let command : LinkCommand := ⟨lone, ["-znorelro", "-dynamic-linker", "/sbin/ldyldo",
    "--enable-new-dtags", "-o", "a.out", "crt0.o", "a.o",
    "/usr/lib/clang/17/lib/kush/libclang_rt.builtins-x86_64.a", "-lc"]⟩
  have asked {world : World} : Invocation.ofArgs args world.keepsMark = .run .link r := rfl
  have empty : Settings.lookUp null.files "s.json" = .ok [("install_dir", .null)] :=
    lookUp_holding (by cbv) "s.json"
  have torn : Settings.lookUp half.files "s.json" = .ok [("linker", .text lone)] :=
    lookUp_holding (by cbv) "s.json"
  refine ⟨⟨empty, rfl, ?_, rfl⟩, torn, ?_⟩
  · have failed : Command.link.answer null r = .error .absentPath := by
      rw [Command.answer, result_linkJob, result_prepare, loadSettings_of_lookUp_ok rfl empty]
      decide +kernel
    rw [written, run_of_asked asked]
    exact Command.close_run_eq_uncaught_iff.mpr ⟨failed, rfl⟩
  · have answer : (linkJob half r).result.map (·.2.2) = .ok command := by
      rw [result_linkJob, result_prepare, loadSettings_of_lookUp_ok rfl torn]
      decide +kernel
    obtain ⟨⟨c, linker, _⟩, linked, rfl⟩ := exists_of_map_eq_ok answer
    have printed : (runLink half r).printed = [withLineEnd (Shell.bash.line command.argv)] := by
      have shell : Shell.ofSystem half.system = .bash := if_neg (by decide)
      rw [(runLink_of_ok linked).2, commandText, if_neg (by decide), shell]
    have refused : Text.isProper (withLineEnd (Shell.bash.line command.argv)) ≠ true := by
      decide +kernel
    rw [written, run_of_asked asked, Command.run, Outcome.written_of_single printed, if_neg refused]
    rfl

end CommandLine

end CrossDriver
