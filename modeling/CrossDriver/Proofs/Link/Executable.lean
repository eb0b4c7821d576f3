import CrossDriver.Proofs.Link.Failure

namespace CrossDriver

/-! ## Places in order -/

namespace SearchPaths

def asked (present : String → Bool) (places : List String) : List String :=
  places.take (places.findIdx present + 1)

theorem asked_cons (present : String → Bool) (place : String) (rest : List String) :
    asked present (place :: rest) =
      place :: if present place then [] else asked present rest := by
  rw [asked, List.findIdx_cons, List.take_succ_cons]
  cases present place <;> rfl

theorem asked_congr {present other : String → Bool} {places : List String}
    (agree : ∀ place ∈ asked present places, other place = present place) :
    asked other places = asked present places ∧ places.find? other = places.find? present := by
  induction places with
  | nil => exact ⟨rfl, rfl⟩
  | cons place rest ih =>
    rw [asked_cons] at agree
    obtain ⟨here, later⟩ := List.forall_mem_cons.mp agree
    rw [asked_cons, asked_cons, here, List.find?_cons, List.find?_cons, here]
    cases found : present place with
    | true => exact ⟨rfl, rfl⟩
    | false =>
      rw [found] at later
      obtain ⟨same, first⟩ := ih later
      exact ⟨congrArg (place :: ·) same, first⟩

theorem search_some (present : String → Bool) (name : String) (directories : List String) :
    search present name (directories.map some) =
      .ok ⟨((directories.map (candidate · name)).find? present).getD name,
        asked present (directories.map (candidate · name))⟩ := by
  induction directories with
  | nil => rfl
  | cons directory rest ih =>
    rw [List.map_cons, List.map_cons, search, ih, asked_cons, List.find?_cons]
    cases present (candidate directory name) <;> rfl

end SearchPaths

/-! ## Look-ups -/

def Settings.programDirectories (s : Settings) (installation : String) : List String :=
  installation :: ((nonEmpty? s.driverDir).filter (· ≠ installation)).toList

def Config.linkerName (c : Config) (usual : String) : String :=
  if c.fuseLd = some "lld" then "ld.lld" else (Settings.nonEmpty? c.fuseLd).getD usual

/-- The places of a program; one that is named from a root on has no other place. -/
def Settings.programPlaces (s : Settings) (installation name : String) : List String :=
  if Path.isAbsolute name then []
  else (s.programDirectories installation).map (SearchPaths.candidate · name)

namespace Toolchain
open SearchPaths

theorem programs_eq {t : Toolchain} {installation : String}
    (installed : t.settings.installDir = some installation) :
    t.paths.programs = (t.settings.programDirectories installation).map some := by
  rw [paths, Settings.programDirectories, Settings.driverDirectory, installed, resolve]
  cases named : Settings.nonEmpty? t.settings.driverDir with
  | none => simp
  | some directory =>
    have filled : directory ≠ "" := by simpa using (Option.filter_eq_some_iff.mp named).2
    by_cases same : directory = installation
    · simp [same]
    · simp [filled, same, Option.filter]

theorem requestedLinker_eq {t : Toolchain} {usual : String}
    (named : t.settings.linker = some usual) (c : Config) :
    t.requestedLinker c = some (c.linkerName usual) := by
  rw [requestedLinker, Config.linkerName, named]
  cases asked : Settings.nonEmpty? c.fuseLd with
  | none =>
    have other : c.fuseLd ≠ some "lld" := by
      intro same
      rw [same] at asked
      cases asked
    rw [if_neg other, Option.getD_none]
  | some name =>
    have given : c.fuseLd = some name := (Option.filter_eq_some_iff.mp asked).1
    simp [given]

theorem findLinker_eq {t : Toolchain} {installation usual : String}
    (installed : t.settings.installDir = some installation)
    (named : t.settings.linker = some usual) (c : Config) :
    t.findLinker c =
      .ok ⟨((t.settings.programPlaces installation (c.linkerName usual)).find? t.present).getD
          (c.linkerName usual),
        asked t.present (t.settings.programPlaces installation (c.linkerName usual))⟩ := by
  rw [findLinker, requestedLinker_eq named, Settings.programPlaces]
  dsimp only
  split
  · rfl
  · rw [findProgram, programs_eq installed, search_some]

theorem findLinker_congr {t other : Toolchain} {c d : Config} {installation usual : String}
    (installed : t.settings.installDir = some installation)
    (named : t.settings.linker = some usual)
    (installation_eq : other.settings.installDir = t.settings.installDir)
    (driver_eq : other.settings.driverDir = t.settings.driverDir)
    (linker_eq : other.settings.linker = t.settings.linker) (fuse_eq : d.fuseLd = c.fuseLd)
    (agree : ∀ place ∈ asked t.present
      (t.settings.programPlaces installation (c.linkerName usual)),
      other.present place = t.present place) :
    (other.relocated d).findLinker d = (t.relocated c).findLinker c := by
  have name_eq : d.linkerName usual = c.linkerName usual := by
    rw [Config.linkerName, Config.linkerName, fuse_eq]
  have places_eq : other.settings.programPlaces installation (c.linkerName usual) =
      t.settings.programPlaces installation (c.linkerName usual) := by
    simp only [Settings.programPlaces, Settings.programDirectories, driver_eq]
  obtain ⟨asked_eq, first_eq⟩ := asked_congr agree
  rw [findLinker_eq (t := t.relocated c) installed named,
    findLinker_eq (t := other.relocated d) (installation_eq.trans installed)
      (linker_eq.trans named), name_eq]
  simp only [relocated, places_eq, asked_eq, first_eq]

/-! ## Links -/

theorem exists_of_link {t : Toolchain} {c : Config} {command : LinkCommand}
    (linked : (t.link c).result = .ok command) :
    ∃ found optimisation libraries, (t.relocated c).findLinker c = .ok found ∧
      (LinkRule.contribution (t.linkContext c found) .lto).result = .ok optimisation ∧
      (LinkRule.contribution (t.linkContext c found) .defaultLibs).result = .ok libraries ∧
      command = ⟨found.path, LinkRule.frontTokens c ++ ["-o", c.output] ++
        LinkRule.startSection c (t.relocated c) ++ LinkRule.searchTokens c ++
        LinkRule.directoryTokens (t.relocated c) ++ optimisation ++ c.inputs ++ libraries⟩ := by
  rw [result_link] at linked
  split at linked
  · cases linked
  · obtain ⟨found, search, linked⟩ := exists_of_bind_ok linked
    obtain ⟨args, tokens, built⟩ := exists_of_bind_ok linked
    rw [Linker.result_tokens_standard] at tokens
    obtain ⟨optimisation, optimised, tokens⟩ := exists_of_bind_ok tokens
    obtain ⟨libraries, given, tokens⟩ := exists_of_bind_ok tokens
    cases tokens
    cases built
    exact ⟨found, optimisation, libraries, search, optimised, given, rfl⟩

theorem tokens_withPresent (ctx : LinkContext) (present : String → Bool) (rules : List LinkRule) :
    Linker.tokens { ctx with toolchain.present := present } rules = Linker.tokens ctx rules := by
  induction rules with
  | nil => rfl
  | cons rule rest ih =>
    have own : LinkRule.contribution { ctx with toolchain.present := present } rule =
        LinkRule.contribution ctx rule := by
      cases rule <;> rfl
    rw [Linker.tokens_cons, Linker.tokens_cons, own, ih]

theorem link_withPresent {t : Toolchain} {c : Config} {present : String → Bool}
    (search : ({ t with present := present }.relocated c).findLinker c =
      (t.relocated c).findLinker c) :
    (link { t with present := present } c).outcome = (t.link c).outcome := by
  rw [Traced.outcome, Traced.outcome, result_link, result_link, diagnostics_link, diagnostics_link,
    search]
  have tokens (found : ProgramSearch) :
      Linker.tokens (linkContext { t with present := present } c found) LinkRule.standard =
        Linker.tokens (t.linkContext c found) LinkRule.standard :=
    tokens_withPresent (t.linkContext c found) present LinkRule.standard
  simp only [tokens]

/-- A link runs the linker by the name that is asked for, or from the first of its places that is
accepted, and asks only about the places up to that one. Nothing else in the configuration or the
toolchain has a part in it, and no other answer a part in the link. -/
theorem link_executable {t : Toolchain} {c : Config} {installation usual : String}
    {command : LinkCommand} (installed : t.settings.installDir = some installation)
    (named : t.settings.linker = some usual) (linked : (t.link c).result = .ok command) :
    let name := c.linkerName usual
    let places := t.settings.programPlaces installation name
    command.executable = (places.find? t.present).getD name ∧
      (t.relocated c).findLinker c = .ok ⟨command.executable, asked t.present places⟩ ∧
      (∀ (other : Toolchain) (d : Config), other.settings.installDir = t.settings.installDir →
        other.settings.driverDir = t.settings.driverDir →
        other.settings.linker = t.settings.linker → d.fuseLd = c.fuseLd →
        (∀ place ∈ asked t.present places, other.present place = t.present place) →
        (other.relocated d).findLinker d = (t.relocated c).findLinker c ∧
          ∀ made, (other.link d).result = .ok made → made.executable = command.executable) ∧
      ∀ present : String → Bool,
        (∀ place ∈ asked t.present places, present place = t.present place) →
        (link { t with present := present } c).outcome = (t.link c).outcome := by
  intro name places
  obtain ⟨found, -, -, search, -, -, rfl⟩ := exists_of_link linked
  have lookup : (t.relocated c).findLinker c =
      .ok ⟨(places.find? t.present).getD name, asked t.present places⟩ :=
    findLinker_eq (t := t.relocated c) installed named c
  cases search.symm.trans lookup
  refine ⟨rfl, lookup, ?_, ?_⟩
  · intro other d installation_eq driver_eq linker_eq fuse_eq agree
    have same : (other.relocated d).findLinker d = (t.relocated c).findLinker c :=
      findLinker_congr installed named installation_eq driver_eq linker_eq fuse_eq agree
    refine ⟨same, fun made built => ?_⟩
    obtain ⟨again, -, -, repeated, -, -, rfl⟩ := exists_of_link built
    cases (repeated.symm.trans same).trans lookup
    rfl
  · intro present agree
    exact link_withPresent (findLinker_congr installed named rfl rfl rfl rfl agree)

theorem link_executable_driver :
    let t : Toolchain :=
      ⟨{ installDir := some "/opt/kush/bin", driverDir := some "/opt//driver/" },
        ⟨"x86_64", "unknown", "kush", ""⟩, "/sdk", fun place => place = "/opt/driver/gold", 0⟩
    let c : Config := { fuseLd := some "gold", sysroot := "/other", inputs := ["a.o"] }
    ∃ command, t.settings.installDir = some "/opt/kush/bin" ∧
      t.settings.linker = some "ld.lld" ∧ (t.link c).result = .ok command ∧
      command.executable = "/opt/driver/gold" ∧
      (t.relocated c).findLinker c =
        .ok ⟨"/opt/driver/gold", ["/opt/kush/bin/gold", "/opt/driver/gold"]⟩ := by
  intro t c
  have worth : ¬c.OptimisesNothing := fun vain => vain.1 rfl
  have accepts : ¬c.AsksForLibstdcxx := fun asks => Bool.false_ne_true asks.1.1
  obtain ⟨command, linked⟩ := (link_ok_iff (t := t) ⟨rfl, rfl, rfl⟩ c).mpr ⟨worth, accepts⟩
  obtain ⟨program, search, -⟩ := link_executable (t := t) rfl rfl linked
  have first : command.executable = "/opt/driver/gold" := program.trans (by decide +kernel)
  have places : asked t.present (t.settings.programPlaces "/opt/kush/bin" (c.linkerName "ld.lld")) =
      ["/opt/kush/bin/gold", "/opt/driver/gold"] := by
    decide +kernel
  rw [first, places] at search
  exact ⟨command, rfl, rfl, linked, first, search⟩

end Toolchain

end CrossDriver
