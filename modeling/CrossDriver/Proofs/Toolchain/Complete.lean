import CrossDriver.Toolchain

namespace CrossDriver

structure Settings.Complete (s : Settings) : Prop where
  installDir : s.installDir.isSome
  clangVersion : s.clangVersion.isSome
  linker : s.linker.isSome

namespace Settings.Complete

variable {s : Settings}

theorem besideInstallation_ok (complete : s.Complete) : ∃ base, s.besideInstallation = .ok base := by
  obtain ⟨dir, installed⟩ := Option.isSome_iff_exists.mp complete.installDir
  refine ⟨(Path.ofString dir).parent, ?_⟩
  rw [besideInstallation, installed]

theorem resourceDirectory_ok (complete : s.Complete) : ∃ dir, s.resourceDirectory = .ok dir := by
  obtain ⟨base, beside⟩ := complete.besideInstallation_ok
  obtain ⟨version, known⟩ := Option.isSome_iff_exists.mp complete.clangVersion
  rw [resourceDirectory]
  cases nonEmpty? s.resourceDir with
  | some dir => exact ⟨dir, rfl⟩
  | none =>
    rw [beside, known]
    exact ⟨_, rfl⟩

theorem driverDirectory_isSome (complete : s.Complete) : s.driverDirectory.isSome := by
  rw [driverDirectory, Option.isSome_or, complete.installDir, Bool.or_true]

end Settings.Complete

namespace SearchPaths

theorem search_ok (present : String → Bool) (name : String) {directories : List (Option String)}
    (given : ∀ directory ∈ directories, directory.isSome) :
    ∃ found, search present name directories = .ok found := by
  induction directories with
  | nil => exact ⟨_, rfl⟩
  | cons directory rest ih =>
    obtain ⟨dir, rfl⟩ := Option.isSome_iff_exists.mp (given directory (.head _))
    obtain ⟨later, found⟩ := ih fun other mem => given other (.tail _ mem)
    rw [search, found]
    cases present (candidate dir name) with
    | true => exact ⟨_, rfl⟩
    | false => exact ⟨_, rfl⟩

theorem isSome_of_mem_programs {installDir driverDir : Option String}
    (installed : installDir.isSome) (driven : driverDir.isSome) (sysroot : String) :
    ∀ directory ∈ (resolve installDir driverDir sysroot).programs, directory.isSome := by
  intro directory mem
  simp only [resolve] at mem
  split at mem
  · rcases List.mem_cons.mp mem with rfl | mem
    · exact installed
    · rw [List.mem_singleton.mp mem]
      exact driven
  · rw [List.mem_singleton.mp mem]
    exact installed

end SearchPaths

namespace Toolchain

theorem requestedLinker_isSome {t : Toolchain} (complete : t.settings.Complete) (c : Config) :
    (t.requestedLinker c).isSome := by
  rw [requestedLinker]
  cases Settings.nonEmpty? c.fuseLd with
  | some name => rfl
  | none => exact complete.linker

theorem findLinker_ok {t : Toolchain} (complete : t.settings.Complete) (c : Config) :
    ∃ found, t.findLinker c = .ok found := by
  obtain ⟨linker, requested⟩ := Option.isSome_iff_exists.mp (requestedLinker_isSome complete c)
  have given := SearchPaths.isSome_of_mem_programs complete.installDir
    complete.driverDirectory_isSome t.sysroot
  have lookup : ∃ found, t.paths.findProgram t.present linker = .ok found :=
    SearchPaths.search_ok t.present linker given
  rw [findLinker, requested]
  dsimp only
  split
  · exact ⟨_, rfl⟩
  · exact lookup

end Toolchain

end CrossDriver
