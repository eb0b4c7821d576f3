import CrossDriver.Proofs.CommandLine.Preparation
import CrossDriver.Proofs.Settings.LookUp

namespace CrossDriver.CommandLine
open Settings

theorem isCaught_eq_false_iff {fault : Fault} :
    isCaught fault = false ↔
      fault.family ≠ .configuration ∧ ∀ shown, fault ≠ .settingsMissing shown := by
  cases fault with
  | settingsUnreadable path reason => cases reason <;> simp [isCaught, Fault.family]
  | _ => simp [isCaught, Fault.family]

theorem loadSettings_of_lookUp_error {world : World} {r : Request} {path : String}
    (named : r.config = some (some path)) {fault : Fault}
    (failed : lookUp world.files path world.limits = .error fault) :
    (loadSettings world r).result = .error fault := by
  rw [loadSettings, named]
  dsimp only
  rw [result_load, result_loadMembers]
  dsimp only
  rw [failed]
  rfl

theorem loadSettings_of_lookUp_ok {world : World} {r : Request} {path : String}
    (named : r.config = some (some path)) {members : Table Json}
    (read : lookUp world.files path world.limits = .ok members) :
    (loadSettings world r).result = .ok (settled world.environment members) := by
  rw [loadSettings, named]
  dsimp only
  rw [result_load, result_loadMembers]
  dsimp only
  rw [read]
  rfl

theorem run_of_asked {world : World} {args : List String} {command : Command} {r : Request}
    (asked : Invocation.ofArgs args world.keepsMark = .run command r) :
    run world args = command.run world r := by
  rw [run, asked]
  rfl

theorem run_of_lookUp_error {world : World} {args : List String} {command : Command} {r : Request}
    (asked : Invocation.ofArgs args world.keepsMark = .run command r) {path : String}
    (named : r.config = some (some path)) {fault : Fault}
    (failed : lookUp world.files path world.limits = .error fault) :
    (run world args).output = "" ∧
      (run world args).ending = if isCaught fault then .exit 1 else .uncaught fault := by
  have stops :=
    Command.answer_of_loadSettings_error command (loadSettings_of_lookUp_error named failed)
  obtain ⟨events, gives_up⟩ := Command.run_of_error stops
  rw [run_of_asked asked, gives_up]
  exact ⟨output_giveUp _ _ _, ending_giveUp _ _ _⟩

/-- A settings file is missing exactly where there is nothing at its path, and every other reason
not to use it is one that the user can mend, except for those that reading does not foresee; these
alone leave the program, and no text within the limits of the reader is among them. -/
theorem settings_file_outcome (world : World) (path : String) :
    (∀ members, lookUp world.files path world.limits = .ok members ↔
      ∃ cs, Holds world.files path cs ∧ Json.read cs world.limits = .ok (.object members)) ∧
    ((∃ shown, lookUp world.files path world.limits = .error (.settingsMissing shown)) ↔
      world.files (.ofString path) = .missing) ∧
    ((∃ fault, lookUp world.files path world.limits = .error fault ∧
        fault.family = .configuration) ↔
      Unusable world.files world.limits path) ∧
    ((∃ fault, lookUp world.files path world.limits = .error fault ∧ isCaught fault = false) ↔
      Unforeseen world.files world.limits path) ∧
    (∀ args command r, Invocation.ofArgs args world.keepsMark = .run command r →
      r.config = some (some path) →
      ∀ fault, lookUp world.files path world.limits = .error fault → (run world args).output = "" ∧
        (run world args).ending = if isCaught fault then .exit 1 else .uncaught fault) ∧
    (¬Textless world.files path →
      (∀ cs, Holds world.files path cs → Json.WithinLimits world.limits cs) →
      ¬Unforeseen world.files world.limits path) := by
  obtain ⟨members, missing, mendable, unforeseen⟩ := lookUp_outcome world.files world.limits path
  refine ⟨members, missing, mendable, ?_,
    fun args command r asked named fault failed => run_of_lookUp_error asked named failed,
    fun textual within stray => ?_⟩
  · rw [← unforeseen]
    simp only [isCaught_eq_false_iff]
  · obtain ⟨fault, failed, unmendable, found⟩ := unforeseen.mpr stray
    rcases lookUp_of_withinLimits textual within failed with mendable | ⟨shown, missing⟩
    · exact unmendable mendable
    · exact found shown missing

/-- A single byte that no text begins with. -/
theorem settings_file_undecodable :
    let world : World :=
      { files := fun _ => .file ⟨#[0xff]⟩
        environment := []
        present := fun _ => false
        system := "Linux" }
    lookUp world.files "s.json" = .error .settingsNotText ∧
      Fault.settingsNotText.family ≠ .configuration ∧
      (run world ["link", "-c", "s.json", "--", "a.o"]).ending = .uncaught .settingsNotText := by
  exact ⟨rfl, by decide, rfl⟩

end CrossDriver.CommandLine
