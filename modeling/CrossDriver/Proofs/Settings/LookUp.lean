import CrossDriver.Proofs.Json.Limits
import CrossDriver.Proofs.Json.Members
import CrossDriver.Settings.File

namespace CrossDriver.Settings

/-- There is a file that is text, with these characters once its line ends are unified. -/
def Holds (files : FileView) (path : String) (cs : List Char) : Prop :=
  ∃ bytes text, files (.ofString path) = .file bytes ∧ String.fromUTF8? bytes = some text ∧
    Text.unifyLineEnds text.toList = cs

def Textless (files : FileView) (path : String) : Prop :=
  files (.ofString path) = .nameTooLong ∨ files (.ofString path) = .hidden ∨
    ∃ bytes, files (.ofString path) = .file bytes ∧ String.fromUTF8? bytes = none

def Unusable (files : FileView) (limits : Json.Limits) (path : String) : Prop :=
  files (.ofString path) = .directory ∨ files (.ofString path) = .locked ∨
    ∃ cs, Holds files path cs ∧
      ((∃ problem offset line column,
          Json.read cs limits = .error (.malformed problem offset line column)) ∨
        ∃ value, Json.read cs limits = .ok value ∧ ∀ members, value ≠ .object members)

/-- There is something that reading does not get through. -/
def Unforeseen (files : FileView) (limits : Json.Limits) (path : String) : Prop :=
  Textless files path ∨ ∃ cs, Holds files path cs ∧
    (Json.read cs limits = .error .tooDeep ∨
      ∃ excess, Json.read cs limits = .error (.longInteger excess))

theorem fromUTF8?_toUTF8 (text : String) : String.fromUTF8? text.toUTF8 = some text := by
  change (if h : text.toByteArray.IsValidUTF8 then some (String.fromUTF8 text.toByteArray h)
    else none) = some text
  rw [dif_pos text.isValidUTF8]
  rfl

section
variable {files : FileView} {path : String} {cs : List Char} (holds : Holds files path cs)
include holds

theorem Holds.exists_iff {P : List Char → Prop} : (∃ ds, Holds files path ds ∧ P ds) ↔ P cs := by
  obtain ⟨bytes, text, found, decoded, rfl⟩ := holds
  constructor
  · rintro ⟨ds, ⟨other, again, also, decoded', rfl⟩, given⟩
    cases found.symm.trans also
    cases decoded.symm.trans decoded'
    exact given
  · exact fun given => ⟨_, ⟨bytes, text, found, decoded, rfl⟩, given⟩

theorem Holds.not_textless : ¬Textless files path := by
  obtain ⟨bytes, text, found, decoded, rfl⟩ := holds
  simp [Textless, found, decoded]

theorem lookUp_of_holds (limits : Json.Limits) :
    lookUp files path limits =
      match Json.read cs limits with
      | .ok (.object members) => .ok members
      | .ok _ => .error (.settingsNotAnObject (Path.ofString path).text)
      | .error (.malformed problem offset line column) => .error
          (.settingsUnreadable (Path.ofString path).text (.malformed problem offset line column))
      | .error (.longInteger excess) => .error (.settingsLongInteger excess)
      | .error .tooDeep => .error .settingsTooDeep := by
  obtain ⟨bytes, text, found, decoded, rfl⟩ := holds
  simp only [lookUp, found, decoded]
  rfl

end

theorem lookUp_outcome (files : FileView) (limits : Json.Limits) (path : String) :
    (∀ members, lookUp files path limits = .ok members ↔
      ∃ cs, Holds files path cs ∧ Json.read cs limits = .ok (.object members)) ∧
    ((∃ shown, lookUp files path limits = .error (.settingsMissing shown)) ↔
      files (.ofString path) = .missing) ∧
    ((∃ fault, lookUp files path limits = .error fault ∧ fault.family = .configuration) ↔
      Unusable files limits path) ∧
    ((∃ fault, lookUp files path limits = .error fault ∧ fault.family ≠ .configuration ∧
        ∀ shown, fault ≠ .settingsMissing shown) ↔ Unforeseen files limits path) := by
  unfold Unusable Unforeseen
  cases found : files (.ofString path) with
  | missing => simp [lookUp, Holds, Textless, found, Fault.family]
  | directory => simp [lookUp, Holds, Textless, found, Fault.family]
  | nameTooLong => simp [lookUp, Holds, Textless, found, Fault.family]
  | locked => simp [lookUp, Holds, Textless, found, Fault.family]
  | hidden => simp [lookUp, Holds, Textless, found, Fault.family]
  | file bytes =>
    cases decoded : String.fromUTF8? bytes with
    | none => simp [lookUp, Holds, Textless, found, decoded, Fault.family]
    | some text =>
      have holds : Holds files path (Text.unifyLineEnds text.toList) :=
        ⟨bytes, text, found, decoded, rfl⟩
      simp only [holds.exists_iff, holds.not_textless, false_or]
      rw [lookUp_of_holds holds]
      cases Json.read (Text.unifyLineEnds text.toList) limits with
      | ok value => cases value <;> simp [Fault.family]
      | error e => cases e <;> simp [Fault.family]

theorem lookUp_of_withinLimits {files : FileView} {limits : Json.Limits} {path : String}
    (textual : ¬Textless files path)
    (within : ∀ cs, Holds files path cs → Json.WithinLimits limits cs) {fault : Fault}
    (failed : lookUp files path limits = .error fault) :
    fault.family = .configuration ∨ ∃ shown, fault = .settingsMissing shown := by
  refine Classical.byContradiction fun other => ?_
  obtain ⟨unmendable, found⟩ := not_or.mp other
  have stray := (lookUp_outcome files limits path).2.2.2.mp
    ⟨fault, failed, unmendable, not_exists.mp found⟩
  obtain ⟨cs, holds, stopped⟩ := stray.resolve_left textual
  rcases stopped with stopped | ⟨digits, stopped⟩
  · obtain ⟨_, _, _, _, malformed⟩ := Json.malformed_of_withinLimits (within cs holds) stopped
    cases malformed
  · obtain ⟨_, _, _, _, malformed⟩ := Json.malformed_of_withinLimits (within cs holds) stopped
    cases malformed

end CrossDriver.Settings
