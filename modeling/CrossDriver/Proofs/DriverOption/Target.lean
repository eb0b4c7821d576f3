import CrossDriver.Proofs.Config.Field
import CrossDriver.Proofs.DriverOption.Occurrence

namespace CrossDriver

def Edit.target? : Edit → Option String
  | .assign (.word .triple target) => some target
  | _ => none

def ArgItem.target? (item : ArgItem) : Option String :=
  item.edit?.bind Edit.target?

theorem Edit.target?_eq_some_iff {e : Edit} {target : String} :
    e.target? = some target ↔ e = .assign (.word .triple target) := by
  constructor
  · intro named
    cases e with
    | assign a =>
      cases a with
      | word field value => cases field <;> cases named; rfl
      | switch _ _ | linkMode _ | lto _ | useInitArray _ => cases named
    | input _ | libraryPath _ | undefined _ => cases named
  · rintro rfl
    rfl

theorem ArgItem.target?_eq_some_iff {item : ArgItem} {target : String} :
    item.target? = some target ↔ item = .edit (.assign (.word .triple target)) := by
  cases item with
  | edit e => simp [target?, edit?, Edit.target?_eq_some_iff]
  | report _ | missingValue _ => simp [target?, edit?]

namespace DriverOption

theorem eq_of_action_triple : ∀ o ∈ table, o.action = .word .triple →
    o = ⟨"-target", .separate, .word .triple⟩ ∨ o = ⟨"--target=", .joined, .word .triple⟩ := by
  decide +kernel

theorem field_ne_triple_of_assign : ∀ o ∈ table, ∀ a, o.action = .assign a →
    a.field ≠ .word .triple := by
  have all : table.all (fun o => match o.action with
      | .assign a => a.field ≠ .word .triple
      | _ => true) = true := by
    decide +kernel
  intro o mem a action
  simpa [action] using List.all_eq_true.mp all o mem

theorem eq_of_target_mem_apply {o : DriverOption} (listed : o ∈ table) {value target : String}
    (mem : .edit (.assign (.word .triple target)) ∈ o.action.apply value) :
    (o = ⟨"-target", .separate, .word .triple⟩ ∨ o = ⟨"--target=", .joined, .word .triple⟩) ∧
      target = value := by
  cases action : o.action with
  | word field =>
    simp only [action, OptionAction.apply, List.mem_singleton, ArgItem.edit.injEq,
      Edit.assign.injEq, Assignment.word.injEq] at mem
    obtain ⟨rfl, rfl⟩ := mem
    exact ⟨eq_of_action_triple o listed action, rfl⟩
  | assign a =>
    rw [action] at mem
    cases List.mem_singleton.mp mem
    exact absurd rfl (field_ne_triple_of_assign o listed _ action)
  | lto =>
    simp only [action, OptionAction.apply] at mem
    split at mem <;> simp at mem
  | linkerArgs | optLevel | input | library | libraryPath | undefined =>
    simp [action, OptionAction.apply] at mem

end DriverOption

namespace Config
open OptionLookup

inductive NamesTarget (argv before : List String) (target : String) (behind : List String) : Prop
  | joined (stands : standard.StandsAt argv before ("--target=" ++ target) behind)
  | separate (stands : standard.StandsAt argv before "-target" (target :: behind))

theorem joined_target_mem_table :
    ⟨"--target=", .joined, .word .triple⟩ ∈ DriverOption.table := by
  decide +kernel

theorem itemsAt_joined_target (target : String) (behind : List String) :
    standard.itemsAt ("--target=" ++ target) behind =
      [.edit (.assign (.word .triple target))] := by
  exact itemsAt_joined joined_target_mem_table rfl target behind

theorem itemsAt_separate_target (target : String) (behind : List String) :
    standard.itemsAt "-target" (target :: behind) = [.edit (.assign (.word .triple target))] := by
  have listed : ⟨"-target", .separate, .word .triple⟩ ∈ DriverOption.table := by decide +kernel
  exact itemsAt_takesNext listed rfl target behind

theorem eq_of_target_mem_itemsAt {arg target : String} {behind : List String}
    (mem : .edit (.assign (.word .triple target)) ∈ standard.itemsAt arg behind) :
    arg = "--target=" ++ target ∨ arg = "-target" ∧ ∃ more, behind = target :: more := by
  unfold itemsAt at mem
  split at mem
  · simp at mem
  · split at mem
    case h_1 o value matched =>
      obtain ⟨listed, whole, spelled⟩ := eq_of_matchArg_complete matched
      obtain ⟨rfl | rfl, rfl⟩ := DriverOption.eq_of_target_mem_apply listed mem
      · exact absurd rfl whole
      · exact .inl spelled
    case h_2 o matched =>
      obtain ⟨listed, apart, spelled⟩ := eq_of_matchArg_awaiting matched
      split at mem
      · simp at mem
      case h_2 value more =>
        obtain ⟨rfl | rfl, rfl⟩ := DriverOption.eq_of_target_mem_apply listed mem
        · exact .inr ⟨spelled, more, rfl⟩
        · exact absurd rfl apart
    case h_3 => simp at mem
    case h_4 => simp at mem

def targets (argv : List String) : List String :=
  (standard.scan argv).filterMap ArgItem.target?

theorem mem_targets_iff {argv : List String} {target : String} :
    target ∈ targets argv ↔ ∃ before behind, NamesTarget argv before target behind := by
  have read : target ∈ targets argv ↔
      .edit (.assign (.word .triple target)) ∈ standard.scan argv := by
    simp [targets, List.mem_filterMap, ArgItem.target?_eq_some_iff]
  rw [read, mem_scan_iff]
  constructor
  · rintro ⟨before, arg, behind, stands, given⟩
    rcases eq_of_target_mem_itemsAt given with rfl | ⟨rfl, more, rfl⟩
    · exact ⟨before, behind, .joined stands⟩
    · exact ⟨before, more, .separate stands⟩
  · rintro ⟨before, behind, stands | stands⟩
    · exact ⟨before, _, behind, stands, by rw [itemsAt_joined_target]; exact .head _⟩
    · exact ⟨before, _, _, stands, by rw [itemsAt_separate_target]; exact .head _⟩

theorem targets_eq_nil_iff {argv : List String} :
    targets argv = [] ↔ ∀ before target behind, ¬NamesTarget argv before target behind := by
  rw [List.eq_nil_iff_forall_not_mem]
  constructor
  · intro none before target behind names
    exact none target (mem_targets_iff.mpr ⟨before, behind, names⟩)
  · intro none target mem
    obtain ⟨before, behind, names⟩ := mem_targets_iff.mp mem
    exact none before target behind names

def LastNamesTarget (argv before : List String) (target : String) (behind : List String) : Prop :=
  NamesTarget argv before target behind ∧
    ∀ before' target' behind', NamesTarget argv before' target' behind' →
      before'.length ≤ before.length

theorem NamesTarget.further {argv before after inner behind : List String} {arg target : String}
    (stands : standard.StandsAt argv before arg after) (read_on : arg ≠ "--")
    (names : NamesTarget (standard.unread arg after) inner target behind) :
    ∃ passed, NamesTarget argv (before ++ arg :: passed) target behind := by
  cases names with
  | joined later =>
    obtain ⟨passed, later⟩ := later.behind read_on
    exact ⟨passed, .joined (stands.further later)⟩
  | separate later =>
    obtain ⟨passed, later⟩ := later.behind read_on
    exact ⟨passed, .separate (stands.further later)⟩

theorem NamesTarget.stands {argv before behind : List String} {target : String}
    (names : NamesTarget argv before target behind) :
    ∃ arg after, standard.StandsAt argv before arg after ∧ arg ≠ "--" ∧
      standard.itemsAt arg after = [.edit (.assign (.word .triple target))] := by
  cases names with
  | joined stands =>
    have further := DriverOption.ne_terminator_of_recognises joined_target_mem_table
      (DriverOption.recognises_append rfl target)
    exact ⟨_, _, stands, further, itemsAt_joined_target target behind⟩
  | separate stands =>
    exact ⟨_, _, stands, by decide, itemsAt_separate_target target behind⟩

theorem getLast?_targets {argv before behind : List String} {target : String}
    (last : LastNamesTarget argv before target behind) :
    (targets argv).getLast? = some target := by
  obtain ⟨names, latest⟩ := last
  obtain ⟨arg, after, stands, read_on, given⟩ := names.stands
  have nothing_behind : targets (standard.unread arg after) = [] := by
    refine targets_eq_nil_iff.mpr fun inner other rest later => ?_
    obtain ⟨passed, later⟩ := later.further stands read_on
    have shorter := latest _ _ _ later
    simp only [List.length_append, List.length_cons] at shorter
    omega
  unfold targets at nothing_behind ⊢
  rw [scan_at stands, given, List.filterMap_append, List.filterMap_append, nothing_behind]
  simp [ArgItem.target?, ArgItem.edit?, Edit.target?]

/-! ## The target of a configuration -/

theorem triple_edit_of_none (c : Config) {e : Edit} (names_none : e.target? = none) :
    (c.edit e).triple = c.triple := by
  cases e with
  | assign a =>
    cases a with
    | switch field _ => cases field <;> rfl
    | word field _ =>
      cases field with
      | triple => cases names_none
      | sysroot | ltoJobs | optLevel | rtlib | cxxStdlib | fuseLd | output => rfl
    | linkMode _ | lto _ | useInitArray _ => rfl
  | input _ | libraryPath _ | undefined _ => rfl

theorem triple_edits (c : Config) (es : List Edit) :
    (c.edits es).triple = (es.filterMap Edit.target?).getLast?.or c.triple := by
  induction es generalizing c with
  | nil => rfl
  | cons e rest ih =>
    rw [edits_cons, ih]
    cases named : e.target? with
    | some target =>
      obtain rfl := Edit.target?_eq_some_iff.mp named
      rw [List.filterMap_cons_some named, List.getLast?_cons]
      cases (rest.filterMap Edit.target?).getLast? <;> rfl
    | none => rw [List.filterMap_cons_none named, triple_edit_of_none c named]

theorem triple_parse {argv : List String} {cxx pieDefault : Bool} {c : Config}
    (parsed : (parse argv cxx pieDefault).result = .ok c) :
    c.triple = some ((targets argv).getLast?.getD Triple.defaultText) := by
  obtain ⟨-, rfl⟩ := result_parse_eq_ok_iff.mp parsed
  have read : (updates argv cxx pieDefault).filterMap Edit.target? = targets argv := by
    rw [updates, List.filterMap_append, argEdits, List.filterMap_filterMap]
    rfl
  rw [triple_edits, read]
  cases (targets argv).getLast? <;> rfl

end Config

end CrossDriver
