import CrossDriver.Proofs.Config.Field
import CrossDriver.Proofs.DriverOption.Occurrence
import CrossDriver.Proofs.Text.WholeParts

namespace CrossDriver

def Edit.text? : Edit → Option String
  | .assign (.word _ value) => some value
  | .assign _ => none
  | .input text | .libraryPath text | .undefined text => some text

def Edit.Whole (e : Edit) : Prop :=
  ∀ text ∈ e.text?, Text.Whole text.toList

namespace Config

/-- No text in the configuration has a torn character. -/
structure Whole (c : Config) : Prop where
  word : ∀ field, ∀ value ∈ c.wordOf field, Text.Whole value.toList
  entry : ∀ list, ∀ text ∈ c.entries list, Text.Whole text.toList

theorem whole_default : ({} : Config).Whole where
  word field value mem := by
    cases field <;> cases mem <;> exact Text.whole_literal (by decide)
  entry list text mem := by cases list <;> cases mem

theorem whole_assign {c : Config} (before : c.Whole) {a : Assignment}
    (own : (Edit.assign a).Whole) : (c.assign a).Whole where
  entry := by
    rw [entries_assign]
    exact before.entry
  word field value mem := by
    cases a with
    | switch changed on =>
      rw [assign, wordOf_switch] at mem
      exact before.word field value mem
    | word changed text =>
      rw [assign, wordOf_word] at mem
      split at mem
      · exact own value mem
      · exact before.word field value mem
    | linkMode _ | lto _ | useInitArray _ =>
      exact before.word field value (by cases field <;> exact mem)

theorem whole_edit {c : Config} (before : c.Whole) {e : Edit} (own : e.Whole) :
    (c.edit e).Whole := by
  cases assigned : e.assignment? with
  | some a =>
    obtain rfl : e = .assign a := by
      cases e <;> cases assigned
      rfl
    exact whole_assign before own
  | none =>
    constructor
    · intro field value mem
      refine before.word field value ?_
      cases e with
      | assign a => cases assigned
      | input _ | libraryPath _ | undefined _ => cases field <;> exact mem
    · intro list text mem
      rw [entries_edit] at mem
      rcases List.mem_append.mp mem with old | new
      · exact before.entry list text old
      · refine own text ?_
        cases e <;> cases list <;> simp_all [Edit.entry?, Edit.text?]

theorem whole_edits {c : Config} (before : c.Whole) {es : List Edit} (each : ∀ e ∈ es, e.Whole) :
    (c.edits es).Whole := by
  induction es generalizing c with
  | nil => exact before
  | cons e rest ih =>
    obtain ⟨own, later⟩ := List.forall_mem_cons.mp each
    exact ih (whole_edit before own) later

end Config

def OptionAction.text? : OptionAction → Option String
  | .assign a => (Edit.assign a).text?
  | .word _ | .optLevel | .lto | .input | .library | .linkerArgs | .libraryPath | .undefined => none

theorem DriverOption.text?_action : ∀ o ∈ table, o.action.text? = none := by
  decide +kernel

theorem OptionAction.whole_of_mem_apply {action : OptionAction} (bare : action.text? = none)
    {value : String} (whole : Text.Whole value.toList) {e : Edit}
    (mem : .edit e ∈ action.apply value) : e.Whole := by
  have carries {text : String} (only : e.text? = some text) (own : Text.Whole text.toList) :
      e.Whole := by
    intro other same
    rw [Option.mem_def, only] at same
    exact Option.some.inj same ▸ own
  cases action with
  | assign a =>
    cases List.mem_singleton.mp mem
    intro text same
    rw [Option.mem_def, show (Edit.assign a).text? = none from bare] at same
    cases same
  | word _ | input | libraryPath | undefined =>
    cases List.mem_singleton.mp mem
    exact carries rfl whole
  | optLevel =>
    cases List.mem_singleton.mp mem
    refine carries rfl ?_
    split
    · exact Text.whole_singleton '1'
    · exact whole
  | lto =>
    rw [apply] at mem
    split at mem <;> cases List.mem_singleton.mp mem
    intro text same
    cases same
  | library =>
    cases List.mem_singleton.mp mem
    exact carries rfl (whole.behind (by decide))
  | linkerArgs =>
    obtain ⟨piece, cut, same⟩ := List.mem_map.mp mem
    cases same
    refine carries rfl ?_
    rw [String.toList_ofList]
    exact whole.within (Text.infix_of_mem_pieces (List.mem_filter.mp cut).1)

namespace OptionLookup

theorem whole_of_mem_itemsAt {arg : String} {behind : List String}
    (whole : ∀ d ∈ arg :: behind, Text.Whole d.toList) {e : Edit}
    (mem : .edit e ∈ standard.itemsAt arg behind) : e.Whole := by
  obtain ⟨own, later⟩ := List.forall_mem_cons.mp whole
  have taken {token : String} (token_whole : Text.Whole token.toList) : (Edit.input token).Whole :=
    fun text same => Option.some.inj same ▸ token_whole
  unfold itemsAt at mem
  split at mem
  case isTrue =>
    obtain ⟨token, among, same⟩ := List.mem_map.mp mem
    cases same
    exact taken (later token among)
  case isFalse =>
    split at mem
    case h_1 o value matched =>
      obtain ⟨listed, -, rfl⟩ := eq_of_matchArg_complete matched
      have ends : value.toList <:+: (o.spelling ++ value).toList := by
        rw [String.toList_append]
        exact (List.suffix_append _ _).isInfix
      exact OptionAction.whole_of_mem_apply (DriverOption.text?_action o listed) (own.within ends)
        mem
    case h_2 o matched =>
      obtain ⟨listed, -, -⟩ := eq_of_matchArg_awaiting matched
      split at mem
      · cases List.mem_singleton.mp mem
      · exact OptionAction.whole_of_mem_apply (DriverOption.text?_action o listed)
          (later _ (.head _)) mem
    case h_3 => cases List.mem_singleton.mp mem
    case h_4 =>
      cases List.mem_singleton.mp mem
      exact taken own

end OptionLookup

namespace Config
open OptionLookup

theorem whole_argEdits {argv : List String} (whole : ∀ d ∈ argv, Text.Whole d.toList) :
    ∀ e ∈ argEdits argv, e.Whole := by
  intro e mem
  obtain ⟨item, read, given⟩ := List.mem_filterMap.mp mem
  have update := ArgItem.edit?_eq_some_iff.mp given
  obtain ⟨before, arg, behind, ⟨rfl, -⟩, here⟩ := mem_scan_iff.mp read
  exact whole_of_mem_itemsAt (fun d later => whole d (List.mem_append_right _ later)) (update ▸ here)

theorem whole_parse {argv : List String} (whole : ∀ d ∈ argv, Text.Whole d.toList)
    {cxx pieDefault : Bool} {c : Config} (read : (parse argv cxx pieDefault).result = .ok c) :
    c.Whole := by
  obtain ⟨-, rfl⟩ := result_parse_eq_ok_iff.mp read
  refine whole_edits whole_default (List.forall_mem_append.mpr ⟨?_, whole_argEdits whole⟩)
  rw [presets, List.map_cons, List.map_singleton, List.forall_mem_cons, List.forall_mem_singleton]
  exact ⟨fun text same => (nomatch same), fun text same => (nomatch same)⟩

end Config

end CrossDriver
