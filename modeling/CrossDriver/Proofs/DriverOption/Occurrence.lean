import CrossDriver.Proofs.DriverOption.Unambiguous

namespace CrossDriver

namespace OptionLookup

/-- The argument stands in the place of an option, between those before and behind it. -/
structure StandsAt (l : OptionLookup) (argv before : List String) (arg : String)
    (behind : List String) : Prop where
  split : argv = before ++ arg :: behind
  place : l.openAfter before = true

def itemsAt (l : OptionLookup) (arg : String) (behind : List String) : List ArgItem :=
  if arg = "--" then behind.map fun token => .edit (.input token)
  else match l.matchArg arg with
    | .complete option value => option.action.apply value
    | .awaiting option =>
      match behind with
      | [] => [.missingValue arg]
      | value :: _ => option.action.apply value
    | .unknown => [.report (unusedArgument arg)]
    | .input => [.edit (.input arg)]

def unread (l : OptionLookup) (arg : String) (behind : List String) : List String :=
  if arg = "--" then []
  else match l.matchArg arg with
    | .awaiting _ => behind.tail
    | _ => behind

theorem scan_cons (l : OptionLookup) (arg : String) (behind : List String) :
    l.scan (arg :: behind) = l.itemsAt arg behind ++ l.scan (l.unread arg behind) := by
  rw [itemsAt, unread]
  by_cases hd : arg = "--"
  · simp [scan, hd]
  · cases matched : l.matchArg arg with
    | awaiting option => cases behind <;> simp [scan, hd, matched]
    | complete option value => simp [scan, hd, matched]
    | unknown => simp [scan, hd, matched]
    | input => simp [scan, hd, matched]

theorem scan_at {l : OptionLookup} {argv before behind : List String} {arg : String}
    (stands : l.StandsAt argv before arg behind) :
    l.scan argv = l.scan before ++ (l.itemsAt arg behind ++ l.scan (l.unread arg behind)) := by
  rw [stands.split, scan_append l stands.place, scan_cons]

theorem StandsAt.behind {l : OptionLookup} {arg : String} (hd : arg ≠ "--")
    {behind before rest : List String} {next : String}
    (inner : l.StandsAt (l.unread arg behind) before next rest) :
    ∃ passed, l.StandsAt (arg :: behind) (arg :: passed) next rest := by
  obtain ⟨split, place⟩ := inner
  rw [unread, if_neg hd] at split
  by_cases awaits : ∃ option, l.matchArg arg = .awaiting option
  · obtain ⟨option, matched⟩ := awaits
    simp only [matched] at split
    cases behind with
    | nil => simp at split
    | cons value more =>
      refine ⟨value :: before, by rw [List.tail_cons] at split; simp [split], ?_⟩
      simpa [openAfter, hd, matched] using place
  · have matched (option : DriverOption) : l.matchArg arg ≠ .awaiting option :=
      fun same => awaits ⟨option, same⟩
    have same : behind = before ++ next :: rest := by
      cases here : l.matchArg arg with
      | awaiting option => exact absurd here (matched option)
      | complete _ _ | unknown | input => simpa only [here] using split
    exact ⟨before, by rw [same]; rfl,
      (openAfter_cons_of_not_awaiting hd matched before).trans place⟩

theorem openAfter_append (l : OptionLookup) {before : List String}
    (open_before : l.openAfter before = true) (after : List String) :
    l.openAfter (before ++ after) = l.openAfter after := by
  fun_induction openAfter l before with
  | case1 => rfl
  | case2 rest => cases open_before
  | case3 arg hd option matched => cases open_before
  | case4 arg hd option matched value rest ih => simp [openAfter, hd, matched, ih open_before]
  | case5 arg rest hd matched ih =>
    rw [List.cons_append, openAfter_cons_of_not_awaiting hd matched, ih open_before]

theorem StandsAt.further {l : OptionLookup} {argv before behind inner rest : List String}
    {arg next : String} (stands : l.StandsAt argv before arg behind)
    (later : l.StandsAt (arg :: behind) inner next rest) :
    l.StandsAt argv (before ++ inner) next rest where
  split := by rw [stands.split, later.split, List.append_assoc]
  place := by rw [openAfter_append l stands.place, later.place]

theorem itemsAt_joined {o : DriverOption} (listed : o ∈ DriverOption.table)
    (kind : o.kind = .joined) (value : String) (behind : List String) :
    standard.itemsAt (o.spelling ++ value) behind = o.action.apply value := by
  have further := DriverOption.ne_terminator_of_recognises listed
    (DriverOption.recognises_append (by rw [kind]; rfl) value)
  rw [itemsAt, if_neg further, matchArg_joined listed kind]

theorem itemsAt_takesNext {o : DriverOption} (listed : o ∈ DriverOption.table)
    (takes : o.takesNext = true) (value : String) (behind : List String) :
    standard.itemsAt o.spelling (value :: behind) = o.action.apply value := by
  have further := DriverOption.ne_terminator_of_recognises listed
    (DriverOption.recognises_spelling o)
  rw [itemsAt, if_neg further, matchArg_takesNext listed takes]

theorem mem_scan_iff {l : OptionLookup} {argv : List String} {item : ArgItem} :
    item ∈ l.scan argv ↔
      ∃ before arg behind, l.StandsAt argv before arg behind ∧ item ∈ l.itemsAt arg behind := by
  constructor
  · intro mem
    -- The rest that is still to be read is shorter, whether or not the argument takes a value.
    induction h : argv.length using Nat.strongRecOn generalizing argv with
    | _ n ih =>
      cases argv with
      | nil => cases mem
      | cons arg behind =>
        rw [scan_cons, List.mem_append] at mem
        rcases mem with here | later
        · exact ⟨[], arg, behind, ⟨rfl, rfl⟩, here⟩
        · have further : arg ≠ "--" := by
            rintro rfl
            simp [unread, scan] at later
          have shorter : (l.unread arg behind).length < n := by
            have le : (l.unread arg behind).length ≤ behind.length := by
              unfold unread
              split
              · simp
              · split <;> simp
            simp only [List.length_cons] at h
            omega
          obtain ⟨before, next, rest, stands, given⟩ := ih _ shorter later rfl
          obtain ⟨passed, stands⟩ := stands.behind further
          exact ⟨arg :: passed, next, rest, stands, given⟩
  · rintro ⟨before, arg, behind, stands, here⟩
    rw [scan_at stands]
    exact List.mem_append_right _ (List.mem_append_left _ here)

end OptionLookup

/-! ## Reports -/

theorem DriverOption.eq_of_action_lto :
    ∀ o ∈ table, o.action = .lto → o = ⟨"-flto=", .joined, .lto⟩ := by
  decide +kernel

theorem OptionAction.eq_lto_of_report_mem_apply {action : OptionAction} {value : String}
    {d : Diagnostic} (mem : .report d ∈ action.apply value) :
    action = .lto ∧ LtoMode.ofFlag? value = none := by
  cases action with
  | lto =>
    refine ⟨rfl, ?_⟩
    rw [apply] at mem
    cases named : LtoMode.ofFlag? value with
    | none => rfl
    | some mode => simp [named] at mem
  | linkerArgs => simp [apply] at mem
  | assign _ | word _ | optLevel | input | library | libraryPath | undefined =>
    simp [apply] at mem

theorem LtoMode.ofFlag?_eq_none_iff {value : String} :
    ofFlag? value = Option.none ↔ value ≠ "thin" ∧ value ≠ "full" := by
  rw [ofFlag?, List.find?_eq_none]
  simp [name, eq_comm]

namespace Config
open OptionLookup

def RejectsLto (argv : List String) : Prop :=
  ∃ before value behind, standard.StandsAt argv before ("-flto=" ++ value) behind ∧
    value ≠ "thin" ∧ value ≠ "full"

theorem itemsAt_lto (value : String) (behind : List String) :
    standard.itemsAt ("-flto=" ++ value) behind = OptionAction.apply value .lto := by
  have listed : ⟨"-flto=", .joined, .lto⟩ ∈ DriverOption.table := by decide +kernel
  exact itemsAt_joined listed rfl value behind

/-- Arguments that count for nothing where an option can stand, and what is reported of them. -/
inductive Rejects : String → Diagnostic → Prop where
  | mode {value : String} (unnamed : value ≠ "thin" ∧ value ≠ "full") :
      Rejects ("-flto=" ++ value)
        ⟨.error, "unsupported argument '" ++ value ++ "' to option '-flto='"⟩
  | unknown {arg : String} (dash : arg.toList.head? = some '-') (longer : arg ≠ "-")
      (further : arg ≠ "--") (unlisted : ∀ o ∈ DriverOption.table, ¬o.Recognises arg) :
      Rejects arg ⟨.warning, "argument unused during compilation: '" ++ arg ++ "'"⟩

theorem itemsAt_of_rejects {arg : String} {d : Diagnostic} (rejects : Rejects arg d)
    (behind : List String) : standard.itemsAt arg behind = [.report d] := by
  cases rejects with
  | @mode value unnamed =>
    rw [itemsAt_lto, OptionAction.apply, LtoMode.ofFlag?_eq_none_iff.mpr unnamed]
  | unknown dash longer further unlisted =>
    have looks : looksLikeOption arg = true := by simp [looksLikeOption, dash, longer]
    rcases matchArg_cases arg with ⟨o, listed, known, -⟩ | ⟨-, matched⟩
    · exact absurd known (unlisted o listed)
    · rw [if_pos looks] at matched
      rw [itemsAt, if_neg further, matched, unusedArgument]

theorem rejects_of_report_mem_itemsAt {arg : String} {behind : List String} {d : Diagnostic}
    (mem : .report d ∈ standard.itemsAt arg behind) : Rejects arg d := by
  unfold itemsAt at mem
  split at mem
  case isTrue => simp at mem
  case isFalse further =>
    split at mem
    case h_1 option value matched =>
      obtain ⟨listed, -, rfl⟩ := eq_of_matchArg_complete matched
      obtain ⟨lto, unnamed⟩ := OptionAction.eq_lto_of_report_mem_apply mem
      rw [lto, OptionAction.apply, unnamed, List.mem_singleton, ArgItem.report.injEq] at mem
      rw [DriverOption.eq_of_action_lto option listed lto, mem]
      exact .mode (LtoMode.ofFlag?_eq_none_iff.mp unnamed)
    case h_2 option matched =>
      obtain ⟨listed, separate, -⟩ := eq_of_matchArg_awaiting matched
      split at mem
      · simp at mem
      · obtain ⟨lto, -⟩ := OptionAction.eq_lto_of_report_mem_apply mem
        exact absurd (DriverOption.eq_of_action_lto option listed lto ▸ rfl) separate
    case h_3 matched =>
      rw [List.mem_singleton, ArgItem.report.injEq] at mem
      rcases matchArg_cases arg with ⟨o, -, -, read⟩ | ⟨unlisted, read⟩
      · exact absurd (read.symm.trans matched) (DriverOption.reading_ne_unknown o arg)
      · rw [matched] at read
        split at read
        case isTrue looks =>
          simp only [looksLikeOption, Bool.and_eq_true, decide_eq_true_eq] at looks
          rw [mem]
          exact .unknown looks.2 looks.1 further unlisted
        case isFalse => cases read
    case h_4 => simp at mem

theorem hasErrors_parse_iff {argv : List String} {cxx pieDefault : Bool} :
    (parse argv cxx pieDefault).diagnostics.hasErrors = true ↔ RejectsLto argv := by
  rw [diagnostics_parse, Diagnostics.hasErrors, List.any_eq_true]
  constructor
  · rintro ⟨d, reported, severe⟩
    obtain ⟨item, read, shown⟩ := List.mem_filterMap.mp reported
    obtain ⟨before, arg, behind, stands, given⟩ := mem_scan_iff.mp read
    have report := ArgItem.diagnostic?_eq_some_iff.mp shown
    rcases rejects_of_report_mem_itemsAt (report ▸ given) with unnamed | _
    · exact ⟨before, _, behind, stands, unnamed⟩
    · simp at severe
  · rintro ⟨before, value, behind, stands, unnamed⟩
    have read := itemsAt_of_rejects (.mode unnamed) behind
    have reported := mem_scan_iff.mpr ⟨before, _, behind, stands, read ▸ List.mem_singleton_self _⟩
    exact ⟨_, List.mem_filterMap.mpr ⟨_, reported, rfl⟩, by simp⟩

end Config

end CrossDriver
