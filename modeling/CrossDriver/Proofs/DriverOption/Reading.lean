import CrossDriver.DriverOption.Position
import CrossDriver.DriverOption.Parser

namespace CrossDriver

/-! ## Items -/

namespace ArgItem

theorem edit?_eq_some_iff {item : ArgItem} {e : Edit} : item.edit? = some e ↔ item = .edit e := by
  cases item <;> simp [edit?]

theorem diagnostic?_eq_some_iff {item : ArgItem} {d : Diagnostic} :
    item.diagnostic? = some d ↔ item = .report d := by
  cases item <;> simp [diagnostic?]

theorem missingValue?_eq_some_iff {item : ArgItem} {option : String} :
    item.missingValue? = some option ↔ item = .missingValue option := by
  cases item <;> simp [missingValue?]

end ArgItem

/-! ## Options behind an argument -/

namespace OptionLookup

def Match.option? : Match → Option DriverOption
  | .complete option _ | .awaiting option => some option
  | .unknown | .input => none

theorem mem_of_matchExact? {l : OptionLookup} {arg : String} {m : Match} {option : DriverOption}
    (matched : l.matchExact? arg = some m) (meant : m.option? = some option) :
    option ∈ l.exact := by
  obtain ⟨found, search, rfl⟩ := Option.map_eq_some_iff.mp matched
  have same : found = option := by
    split at meant <;> exact Option.some.inj meant
  exact same ▸ List.mem_of_find?_eq_some search

theorem mem_of_matchLeading? {l : OptionLookup} {arg : String} {m : Match} {option : DriverOption}
    (matched : l.matchLeading? arg = some m) (meant : m.option? = some option) :
    option ∈ l.leading := by
  simp only [matchLeading?, Option.bind_eq_bind, Option.bind_eq_some_iff] at matched
  obtain ⟨found, longest, chosen⟩ := matched
  have same : found = option := by
    cases Option.some.inj chosen
    split at meant <;> exact Option.some.inj meant
  exact same ▸ (List.mem_filter.mp (DriverOption.longest?_mem longest)).1

theorem mem_of_matchArg {l : OptionLookup} {arg : String} {option : DriverOption}
    (meant : (l.matchArg arg).option? = some option) : option ∈ l.exact ∨ option ∈ l.leading := by
  unfold matchArg at meant
  cases whole : l.matchExact? arg with
  | some m =>
    rw [whole, Option.some_or, Option.getD_some] at meant
    exact .inl (mem_of_matchExact? whole meant)
  | none =>
    rw [whole, Option.none_or] at meant
    cases beginning : l.matchLeading? arg with
    | some m =>
      rw [beginning, Option.getD_some] at meant
      exact .inr (mem_of_matchLeading? beginning meant)
    | none =>
      rw [beginning, Option.getD_none] at meant
      split at meant <;> cases meant

theorem mem_scan {l : OptionLookup} {argv : List String} {item : ArgItem}
    (mem : item ∈ l.scan argv) :
    (∃ token, item = .edit (.input token)) ∨ (∃ d, item = .report d) ∨
      (∃ spelling, item = .missingValue spelling) ∨
      ∃ option, (option ∈ l.exact ∨ option ∈ l.leading) ∧
        ∃ value, item ∈ option.action.apply value := by
  fun_induction scan l argv with
  | case1 => cases mem
  | case2 rest =>
    obtain ⟨token, -, rfl⟩ := List.mem_map.mp mem
    exact .inl ⟨token, rfl⟩
  | case3 arg rest hd option value matched ih =>
    rcases List.mem_append.mp mem with here | behind
    · have meant : (l.matchArg arg).option? = some option := by rw [matched]; rfl
      exact .inr (.inr (.inr ⟨option, mem_of_matchArg meant, value, here⟩))
    · exact ih behind
  | case4 arg hd option matched =>
    rw [List.mem_singleton] at mem
    exact .inr (.inr (.inl ⟨arg, mem⟩))
  | case5 arg hd option matched value rest ih =>
    rcases List.mem_append.mp mem with here | behind
    · have meant : (l.matchArg arg).option? = some option := by rw [matched]; rfl
      exact .inr (.inr (.inr ⟨option, mem_of_matchArg meant, value, here⟩))
    · exact ih behind
  | case6 arg rest hd matched ih =>
    rcases List.mem_cons.mp mem with here | behind
    · exact .inr (.inl ⟨_, here⟩)
    · exact ih behind
  | case7 arg rest hd matched ih =>
    rcases List.mem_cons.mp mem with here | behind
    · exact .inl ⟨arg, here⟩
    · exact ih behind

theorem mem_table_of_standard {option : DriverOption}
    (mem : option ∈ standard.exact ∨ option ∈ standard.leading) :
    option ∈ DriverOption.table := by
  rcases mem with mem | mem
  · exact (List.mem_filter.mp (List.mem_reverse.mp mem)).1
  · exact (List.mem_filter.mp mem).1

/-! ## The place of an option -/

theorem findSome?_missingValue?_apply (action : OptionAction) (value : String) :
    (action.apply value).findSome? ArgItem.missingValue? = none := by
  rw [List.findSome?_eq_none_iff]
  intro item mem
  cases action with
  | linkerArgs =>
    obtain ⟨piece, -, rfl⟩ := List.mem_map.mp mem
    rfl
  | lto =>
    simp only [OptionAction.apply] at mem
    split at mem <;> · rw [List.mem_singleton.mp mem]; rfl
  | assign _ | word _ | optLevel | input | library | libraryPath | undefined =>
    rw [List.mem_singleton.mp mem]
    rfl

theorem openAfter_cons_of_not_awaiting {l : OptionLookup} {arg : String} (hd : arg ≠ "--")
    (matched : ∀ option, l.matchArg arg ≠ .awaiting option) (rest : List String) :
    l.openAfter (arg :: rest) = l.openAfter rest := by
  cases here : l.matchArg arg with
  | awaiting option => exact absurd here (matched option)
  | complete _ _ | unknown | input => cases rest <;> simp [openAfter, hd, here]

theorem openAfter_of_complete {l : OptionLookup} {argv : List String}
    (unterminated : ∀ before behind, argv = before ++ "--" :: behind → l.openAfter before = false)
    (complete : (l.scan argv).findSome? ArgItem.missingValue? = none) :
    l.openAfter argv = true := by
  fun_induction openAfter l argv with
  | case1 => rfl
  | case2 rest => exact absurd (unterminated [] rest rfl) (by simp [openAfter])
  | case3 arg hd option matched => simp [scan, hd, matched, ArgItem.missingValue?] at complete
  | case4 arg hd option matched value rest ih =>
    refine ih (fun before behind split => ?_) ?_
    · have inside := unterminated (arg :: value :: before) behind (by rw [split]; rfl)
      simpa [openAfter, hd, matched] using inside
    · simpa [scan, hd, matched, findSome?_missingValue?_apply] using complete
  | case5 arg rest hd matched ih =>
    refine ih (fun before behind split => ?_) ?_
    · have inside := unterminated (arg :: before) behind (by rw [split]; rfl)
      rwa [openAfter_cons_of_not_awaiting hd matched] at inside
    · rw [scan, if_neg hd] at complete
      cases here : l.matchArg arg with
      | awaiting option => exact absurd here (matched option)
      | complete _ _ =>
        simpa only [here, List.findSome?_append, findSome?_missingValue?_apply,
          Option.none_or] using complete
      | unknown | input =>
        simpa only [here, List.findSome?_cons, ArgItem.missingValue?] using complete

end OptionLookup

/-! ## Outcomes of parsing -/

namespace Config

def argEdits (argv : List String) : List Edit :=
  (OptionLookup.standard.scan argv).filterMap ArgItem.edit?

def updates (argv : List String) (cxx pieDefault : Bool) : List Edit :=
  (presets cxx pieDefault).map .assign ++ argEdits argv

theorem result_parse_eq_missing_iff {argv : List String} {cxx pieDefault : Bool}
    {spelling : String} :
    (parse argv cxx pieDefault).result = .error (.missingValue spelling) ↔
      (OptionLookup.standard.scan argv).findSome? ArgItem.missingValue? = some spelling := by
  unfold parse parseWith
  cases missing : (OptionLookup.standard.scan argv).findSome? ArgItem.missingValue? <;>
    simp [missing]

theorem result_parse_eq_ok_iff {argv : List String} {cxx pieDefault : Bool} {c : Config} :
    (parse argv cxx pieDefault).result = .ok c ↔
      (OptionLookup.standard.scan argv).findSome? ArgItem.missingValue? = none ∧
        ({} : Config).edits (updates argv cxx pieDefault) = c := by
  unfold parse parseWith updates argEdits
  cases missing : (OptionLookup.standard.scan argv).findSome? ArgItem.missingValue? <;>
    simp [missing]

theorem result_parse_congr {argv others : List String}
    (missing : (OptionLookup.standard.scan argv).findSome? ArgItem.missingValue? =
      (OptionLookup.standard.scan others).findSome? ArgItem.missingValue?)
    (edits : argEdits argv = argEdits others) (cxx pieDefault : Bool) :
    (parse argv cxx pieDefault).result = (parse others cxx pieDefault).result := by
  unfold argEdits at edits
  unfold parse parseWith
  dsimp only
  rw [missing, edits]
  split <;> rfl

theorem diagnostics_parse (argv : List String) (cxx pieDefault : Bool) :
    (parse argv cxx pieDefault).diagnostics =
      (OptionLookup.standard.scan argv).filterMap ArgItem.diagnostic? :=
  diagnostics_parseWith _ _ _ _ _ _

/-! ## Arguments behind the terminator -/

theorem findSome?_missingValue?_terminator (l : OptionLookup) (tokens : List String) :
    (l.scan ("--" :: tokens)).findSome? ArgItem.missingValue? = none := by
  simp [OptionLookup.scan_terminator, ArgItem.missingValue?]

theorem argEdits_terminator (tokens : List String) :
    argEdits ("--" :: tokens) = tokens.map .input := by
  simp [argEdits, OptionLookup.scan_terminator, List.filterMap_map, Function.comp_def,
    ArgItem.edit?]

theorem diagnostics_parse_terminator (tokens : List String) (cxx pieDefault : Bool) :
    (parse ("--" :: tokens) cxx pieDefault).diagnostics = [] := by
  simp [diagnostics_parse, OptionLookup.scan_terminator, ArgItem.diagnostic?]

end Config

end CrossDriver
