import CrossDriver.Proofs.DriverOption.Occurrence

namespace CrossDriver

namespace Config
open OptionLookup

def rejection? (arg : String) : Option Diagnostic :=
  (standard.itemsAt arg []).findSome? ArgItem.diagnostic?

theorem rejection?_eq_some_iff {arg : String} {d : Diagnostic} :
    rejection? arg = some d ↔ Rejects arg d := by
  constructor
  · intro found
    obtain ⟨item, mem, shown⟩ := List.exists_of_findSome?_eq_some found
    have report := ArgItem.diagnostic?_eq_some_iff.mp shown
    exact rejects_of_report_mem_itemsAt (report ▸ mem)
  · intro rejects
    rw [rejection?, itemsAt_of_rejects rejects]
    rfl

instance (arg : String) : Decidable (∃ d, Rejects arg d) :=
  decidable_of_iff ((rejection? arg).isSome = true) <| by
    simp only [Option.isSome_iff_exists, rejection?_eq_some_iff]

def judged (argv : List String) : List (String × Bool) :=
  argv.mapIdx fun i arg =>
    (arg, decide (standard.openAfter (argv.take i) = true ∧ ∃ d, Rejects arg d))

def rejected (argv : List String) : List String :=
  ((judged argv).filter (·.2)).map Prod.fst

def kept (argv : List String) : List String :=
  ((judged argv).filter (!·.2)).map Prod.fst

/-! ## Argument by argument -/

theorem not_rejects_of_awaiting {arg : String} {o : DriverOption}
    (matched : standard.matchArg arg = .awaiting o) : ¬∃ d, Rejects arg d := by
  rintro ⟨d, rejects⟩
  have further : arg ≠ "--" := by
    rintro rfl
    obtain ⟨listed, -, spelled⟩ := eq_of_matchArg_awaiting matched
    exact DriverOption.ne_terminator_of_recognises listed (DriverOption.recognises_spelling o)
      spelled.symm
  have reported := itemsAt_of_rejects rejects []
  rw [itemsAt, if_neg further, matched] at reported
  cases reported

theorem openAfter_terminator (l : OptionLookup) (tokens : List String) :
    l.openAfter ("--" :: tokens) = false := by
  cases tokens <;> simp [openAfter]

theorem judged_terminator (rest : List String) :
    judged ("--" :: rest) = ("--", false) :: rest.map fun arg => (arg, false) := by
  have plain : ¬∃ d, Rejects "--" d := by
    rintro ⟨d, rejects⟩
    have reported := itemsAt_of_rejects rejects []
    cases reported
  apply List.ext_getElem?
  intro i
  cases i <;> simp [judged, plain, openAfter_terminator]

theorem judged_alone {arg : String} {o : DriverOption}
    (matched : standard.matchArg arg = .awaiting o) : judged [arg] = [(arg, false)] := by
  simp [judged, not_rejects_of_awaiting matched]

theorem judged_pair {arg : String} (further : arg ≠ "--") {o : DriverOption}
    (matched : standard.matchArg arg = .awaiting o) (value : String) (rest : List String) :
    judged (arg :: value :: rest) = (arg, false) :: (value, false) :: judged rest := by
  simp [judged, List.mapIdx_cons, openAfter, further, matched, not_rejects_of_awaiting matched]

theorem judged_cons {arg : String} (further : arg ≠ "--")
    (matched : ∀ o, standard.matchArg arg ≠ .awaiting o) (rest : List String) :
    judged (arg :: rest) = (arg, decide (∃ d, Rejects arg d)) :: judged rest := by
  simp [judged, List.mapIdx_cons, openAfter_cons_of_not_awaiting further matched, openAfter]

theorem silent_itemsAt {arg : String} (counts : ¬∃ d, Rejects arg d) (behind : List String) :
    ∀ item ∈ standard.itemsAt arg behind, item.diagnostic? = none := by
  intro item mem
  cases shown : item.diagnostic? with
  | none => rfl
  | some d =>
    have report := ArgItem.diagnostic?_eq_some_iff.mp shown
    exact absurd ⟨d, rejects_of_report_mem_itemsAt (report ▸ mem)⟩ counts

theorem scan_cons_of_not_awaiting {arg : String} (further : arg ≠ "--")
    (matched : ∀ o, standard.matchArg arg ≠ .awaiting o) (rest : List String) :
    standard.scan (arg :: rest) = standard.itemsAt arg [] ++ standard.scan rest := by
  rw [scan_cons, itemsAt, itemsAt, unread, if_neg further, if_neg further, if_neg further]
  cases here : standard.matchArg arg with
  | awaiting o => exact absurd here (matched o)
  | complete _ _ | unknown | input => rfl

theorem scan_pair {arg : String} (further : arg ≠ "--") {o : DriverOption}
    (matched : standard.matchArg arg = .awaiting o) (value : String) (rest : List String) :
    standard.scan (arg :: value :: rest) =
      standard.itemsAt arg [value] ++ standard.scan rest := by
  rw [scan_cons, itemsAt, itemsAt, unread, if_neg further, if_neg further, if_neg further, matched]
  rfl

/-! ## All arguments -/

theorem scan_kept (argv : List String) :
    standard.scan (kept argv) = (standard.scan argv).filter (·.diagnostic?.isNone) := by
  fun_induction openAfter standard argv with
  | case1 => rfl
  | case2 rest =>
    simp [kept, judged_terminator, scan_terminator, List.filter_map, Function.comp_def,
      ArgItem.diagnostic?]
  | case3 arg further o matched =>
    simp [kept, judged_alone matched, scan, further, matched, ArgItem.diagnostic?]
  | case4 arg further o matched value rest ih =>
    have both : kept (arg :: value :: rest) = arg :: value :: kept rest := by
      simp [kept, judged_pair further matched]
    have silent := silent_itemsAt (not_rejects_of_awaiting matched) [value]
    rw [both, scan_pair further matched, scan_pair further matched, List.filter_append, ih,
      List.filter_eq_self.mpr fun item mem => Option.isNone_iff_eq_none.mpr (silent item mem)]
  | case5 arg rest further matched ih =>
    rw [scan_cons_of_not_awaiting further matched, List.filter_append, ← ih]
    -- Only an argument in the place of an option can be left out.
    by_cases counts : ∃ d, Rejects arg d
    · have dropped : kept (arg :: rest) = kept rest := by
        simp [kept, judged_cons further matched, counts]
      obtain ⟨d, rejects⟩ := counts
      rw [dropped, itemsAt_of_rejects rejects]
      rfl
    · have stays : kept (arg :: rest) = arg :: kept rest := by
        simp [kept, judged_cons further matched, counts]
      have silent := silent_itemsAt counts []
      rw [stays, scan_cons_of_not_awaiting further matched,
        List.filter_eq_self.mpr fun item mem => Option.isNone_iff_eq_none.mpr (silent item mem)]

/-- Each rejected argument is reported, in its turn, and nothing else is. -/
theorem forall₂_rejects (argv : List String) :
    List.Forall₂ Rejects (rejected argv) ((standard.scan argv).filterMap ArgItem.diagnostic?) := by
  fun_induction openAfter standard argv with
  | case1 => exact .nil
  | case2 rest =>
    simp [rejected, judged_terminator, scan_terminator, List.filter_map, Function.comp_def,
      ArgItem.diagnostic?]
  | case3 arg further o matched =>
    simp [rejected, judged_alone matched, scan, further, matched, ArgItem.diagnostic?]
  | case4 arg further o matched value rest ih =>
    have neither : rejected (arg :: value :: rest) = rejected rest := by
      simp [rejected, judged_pair further matched]
    have silent := silent_itemsAt (not_rejects_of_awaiting matched) [value]
    rwa [neither, scan_pair further matched, List.filterMap_append,
      List.filterMap_eq_nil_iff.mpr silent, List.nil_append]
  | case5 arg rest further matched ih =>
    rw [scan_cons_of_not_awaiting further matched, List.filterMap_append]
    by_cases counts : ∃ d, Rejects arg d
    · have first : rejected (arg :: rest) = arg :: rejected rest := by
        simp [rejected, judged_cons further matched, counts]
      obtain ⟨d, rejects⟩ := counts
      rw [first, itemsAt_of_rejects rejects]
      exact .cons rejects ih
    · have later : rejected (arg :: rest) = rejected rest := by
        simp [rejected, judged_cons further matched, counts]
      rwa [later, List.filterMap_eq_nil_iff.mpr (silent_itemsAt counts []), List.nil_append]

example : rejected ["-o", "-x", "-flto=no", "-y", "-", "--", "-z"] = ["-flto=no", "-y"] := by
  decide +kernel

theorem filterMap_scan_kept {α : Type} {f : ArgItem → Option α}
    (unreported : ∀ d, f (.report d) = none) (argv : List String) :
    (standard.scan (kept argv)).filterMap f = (standard.scan argv).filterMap f := by
  rw [scan_kept, List.filterMap_filter]
  congr 1
  funext item
  cases item with
  | report d => exact (unreported d).symm
  | edit _ | missingValue _ => rfl

/-- Rejected arguments leave nothing but what is reported of them: without them there is the same
configuration and no report, and with them there is one report for each, in their order. -/
theorem parse_kept (argv : List String) (cxx pieDefault : Bool) :
    (parse (kept argv) cxx pieDefault).result = (parse argv cxx pieDefault).result ∧
      (parse (kept argv) cxx pieDefault).diagnostics = [] ∧
      List.Forall₂ Rejects (rejected argv) (parse argv cxx pieDefault).diagnostics := by
  refine ⟨?_, ?_, ?_⟩
  · apply result_parse_congr
    · rw [← List.head?_filterMap, ← List.head?_filterMap, filterMap_scan_kept fun _ => rfl]
    · exact filterMap_scan_kept (fun _ => rfl) argv
  · rw [diagnostics_parse, scan_kept, List.filterMap_eq_nil_iff]
    intro item mem
    exact Option.isNone_iff_eq_none.mp (List.mem_filter.mp mem).2
  · rw [diagnostics_parse]
    exact forall₂_rejects argv

end Config

end CrossDriver
