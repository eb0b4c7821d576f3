import CrossDriver.Proofs.DriverOption.Occurrence
import Mathlib.Algebra.Ring.Parity
import Mathlib.Data.List.Induction

/-!
# A value that is missing at the end

When an option at the end of driver arguments lacks its value. Options that take the argument behind
them may stand in a row; every second of them is then a value, so that what matters is how many
there are.
-/

namespace CrossDriver

/-! ## Options that take the next argument -/

namespace DriverOption

def valueTakers : List String :=
  (table.filter (·.takesNext)).map spelling

example : valueTakers =
    ["--sysroot", "-target", "--rtlib", "--stdlib", "-o", "-L", "-u", "-l", "-Xlinker"] := by
  decide +kernel

theorem terminator_not_mem_valueTakers : "--" ∉ valueTakers := by
  decide +kernel

theorem mem_valueTakers_iff {arg : String} :
    arg ∈ valueTakers ↔ ∃ o ∈ table, o.takesNext = true ∧ o.spelling = arg := by
  simp only [valueTakers, List.mem_map, List.mem_filter, and_assoc]

end DriverOption

namespace OptionLookup
open DriverOption

theorem awaiting_iff {arg : String} :
    (∃ o, standard.matchArg arg = .awaiting o) ↔ arg ∈ valueTakers := by
  rw [mem_valueTakers_iff]
  constructor
  · rintro ⟨o, matched⟩
    obtain ⟨listed, -, rfl⟩ := eq_of_matchArg_awaiting matched
    refine ⟨o, listed, ?_, rfl⟩
    rw [matchArg_of_recognises listed (recognises_spelling o), reading] at matched
    cases kind : o.kind with
    | flag | joined => simp [kind] at matched
    | separate | joinedOrSeparate => simp [takesNext, kind]
  · rintro ⟨o, listed, takes, rfl⟩
    exact ⟨o, matchArg_takesNext listed takes⟩

/-! ## Rows of them -/

/-- How many of the options stand in a row at the end. -/
def takersAtEnd (argv : List String) : Nat :=
  (argv.reverse.takeWhile (· ∈ valueTakers)).length

def Terminated (argv : List String) : Prop :=
  ∃ before behind, argv = before ++ "--" :: behind ∧ Even (takersAtEnd before)

theorem takersAtEnd_nil : takersAtEnd [] = 0 := rfl

theorem takersAtEnd_append_singleton {arg : String} (takes : arg ∈ valueTakers)
    (before : List String) : takersAtEnd (before ++ [arg]) = takersAtEnd before + 1 := by
  simp [takersAtEnd, takes]

theorem takersAtEnd_append_of_not_mem {arg : String} (plain : arg ∉ valueTakers)
    (before : List String) : takersAtEnd (before ++ [arg]) = 0 := by
  simp [takersAtEnd, plain]

theorem takersAtEnd_append (before behind : List String) :
    takersAtEnd (before ++ behind) =
      if ∀ arg ∈ behind, arg ∈ valueTakers then takersAtEnd before + behind.length
      else takersAtEnd behind := by
  induction behind using List.reverseRecOn with
  | nil => simp
  | append_singleton behind arg ih =>
    rw [← List.append_assoc]
    by_cases takes : arg ∈ valueTakers
    · have both : (∀ a ∈ behind ++ [arg], a ∈ valueTakers) ↔ ∀ a ∈ behind, a ∈ valueTakers := by
        rw [List.forall_mem_append, List.forall_mem_singleton]
        exact and_iff_left takes
      rw [takersAtEnd_append_singleton takes, takersAtEnd_append_singleton takes, ih]
      simp only [both, List.length_append, List.length_singleton, ← Nat.add_assoc]
      split <;> rfl
    · rw [takersAtEnd_append_of_not_mem takes, takersAtEnd_append_of_not_mem takes]
      simp [takes]

theorem takersAtEnd_cons_of_not_mem {arg : String} (plain : arg ∉ valueTakers)
    (rest : List String) : takersAtEnd (arg :: rest) = takersAtEnd rest := by
  have alone : takersAtEnd [arg] = 0 := takersAtEnd_append_of_not_mem plain []
  rw [← List.singleton_append, takersAtEnd_append, alone, Nat.zero_add]
  split
  · next all =>
    have whole := takersAtEnd_append [] rest
    rw [if_pos all, takersAtEnd_nil, Nat.zero_add] at whole
    exact whole.symm
  · rfl

theorem even_takersAtEnd_pair {arg : String} (takes : arg ∈ valueTakers) (value : String)
    (rest : List String) : Even (takersAtEnd (arg :: value :: rest)) ↔ Even (takersAtEnd rest) := by
  have own := takersAtEnd_append [] rest
  rw [List.nil_append, takersAtEnd_nil, Nat.zero_add] at own
  have pair : Even (takersAtEnd [arg, value]) := by
    by_cases more : value ∈ valueTakers <;> simp [takersAtEnd, takes, more, even_two]
  change Even (takersAtEnd ([arg, value] ++ rest)) ↔ _
  rw [takersAtEnd_append]
  split
  · next all =>
    rw [own, if_pos all, Nat.even_add]
    exact iff_true_left pair
  · rfl

theorem terminated_cons_of_not_mem {arg : String} (further : arg ≠ "--")
    (plain : arg ∉ valueTakers) {rest : List String} :
    Terminated (arg :: rest) ↔ Terminated rest := by
  constructor
  · rintro ⟨before, behind, split, even⟩
    cases before with
    | nil => exact absurd (List.cons.inj split).1 further
    | cons first before =>
      obtain ⟨rfl, later⟩ := List.cons.inj split
      rw [takersAtEnd_cons_of_not_mem plain] at even
      exact ⟨before, behind, later, even⟩
  · rintro ⟨before, behind, rfl, even⟩
    exact ⟨arg :: before, behind, rfl, by rwa [takersAtEnd_cons_of_not_mem plain]⟩

theorem terminated_pair {arg : String} (takes : arg ∈ valueTakers) {value : String}
    {rest : List String} : Terminated (arg :: value :: rest) ↔ Terminated rest := by
  constructor
  · rintro ⟨before, behind, split, even⟩
    match before with
    | [] =>
      obtain ⟨rfl, -⟩ := List.cons.inj split
      exact absurd takes terminator_not_mem_valueTakers
    | [first] =>
      obtain ⟨rfl, -⟩ := List.cons.inj split
      have odd : takersAtEnd [arg] = 1 := takersAtEnd_append_singleton takes []
      rw [odd] at even
      exact absurd even (by decide)
    | first :: second :: before =>
      obtain ⟨rfl, tail⟩ := List.cons.inj split
      obtain ⟨rfl, later⟩ := List.cons.inj tail
      exact ⟨before, behind, later, (even_takersAtEnd_pair takes value before).mp even⟩
  · rintro ⟨before, behind, rfl, even⟩
    exact ⟨arg :: value :: before, behind, rfl, (even_takersAtEnd_pair takes value before).mpr even⟩

theorem terminated_append {before : List String} (ended : Terminated before)
    (behind : List String) : Terminated (before ++ behind) := by
  obtain ⟨first, second, rfl, even⟩ := ended
  exact ⟨first, second ++ behind, by simp, even⟩

/-! ## The place of an option, and a value that is missing -/

theorem openAfter_iff {argv : List String} :
    standard.openAfter argv = true ↔ ¬Terminated argv ∧ Even (takersAtEnd argv) := by
  fun_induction openAfter standard argv with
  | case1 => simp [Terminated, takersAtEnd_nil]
  | case2 rest =>
    have ended : Terminated ("--" :: rest) := ⟨[], rest, rfl, Even.zero⟩
    simp [ended]
  | case3 arg further o matched =>
    have takes := awaiting_iff.mp ⟨o, matched⟩
    have odd : takersAtEnd [arg] = 1 := takersAtEnd_append_singleton takes []
    simp [odd]
  | case4 arg further o matched value rest ih =>
    have takes := awaiting_iff.mp ⟨o, matched⟩
    rw [ih, terminated_pair takes, even_takersAtEnd_pair takes]
  | case5 arg rest further matched ih =>
    have plain : arg ∉ valueTakers := fun takes =>
      (awaiting_iff.mpr takes).elim fun o awaits => matched o awaits
    rw [ih, terminated_cons_of_not_mem further plain, takersAtEnd_cons_of_not_mem plain]

structure LacksValue (argv : List String) (option : String) : Prop where
  unterminated : ¬Terminated argv
  odd : Odd (takersAtEnd argv)
  last : argv.getLast? = some option

theorem LacksValue.exists_of_odd {argv : List String} (unterminated : ¬Terminated argv)
    (odd : Odd (takersAtEnd argv)) : ∃ option, LacksValue argv option := by
  cases last : argv.getLast? with
  | none =>
    rw [List.getLast?_eq_none_iff.mp last, takersAtEnd_nil] at odd
    exact absurd odd (by decide)
  | some option => exact ⟨option, unterminated, odd, last⟩

theorem lacksValue_iff {argv : List String} {option : String} :
    LacksValue argv option ↔ ∃ before, argv = before ++ [option] ∧ option ∈ valueTakers ∧
      standard.openAfter before = true := by
  constructor
  · rintro ⟨unterminated, odd, last⟩
    obtain ⟨before, rfl⟩ := List.getLast?_eq_some_iff.mp last
    have takes : option ∈ valueTakers := by
      by_contra plain
      rw [takersAtEnd_append_of_not_mem plain] at odd
      exact absurd odd (by decide)
    rw [takersAtEnd_append_singleton takes, Nat.odd_add_one, Nat.not_odd_iff_even] at odd
    refine ⟨before, rfl, takes, openAfter_iff.mpr ⟨fun ended => ?_, odd⟩⟩
    exact unterminated (terminated_append ended _)
  · rintro ⟨before, rfl, takes, place⟩
    obtain ⟨unterminated, even⟩ := openAfter_iff.mp place
    refine ⟨?_, ?_, List.getLast?_concat⟩
    · rintro ⟨first, behind, split, even⟩
      -- The last argument is no `--`, so that the terminator would stand before it.
      rcases List.eq_nil_or_concat behind with rfl | ⟨inner, last, rfl⟩
      · obtain ⟨-, same⟩ := List.append_inj' split rfl
        exact terminator_not_mem_valueTakers (List.singleton_inj.mp same ▸ takes)
      · rw [List.concat_eq_append, ← List.cons_append, ← List.append_assoc] at split
        obtain ⟨same, -⟩ := List.append_inj' split rfl
        exact unterminated ⟨first, inner, same, even⟩
    · rw [takersAtEnd_append_singleton takes]
      exact even.add_one

theorem missingValue_mem_itemsAt_iff {arg option : String} {behind : List String} :
    .missingValue option ∈ standard.itemsAt arg behind ↔
      arg ∈ valueTakers ∧ behind = [] ∧ option = arg := by
  have silent (action : OptionAction) (value : String) :
      .missingValue option ∉ action.apply value := fun mem =>
    Option.some_ne_none _ (List.findSome?_eq_none_iff.mp
      (findSome?_missingValue?_apply action value) _ mem)
  unfold itemsAt
  split
  case isTrue terminates => simp [terminates, terminator_not_mem_valueTakers]
  case isFalse =>
    have plain (other : ∀ o, standard.matchArg arg ≠ .awaiting o) : arg ∉ valueTakers :=
      fun takes => (awaiting_iff.mpr takes).elim other
    split
    case h_1 o value matched => simp [silent, plain (by simp [matched])]
    case h_2 o matched =>
      have takes := awaiting_iff.mp ⟨o, matched⟩
      cases behind <;> simp [takes, silent]
    case h_3 matched => simp [plain (by simp [matched])]
    case h_4 matched => simp [plain (by simp [matched])]

theorem missingValue_mem_scan_iff {argv : List String} {option : String} :
    .missingValue option ∈ standard.scan argv ↔ LacksValue argv option := by
  rw [mem_scan_iff, lacksValue_iff]
  constructor
  · rintro ⟨before, arg, behind, ⟨split, place⟩, missing⟩
    obtain ⟨takes, rfl, rfl⟩ := missingValue_mem_itemsAt_iff.mp missing
    exact ⟨before, split, takes, place⟩
  · rintro ⟨before, split, takes, place⟩
    exact ⟨before, option, [], ⟨split, place⟩, missingValue_mem_itemsAt_iff.mpr ⟨takes, rfl, rfl⟩⟩

theorem findSome?_missingValue?_eq_some_iff {argv : List String} {option : String} :
    (standard.scan argv).findSome? ArgItem.missingValue? = some option ↔
      LacksValue argv option := by
  have read {other : String} (found : (standard.scan argv).findSome? ArgItem.missingValue? =
      some other) : LacksValue argv other := by
    obtain ⟨item, mem, lacks⟩ := List.exists_of_findSome?_eq_some found
    have missing := ArgItem.missingValue?_eq_some_iff.mp lacks
    exact missingValue_mem_scan_iff.mp (missing ▸ mem)
  refine ⟨read, fun lacks => ?_⟩
  cases found : (standard.scan argv).findSome? ArgItem.missingValue? with
  | none =>
    have mem := missingValue_mem_scan_iff.mpr lacks
    exact absurd (List.findSome?_eq_none_iff.mp found _ mem) (Option.some_ne_none _)
  | some other => rw [← lacks.last, (read found).last]

end OptionLookup

namespace Config
open OptionLookup

theorem result_parse_of_complete {argv : List String} (cxx pieDefault : Bool)
    (complete : (standard.scan argv).findSome? ArgItem.missingValue? = none) :
    ∃ c, (parse argv cxx pieDefault).result = .ok c :=
  ⟨_, result_parse_eq_ok_iff.mpr ⟨complete, rfl⟩⟩

theorem parse_dropLast_of_lacksValue {argv : List String} {option : String}
    (lacks : LacksValue argv option) (cxx pieDefault : Bool) :
    (∃ c, (parse argv.dropLast cxx pieDefault).result = .ok c) ∧
      (parse argv cxx pieDefault).diagnostics =
        (parse argv.dropLast cxx pieDefault).diagnostics := by
  obtain ⟨before, rfl, takes, place⟩ := lacksValue_iff.mp lacks
  rw [List.dropLast_concat]
  obtain ⟨o, matched⟩ := awaiting_iff.mpr takes
  have further : option ≠ "--" := fun same =>
    DriverOption.terminator_not_mem_valueTakers (same ▸ takes)
  have last : standard.scan [option] = [.missingValue option] := by
    rw [scan, if_neg further, matched]
  constructor
  · apply result_parse_of_complete
    cases missing : (standard.scan before).findSome? ArgItem.missingValue? with
    | none => rfl
    | some other =>
      have odd := (findSome?_missingValue?_eq_some_iff.mp missing).odd
      exact absurd (openAfter_iff.mp place).2 (Nat.not_even_iff_odd.mpr odd)
  · simp [diagnostics_parse, scan_append _ place, last, ArgItem.diagnostic?]

/-- Parsing fails just where no `--` ends the options and an odd number of options that take the
next argument stands at the end. The last one is then named, and what was reported of the arguments
before it stays reported. Everywhere else there is a configuration. -/
theorem parse_lacking_value (argv : List String) (cxx pieDefault : Bool) :
    ((∃ option, (parse argv cxx pieDefault).result = .error (.missingValue option)) ↔
      ¬Terminated argv ∧ Odd (takersAtEnd argv)) ∧
    (∀ option, (parse argv cxx pieDefault).result = .error (.missingValue option) →
      argv.getLast? = some option ∧
      (∃ c, (parse argv.dropLast cxx pieDefault).result = .ok c) ∧
      (parse argv cxx pieDefault).diagnostics =
        (parse argv.dropLast cxx pieDefault).diagnostics) ∧
    (¬(¬Terminated argv ∧ Odd (takersAtEnd argv)) →
      ∃ c, (parse argv cxx pieDefault).result = .ok c) := by
  have fails (option : String) :
      (parse argv cxx pieDefault).result = .error (.missingValue option) ↔
        LacksValue argv option :=
    result_parse_eq_missing_iff.trans findSome?_missingValue?_eq_some_iff
  refine ⟨⟨?_, ?_⟩, fun option failed => ?_, fun complete => ?_⟩
  · rintro ⟨option, failed⟩
    have lacks := (fails option).mp failed
    exact ⟨lacks.unterminated, lacks.odd⟩
  · rintro ⟨unterminated, odd⟩
    obtain ⟨option, lacks⟩ := LacksValue.exists_of_odd unterminated odd
    exact ⟨option, (fails option).mpr lacks⟩
  · have lacks := (fails option).mp failed
    exact ⟨lacks.last, parse_dropLast_of_lacksValue lacks cxx pieDefault⟩
  · apply result_parse_of_complete
    cases missing : (standard.scan argv).findSome? ArgItem.missingValue? with
    | none => rfl
    | some option =>
      have lacks := findSome?_missingValue?_eq_some_iff.mp missing
      exact absurd ⟨lacks.unterminated, lacks.odd⟩ complete

end Config

end CrossDriver
