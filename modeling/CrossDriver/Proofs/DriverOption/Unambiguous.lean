import CrossDriver.Proofs.DriverOption.Reading
import CrossDriver.Proofs.Table
import Mathlib.Data.List.Nodup

/-!
# One option for an argument

An argument is recognised as an option by its whole text or by how it begins. A table is looked up
under whole spellings first, of which the last counts where two are equal, and then from the longest
spelling to the shortest, where those of one length stay in their order. No argument is recognised
as two options of the driver, so that neither the order of the table nor the search for the longest
spelling decides what an argument means.
-/

namespace CrossDriver

namespace DriverOption

def Recognises (o : DriverOption) (arg : String) : Prop :=
  if o.kind.isExact then o.spelling = arg else o.spelling.toList <+: arg.toList

def rest (o : DriverOption) (arg : String) : String :=
  String.ofList (arg.toList.drop o.spelling.length)

def takesNext (o : DriverOption) : Bool :=
  match o.kind with
  | .separate | .joinedOrSeparate => true
  | .flag | .joined => false

def reading (o : DriverOption) (arg : String) : OptionLookup.Match :=
  match o.kind with
  | .flag => .complete o ""
  | .separate => .awaiting o
  | .joined => .complete o (o.rest arg)
  | .joinedOrSeparate => if o.rest arg = "" then .awaiting o else .complete o (o.rest arg)

/-! ## Spellings -/

theorem eq_of_spelling_leads : ∀ o ∈ table, o.kind.isExact = false → ∀ p ∈ table,
    o.spelling.toList <+: p.spelling.toList → o = p := by
  have all : table.all (fun o => o.kind.isExact || table.all fun p =>
      !o.spelling.toList.isPrefixOf p.spelling.toList || decide (o = p)) = true := by
    decide +kernel
  intro o memo leads p memp begins
  have row := List.all_eq_true.mp all o memo
  rw [leads, Bool.false_or] at row
  have entry := List.all_eq_true.mp row p memp
  simpa [List.isPrefixOf_iff_prefix.mpr begins] using entry

theorem eq_of_spelling {o p : DriverOption} (memo : o ∈ table) (memp : p ∈ table)
    (same : o.spelling = p.spelling) : o = p :=
  List.inj_on_of_nodup_map spellings_nodup memo memp same

theorem prefix_of_recognises {o : DriverOption} {arg : String} (known : o.Recognises arg) :
    o.spelling.toList <+: arg.toList := by
  unfold Recognises at known
  split at known
  · exact known ▸ List.prefix_rfl
  · exact known

theorem spelling_of_recognises {o : DriverOption} (exact : o.kind.isExact = true) {arg : String}
    (known : o.Recognises arg) : o.spelling = arg := by
  rwa [Recognises, if_pos exact] at known

theorem recognises_append {o : DriverOption} (leads : o.kind.isExact = false) (value : String) :
    o.Recognises (o.spelling ++ value) := by
  rw [Recognises, leads, if_neg Bool.false_ne_true, String.toList_append]
  exact List.prefix_append _ _

theorem recognises_spelling (o : DriverOption) : o.Recognises o.spelling := by
  unfold Recognises
  split
  · rfl
  · exact List.prefix_rfl

theorem ne_terminator_of_recognises {o : DriverOption} (mem : o ∈ table) {arg : String}
    (known : o.Recognises arg) : arg ≠ "--" := by
  have none_begins : ∀ o ∈ table, o.spelling.toList.isPrefixOf "--".toList = false := by
    decide +kernel
  rintro rfl
  have begins := List.isPrefixOf_iff_prefix.mpr (prefix_of_recognises known)
  rw [none_begins o mem] at begins
  cases begins

theorem eq_of_recognises {o p : DriverOption} (memo : o ∈ table) (memp : p ∈ table) {arg : String}
    (first : o.Recognises arg) (second : p.Recognises arg) : o = p := by
  cases exact_o : o.kind.isExact with
  | false =>
    cases exact_p : p.kind.isExact with
    | false =>
      rcases List.prefix_or_prefix_of_prefix (prefix_of_recognises first)
        (prefix_of_recognises second) with begins | begins
      · exact eq_of_spelling_leads o memo exact_o p memp begins
      · exact (eq_of_spelling_leads p memp exact_p o memo begins).symm
    | true =>
      have whole := spelling_of_recognises exact_p second
      exact eq_of_spelling_leads o memo exact_o p memp (whole ▸ prefix_of_recognises first)
  | true =>
    have whole := spelling_of_recognises exact_o first
    cases exact_p : p.kind.isExact with
    | false =>
      exact (eq_of_spelling_leads p memp exact_p o memo (whole ▸ prefix_of_recognises second)).symm
    | true =>
      have other := spelling_of_recognises exact_p second
      exact eq_of_spelling memo memp (whole.trans other.symm)

theorem rest_append (o : DriverOption) (value : String) : o.rest (o.spelling ++ value) = value := by
  simp [rest, ← String.length_toList]

theorem rest_spelling (o : DriverOption) : o.rest o.spelling = "" := by
  have whole := rest_append o ""
  rwa [String.append_empty] at whole

theorem append_rest {o : DriverOption} {arg : String} (begins : o.spelling.toList <+: arg.toList) :
    o.spelling ++ o.rest arg = arg := by
  obtain ⟨value, split⟩ := begins
  apply String.toList_injective
  rw [String.toList_append, rest, String.toList_ofList, ← split, ← String.length_toList,
    List.drop_left]

theorem reading_ne_unknown (o : DriverOption) (arg : String) : o.reading arg ≠ .unknown := by
  cases kind : o.kind with
  | flag | separate | joined => simp [reading, kind]
  | joinedOrSeparate => by_cases bare : o.rest arg = "" <;> simp [reading, kind, bare]

theorem reading_of_exact {o : DriverOption} (exact : o.kind.isExact = true) (arg : String) :
    o.reading arg = if o.kind = .separate then .awaiting o else .complete o "" := by
  cases kind : o.kind with
  | flag | separate => simp [reading, kind]
  | joined | joinedOrSeparate => simp [kind, OptionKind.isExact] at exact

theorem reading_of_leading {o : DriverOption} (leading : o.kind.isExact = false) (arg : String) :
    o.reading arg = if o.rest arg = "" ∧ o.kind = .joinedOrSeparate then .awaiting o
      else .complete o (o.rest arg) := by
  cases kind : o.kind with
  | flag | separate => simp [kind, OptionKind.isExact] at leading
  | joined | joinedOrSeparate => simp [reading, kind]

theorem longest?_eq_none_iff {options : List DriverOption} :
    longest? options = none ↔ options = [] := by
  cases options with
  | nil => simp [longest?]
  | cons first more =>
    rw [longest?]
    cases longest? more with
    | none => simp
    | some other => by_cases shorter : first.spelling.length < other.spelling.length <;>
        simp [shorter]

/-! ## Ways into a table -/

def bySpelling (options : List DriverOption) : Table DriverOption :=
  .ofList ((options.filter (·.kind.isExact)).map fun o => (o.spelling, o))

def noShorter (o p : DriverOption) : Bool :=
  p.spelling.length ≤ o.spelling.length

def longestFirst (options : List DriverOption) : List DriverOption :=
  (options.filter (!·.kind.isExact)).mergeSort noShorter

def leads (o : DriverOption) (arg : String) : Bool :=
  o.spelling.toList.isPrefixOf arg.toList

def lookUp? (options : List DriverOption) (arg : String) : Option DriverOption :=
  ((bySpelling options).get? arg).or ((longestFirst options).find? (·.leads arg))

theorem leads_iff {o : DriverOption} {arg : String} :
    o.leads arg = true ↔ o.spelling.toList <+: arg.toList :=
  List.isPrefixOf_iff_prefix

theorem get?_map_spelling (options : List DriverOption) (arg : String) :
    Table.get? (options.map fun o => (o.spelling, o)) arg =
      options.find? (·.spelling = arg) := by
  induction options with
  | nil => rfl
  | cons o rest ih =>
    rw [List.map_cons, Table.get?, ih, List.find?_cons]
    by_cases own : o.spelling = arg <;> simp [own]

theorem get?_bySpelling (options : List DriverOption) (arg : String) :
    (bySpelling options).get? arg =
      (options.filter (·.kind.isExact)).reverse.find? (·.spelling = arg) := by
  rw [bySpelling, Table.get?_ofList, Table.last?, ← List.map_reverse, get?_map_spelling]

theorem noShorter_trans (o p q : DriverOption) (op : noShorter o p = true)
    (pq : noShorter p q = true) : noShorter o q = true := by
  simp only [noShorter, decide_eq_true_eq] at *
  exact Nat.le_trans pq op

theorem noShorter_total (o p : DriverOption) : (noShorter o p || noShorter p o) = true := by
  simp only [noShorter, Bool.or_eq_true, decide_eq_true_eq]
  exact Nat.le_total _ _

/-- The first that fits of the options in a stable order by length is the first of the longest that
fit. -/
theorem find?_mergeSort_noShorter (options : List DriverOption) (fits : DriverOption → Bool) :
    (options.mergeSort noShorter).find? fits = longest? (options.filter fits) := by
  induction options with
  | nil => rw [List.mergeSort_nil]; rfl
  | cons o rest ih =>
    -- The sort puts the first option behind those that are longer and before all others.
    obtain ⟨longer, others, sorted, sorted_rest, behind⟩ :=
      List.mergeSort_cons noShorter_trans noShorter_total o rest
    have ordered := List.pairwise_mergeSort noShorter_trans noShorter_total (o :: rest)
    rw [sorted] at ordered ⊢
    rw [sorted_rest, List.find?_append] at ih
    rw [List.find?_append]
    by_cases fit : fits o = true
    · rw [List.find?_cons_of_pos fit, List.filter_cons_of_pos fit, longest?, ← ih]
      cases first : longer.find? fits with
      | some p =>
        have shorter : o.spelling.length < p.spelling.length := by
          simpa [noShorter] using behind p (List.mem_of_find?_eq_some first)
        simp [shorter]
      | none =>
        cases next : others.find? fits with
        | none => simp
        | some p =>
          have later := (List.pairwise_append.mp ordered).2.1
          have none_longer := (List.pairwise_cons.mp later).1 p (List.mem_of_find?_eq_some next)
          have no_shorter : ¬o.spelling.length < p.spelling.length := by
            simpa [noShorter] using none_longer
          simp [no_shorter]
    · rw [List.find?_cons_of_neg fit, List.filter_cons_of_neg fit, ih]

theorem find?_longestFirst (options : List DriverOption) (arg : String) :
    (longestFirst options).find? (·.leads arg) =
      longest? ((options.filter (!·.kind.isExact)).filter (·.leads arg)) :=
  find?_mergeSort_noShorter _ _

/-! ## What is found -/

variable {options : List DriverOption}

theorem recognises_of_lookUp? {arg : String} {o : DriverOption}
    (found : lookUp? options arg = some o) : o ∈ options ∧ o.Recognises arg := by
  rw [lookUp?, get?_bySpelling, find?_longestFirst, Option.or_eq_some_iff] at found
  rcases found with whole | ⟨-, beginning⟩
  · obtain ⟨mem, exact⟩ := List.mem_filter.mp
      (List.mem_reverse.mp (List.mem_of_find?_eq_some whole))
    exact ⟨mem, by simpa [Recognises, exact] using List.find?_some whole⟩
  · obtain ⟨leads, begins⟩ := List.mem_filter.mp (longest?_mem beginning)
    obtain ⟨mem, leading⟩ := List.mem_filter.mp leads
    rw [Bool.not_eq_true'] at leading
    exact ⟨mem, by simpa [Recognises, leading] using leads_iff.mp begins⟩

theorem lookUp?_eq_none_iff {arg : String} :
    lookUp? options arg = none ↔ ∀ o ∈ options, ¬o.Recognises arg := by
  constructor
  · intro missed o mem known
    rw [lookUp?, get?_bySpelling, find?_longestFirst, Option.or_eq_none_iff] at missed
    obtain ⟨whole, beginning⟩ := missed
    cases exact : o.kind.isExact with
    | true =>
      have listed : o ∈ (options.filter (·.kind.isExact)).reverse :=
        List.mem_reverse.mpr (List.mem_filter.mpr ⟨mem, exact⟩)
      exact List.find?_eq_none.mp whole o listed
        (decide_eq_true (spelling_of_recognises exact known))
    | false =>
      have listed : o ∈ options.filter (!·.kind.isExact) :=
        List.mem_filter.mpr ⟨mem, by rw [exact]; rfl⟩
      have fits : o ∈ (options.filter (!·.kind.isExact)).filter (·.leads arg) :=
        List.mem_filter.mpr ⟨listed, leads_iff.mpr (prefix_of_recognises known)⟩
      rw [longest?_eq_none_iff.mp beginning] at fits
      cases fits
  · intro unknown
    cases found : lookUp? options arg with
    | none => rfl
    | some o =>
      obtain ⟨mem, known⟩ := recognises_of_lookUp? found
      exact absurd known (unknown o mem)

end DriverOption

/-! ## Arguments -/

namespace OptionLookup
open DriverOption

theorem matchExact?_ofTable (options : List DriverOption) (arg : String) :
    (ofTable options).matchExact? arg =
      ((bySpelling options).get? arg).map (·.reading arg) := by
  rw [matchExact?, get?_bySpelling]
  apply Option.map_congr
  intro o found
  have listed := List.mem_reverse.mp (List.mem_of_find?_eq_some found)
  exact (reading_of_exact (List.mem_filter.mp listed).2 arg).symm

theorem matchLeading?_ofTable (options : List DriverOption) (arg : String) :
    (ofTable options).matchLeading? arg =
      ((longestFirst options).find? (·.leads arg)).map (·.reading arg) := by
  rw [find?_longestFirst]
  have chosen : (ofTable options).matchLeading? arg =
      (longest? ((options.filter (!·.kind.isExact)).filter (·.leads arg))).map fun o =>
        if arg.toList.drop o.spelling.length = [] ∧ o.kind = .joinedOrSeparate then .awaiting o
        else .complete o (String.ofList (arg.toList.drop o.spelling.length)) := by
    rw [Option.map_eq_bind]
    rfl
  rw [chosen]
  apply Option.map_congr
  intro o found
  have listed := (List.mem_filter.mp (longest?_mem found)).1
  have leading : o.kind.isExact = false := by simpa using (List.mem_filter.mp listed).2
  rw [reading_of_leading leading, rest]
  simp

theorem matchArg_ofTable (options : List DriverOption) (arg : String) :
    (ofTable options).matchArg arg =
      ((lookUp? options arg).map (·.reading arg)).getD
        (if looksLikeOption arg then .unknown else .input) := by
  rw [matchArg, matchExact?_ofTable, matchLeading?_ofTable, lookUp?, Option.map_or]

theorem matchArg_cases (arg : String) :
    (∃ o ∈ table, o.Recognises arg ∧ standard.matchArg arg = o.reading arg) ∨
      (∀ o ∈ table, ¬o.Recognises arg) ∧
        standard.matchArg arg = if looksLikeOption arg then .unknown else .input := by
  have read : standard.matchArg arg = ((lookUp? table arg).map (·.reading arg)).getD
      (if looksLikeOption arg then .unknown else .input) := matchArg_ofTable table arg
  cases found : lookUp? table arg with
  | some o =>
    obtain ⟨mem, known⟩ := recognises_of_lookUp? found
    rw [found] at read
    exact .inl ⟨o, mem, known, read⟩
  | none =>
    rw [found] at read
    exact .inr ⟨lookUp?_eq_none_iff.mp found, read⟩

theorem matchArg_of_recognises {o : DriverOption} (mem : o ∈ table) {arg : String}
    (known : o.Recognises arg) : standard.matchArg arg = o.reading arg := by
  rcases matchArg_cases arg with ⟨p, memp, also, read⟩ | ⟨none, -⟩
  · rwa [eq_of_recognises mem memp known also]
  · exact absurd known (none o mem)

theorem matchArg_joined {o : DriverOption} (mem : o ∈ table) (kind : o.kind = .joined)
    (value : String) : standard.matchArg (o.spelling ++ value) = .complete o value := by
  have known := recognises_append (by rw [kind]; rfl) value
  rw [matchArg_of_recognises mem known, reading, kind]
  simp [rest_append]

theorem matchArg_glued {o : DriverOption} (mem : o ∈ table) (kind : o.kind = .joinedOrSeparate)
    {value : String} (ne : value ≠ "") :
    standard.matchArg (o.spelling ++ value) = .complete o value := by
  have known := recognises_append (by rw [kind]; rfl) value
  rw [matchArg_of_recognises mem known, reading, kind]
  simp [rest_append, ne]

theorem matchArg_takesNext {o : DriverOption} (mem : o ∈ table) (takes : o.takesNext = true) :
    standard.matchArg o.spelling = .awaiting o := by
  rw [matchArg_of_recognises mem (recognises_spelling o), reading]
  cases kind : o.kind with
  | flag | joined => simp [takesNext, kind] at takes
  | separate => rfl
  | joinedOrSeparate => exact if_pos (rest_spelling o)

theorem eq_of_matchArg_complete {arg value : String} {o : DriverOption}
    (matched : standard.matchArg arg = .complete o value) :
    o ∈ table ∧ o.kind ≠ .separate ∧ arg = o.spelling ++ value := by
  rcases matchArg_cases arg with ⟨p, mem, known, read⟩ | ⟨-, read⟩
  · rw [matched] at read
    have begins := append_rest (prefix_of_recognises known)
    cases kind : p.kind with
    | flag =>
      simp only [reading, kind, Match.complete.injEq] at read
      obtain ⟨rfl, rfl⟩ := read
      have whole := spelling_of_recognises (by rw [kind]; rfl) known
      exact ⟨mem, by simp [kind], by simp [whole]⟩
    | separate => simp [reading, kind] at read
    | joined =>
      simp only [reading, kind, Match.complete.injEq] at read
      obtain ⟨rfl, rfl⟩ := read
      exact ⟨mem, by simp [kind], begins.symm⟩
    | joinedOrSeparate =>
      simp only [reading, kind] at read
      split at read
      · cases read
      · obtain ⟨rfl, rfl⟩ := Match.complete.inj read
        exact ⟨mem, by simp [kind], begins.symm⟩
  · rw [matched] at read
    split at read <;> cases read

theorem eq_of_matchArg_awaiting {arg : String} {o : DriverOption}
    (matched : standard.matchArg arg = .awaiting o) :
    o ∈ table ∧ o.kind ≠ .joined ∧ arg = o.spelling := by
  rcases matchArg_cases arg with ⟨p, mem, known, read⟩ | ⟨-, read⟩
  · rw [matched] at read
    have begins := append_rest (prefix_of_recognises known)
    cases kind : p.kind with
    | flag | joined => simp [reading, kind] at read
    | separate =>
      simp only [reading, kind, Match.awaiting.injEq] at read
      subst read
      have whole := spelling_of_recognises (by rw [kind]; rfl) known
      exact ⟨mem, by simp [kind], whole.symm⟩
    | joinedOrSeparate =>
      simp only [reading, kind] at read
      split at read
      case isTrue bare =>
        cases read
        rw [bare, String.append_empty] at begins
        exact ⟨mem, by simp [kind], begins.symm⟩
      case isFalse => cases read
  · rw [matched] at read
    split at read <;> cases read

end OptionLookup

end CrossDriver
