import CrossDriver.Proofs.CommandLine.Reading

namespace CrossDriver.CommandLine

variable {α : Type}

theorem cutAtEquals_append {name : List Char} (free : '=' ∉ name) (value : List Char) :
    cutAtEquals (name ++ '=' :: value) = (name, some value) := by
  have pieces : Text.firstPieces '=' 1 (name ++ '=' :: value) = [name, value] := by
    induction name with
    | nil => simp [Text.firstPieces]
    | cons c rest ih =>
      obtain ⟨other, later⟩ := List.ne_and_not_mem_of_not_mem_cons free
      rw [List.cons_append, Text.firstPieces, if_neg (Ne.symm other), ih later]
  rw [cutAtEquals, pieces]

namespace Grammar

def Plain (g : Grammar α) : Prop :=
  ∀ entry ∈ g.named, '=' ∉ entry.1.toList

instance (g : Grammar α) : Decidable g.Plain :=
  inferInstanceAs (Decidable (∀ entry ∈ g.named, '=' ∉ entry.1.toList))

variable {g : Grammar α} {name arg : String} {value : List Char}

theorem find?_eq_none_of_equals (plain : g.Plain) (equals : '=' ∈ arg.toList) :
    g.find? arg = none := by
  have none_named : g.named.find? (·.1 = arg) = none := by
    apply List.find?_eq_none.mpr
    intro entry mem same
    exact plain entry mem (of_decide_eq_true same ▸ equals)
  rw [find?, none_named]
  rfl

section
variable (plain : g.Plain) (long : name.toList.take 2 = ['-', '-']) (free : '=' ∉ name.toList)
  (split : arg.toList = name.toList ++ '=' :: value)

include long in
theorem exists_of_long : ∃ rest, name.toList = '-' :: '-' :: rest := by
  match shape : name.toList with
  | [] | [_] => simp [shape] at long
  | first :: second :: rest =>
    rw [shape] at long
    cases long
    exact ⟨rest, rfl⟩

include plain long free split

theorem classify_of_equals :
    g.classify arg =
      match g.find? name with
      | some o => .ok (.assigned o value)
      | none => g.classifyCandidates arg := by
  obtain ⟨rest, dashes⟩ := exists_of_long long
  have equals : '=' ∈ arg.toList := by
    rw [split]
    simp
  have unnamed := find?_eq_none_of_equals plain equals
  have cut : cutAtEquals arg.toList = (name.toList, some value) := by
    rw [split, cutAtEquals_append free]
  have text (o : ProgramOption α) : withText o name.toList value = .assigned o value := by
    rw [dashes]
    rfl
  have shape : arg.toList = '-' :: '-' :: (rest ++ '=' :: value) := by
    rw [split, dashes]
    rfl
  simp only [classify, unnamed, cut, String.ofList_toList, text]
  rw [shape]
  rfl

theorem classify_assigned {o : ProgramOption α} (known : g.find? name = some o) :
    g.classify arg = .ok (.assigned o value) := by
  rw [classify_of_equals plain long free split, known]

theorem classify_foreign (foreign : ∀ entry ∈ g.named, ¬name.toList <+: entry.1.toList) :
    ∃ reading, g.classify arg = .ok reading := by
  have unknown : g.find? name = none := by
    rw [find?, Option.map_eq_none_iff, List.find?_eq_none]
    intro entry mem same
    exact foreign entry mem (of_decide_eq_true same ▸ List.prefix_rfl)
  have none_fits : g.candidates arg.toList = [] := by
    obtain ⟨rest, dashes⟩ := exists_of_long long
    have long_name : g.candidates arg.toList = g.longCandidates arg.toList := by
      rw [split, dashes]
      rfl
    rw [long_name, longCandidates, split, cutAtEquals_append free]
    apply List.filterMap_eq_nil_iff.mpr
    intro entry mem
    exact if_neg fun fits => foreign entry mem (List.isPrefixOf_iff_prefix.mp fits)
  rw [classify_of_equals plain long free split, unknown]
  dsimp only
  rw [classifyCandidates, none_fits]
  exact ⟨_, rfl⟩

end

end Grammar

/-- The sysroot that the listing of directories goes by, for the one that is spelled. -/
def heededSysroot (keepsMark : Bool) (sysroot : String) : Option String :=
  if sysroot = "--" ∧ !keepsMark then none else some sysroot

theorem heededSysroot_getD (keepsMark : Bool) (sysroot : String) :
    (heededSysroot keepsMark sysroot).getD "" =
      if sysroot = "--" ∧ !keepsMark then "" else sysroot := by
  rw [heededSysroot]
  split <;> rfl

theorem toList_sysrootArg (sysroot : String) :
    ("--sysroot=" ++ sysroot).toList = "--sysroot".toList ++ '=' :: sysroot.toList := by
  rw [String.toList_append]
  rfl

def sysrootOption : ProgramOption Directive :=
  ⟨["--sysroot"], some "DIR", "Target SDK root", .sysroot⟩

section
variable (keepsMark : Bool)

theorem classify_sysrootArg (sysroot : String) :
    (Command.paths.grammar keepsMark).classify ("--sysroot=" ++ sysroot) =
      .ok (.assigned sysrootOption sysroot.toList) := by
  have plain : (Command.paths.grammar keepsMark).Plain := by cases keepsMark <;> decide
  have free : '=' ∉ "--sysroot".toList := by decide
  exact Grammar.classify_assigned plain rfl free (toList_sysrootArg sysroot) rfl

theorem cluster_sysrootArg (arg sysroot : String) :
    (Command.paths.grammar keepsMark).cluster arg (.assigned sysrootOption sysroot.toList) =
      .complete [.act (.sysroot (heededSysroot keepsMark sysroot))] := by
  have valued : (Command.paths.grammar keepsMark).valued sysrootOption sysroot =
      .act (.sysroot (heededSysroot keepsMark sysroot)) := rfl
  rw [← valued, ← String.ofList_toList (s := sysroot)]
  simp only [String.toList_ofList]
  rfl

end

theorem classify_main_sysrootArg (sysroot : String) :
    ∃ reading, mainGrammar.classify ("--sysroot=" ++ sysroot) = .ok reading := by
  have plain : mainGrammar.Plain := by decide
  have free : '=' ∉ "--sysroot".toList := by decide
  have foreign : ∀ entry ∈ mainGrammar.named, ¬"--sysroot".toList <+: entry.1.toList := by decide
  exact Grammar.classify_foreign plain rfl free (toList_sysrootArg sysroot) foreign

theorem ofArgs_append_sysroot {keepsMark : Bool} {options : List String}
    (unmarked : "--" ∉ options) {r : Request}
    (asked : Invocation.ofArgs (Command.paths.name :: options) keepsMark = .run .paths r)
    (sysroot : String) :
    Invocation.ofArgs (Command.paths.name :: options ++ ["--sysroot=" ++ sysroot]) keepsMark =
      .run .paths { r with sysroot := heededSysroot keepsMark sysroot } := by
  have further : "--sysroot=" ++ sysroot ≠ "--" := by
    intro same
    have length := congrArg (List.length ∘ String.toList) same
    simp at length
  exact ofArgs_append_option unmarked asked further (classify_sysrootArg keepsMark sysroot)
    (cluster_sysrootArg keepsMark _ sysroot) (by simp) (classify_main_sysrootArg sysroot)

end CrossDriver.CommandLine
