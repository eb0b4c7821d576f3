import CrossDriver.Proofs.Text.WholeParts
import CrossDriver.Proofs.Traced
import CrossDriver.SearchPaths

namespace CrossDriver

namespace Path

def Whole (p : Path) : Prop :=
  ∀ name ∈ p.names, Text.Whole name.toList

theorem whole_ofString {s : String} (whole : Text.Whole s.toList) : (ofString s).Whole := by
  intro name mem
  obtain ⟨piece, cut, rfl⟩ := List.mem_map.mp mem
  rw [String.toList_ofList]
  exact whole.within (Text.infix_of_mem_pieces (List.mem_filter.mp cut).1)

theorem whole_join {p : Path} (before : p.Whole) {next : String}
    (behind : Text.Whole next.toList) : (p.join next).Whole := by
  rw [join]
  split
  · exact List.forall_mem_append.mpr ⟨before, whole_ofString behind⟩
  · exact whole_ofString behind

theorem whole_ofParts {first : String} (whole : Text.Whole first.toList) {parts : List String}
    (each : ∀ part ∈ parts, Text.Whole part.toList) : (ofParts first parts).Whole := by
  have further (p : Path) (before : p.Whole) : (parts.foldl join p).Whole := by
    induction parts generalizing p with
    | nil => exact before
    | cons part rest ih =>
      obtain ⟨own, later⟩ := List.forall_mem_cons.mp each
      exact ih later _ (whole_join before own)
  exact further _ (whole_ofString whole)

theorem whole_parent {p : Path} (whole : p.Whole) : p.parent.Whole :=
  fun name mem => whole name ((List.dropLast_sublist _).mem mem)

theorem whole_text {p : Path} (whole : p.Whole) : Text.Whole p.text.toList := by
  rw [text]
  split
  case isTrue => exact Text.whole_singleton '.'
  case isFalse =>
    have start : ∀ c ∈ p.start.text.toList, Text.Proper c := by
      cases p.start <;> exact Text.standsFor?_eq_none_of_all (by decide)
    have names : Text.Whole (Text.joined ['/'] (p.names.map String.toList)) := by
      refine Text.whole_joined (List.cons_ne_nil _ _) ?_ (List.forall_mem_map.mpr whole)
      exact Text.standsFor?_eq_none_of_all (by decide)
    rw [String.toList_append, Text.join, String.toList_ofList]
    exact names.proper_append start

end Path

theorem whole_underSysroot {sysroot : String} (whole : Text.Whole sysroot.toList)
    {parts : List String} (each : ∀ part ∈ parts, Text.Whole part.toList) :
    Text.Whole (underSysroot sysroot parts).toList := by
  rw [underSysroot]
  split
  · exact Text.whole_nil
  · exact Path.whole_text (Path.whole_ofParts whole each)

namespace SearchPaths

theorem whole_candidate {directory name : String} (outer : Text.Whole directory.toList)
    (inner : Text.Whole name.toList) : Text.Whole (candidate directory name).toList :=
  Path.whole_text (Path.whole_join (Path.whole_ofString outer) inner)

theorem whole_file {paths : SearchPaths} (whole : ∀ path ∈ paths.libraries, Text.Whole path.toList)
    {name : String} (own : Text.Whole name.toList) : Text.Whole (paths.file name).toList := by
  rw [file]
  split
  case h_1 => exact own
  case h_2 first more same => exact whole_candidate (whole first (same ▸ .head _)) own

theorem whole_search {present : String → Bool} {name : String} (own : Text.Whole name.toList)
    {directories : List (Option String)}
    (outer : ∀ directory, some directory ∈ directories → Text.Whole directory.toList)
    {found : ProgramSearch} (search : search present name directories = .ok found) :
    Text.Whole found.path.toList := by
  induction directories generalizing found with
  | nil =>
    cases search
    exact own
  | cons directory rest ih =>
    cases directory with
    | none => cases search
    | some directory =>
      rw [SearchPaths.search] at search
      split at search
      · cases search
        exact whole_candidate (outer directory (.head _)) own
      · obtain ⟨inner, later, rfl⟩ := exists_of_map_eq_ok search
        have whole : Text.Whole inner.path.toList :=
          ih (fun other mem => outer other (.tail _ mem)) later
        exact whole

end SearchPaths

end CrossDriver
