import CrossDriver.FileTree
import CrossDriver.Proofs.Traced
import Mathlib.Data.List.Basic
import Mathlib.Tactic.SplitIfs

/-!
# Files that are written

A file that is written is found again at its path. Writing puts it where the walk along the path
ends, and the walk is the same afterwards: it goes through directories only, and the new file is in
the place of none of them.
-/

namespace CrossDriver.FileTree

/-! ## Walks -/

theorem walk_append (tree : FileTree) (here : Arrival) (first more : List String) :
    tree.walk here (first ++ more) = tree.walk (tree.walk here first) more := by
  induction first generalizing here with
  | nil => simp [walk]
  | cons name rest ih =>
    cases here with
    | directory location => exact ih _
    | file bytes => cases more <;> rfl
    | missing => cases more <;> rfl
    | behindFile => cases more <;> rfl
    | nameTooLong => cases more <;> rfl

theorem file?_put_of_ne {names other : List String} (ne : names ≠ other) (tree : FileTree)
    (bytes : ByteArray) : (tree.put names bytes).file? other = tree.file? other := by
  have kept : (tree.files.filter (·.1 ≠ names)).find? (·.1 = other) =
      tree.files.find? (·.1 = other) := by
    rw [List.find?_filter]
    congr 1
    funext file
    by_cases same : file.1 = other
    · simp [same, Ne.symm ne]
    · simp [same]
  simp only [put, file?, List.find?_append, kept]
  simp [ne]

theorem isDirectory_put {tree : FileTree} {other : List String} (is : tree.isDirectory other = true)
    (names : List String) (bytes : ByteArray) :
    (tree.put names bytes).isDirectory other = true := by
  simp only [isDirectory, Bool.or_eq_true, List.any_eq_true, Bool.and_eq_true] at is ⊢
  rcases is with start | ⟨file, mem, below⟩
  · exact .inl start
  · by_cases same : file.1 = names
    · exact .inr ⟨(names, bytes), by simp [put], same ▸ below⟩
    · exact .inr ⟨file, by simp [put, mem, same], below⟩

/-! ## The place of a file -/

def Closed (tree : FileTree) (names : List String) : Prop :=
  tree.file? names = none → tree.isDirectory names = false

theorem step_climb (tree : FileTree) (above : List String) :
    tree.step ".." above = .directory above.dropLast := rfl

theorem step_name {name : String} (no_climb : name ≠ "..") (fits : name.utf8ByteSize ≤ maxNameBytes)
    (tree : FileTree) (above : List String) :
    tree.step name above =
      match tree.file? (above ++ [name]) with
      | some bytes => .file bytes
      | none => if tree.isDirectory (above ++ [name]) then .directory (above ++ [name])
        else .missing :=
  (if_neg no_climb).trans (if_neg (Nat.not_lt.mpr fits))

theorem climbs_or_fits {tree : FileTree} {name : String} {above : List String}
    (arrives : tree.step name above ≠ .nameTooLong) :
    name = ".." ∨ name ≠ ".." ∧ name.utf8ByteSize ≤ maxNameBytes := by
  by_cases climbs : name = ".."
  · exact .inl climbs
  · refine .inr ⟨climbs, Nat.le_of_not_lt fun long => arrives ?_⟩
    simp only [step, if_neg climbs, if_pos long]

theorem step_put {tree : FileTree} {names : List String} (closed : tree.Closed names)
    (bytes : ByteArray) {name : String} {here next : List String}
    (stepped : tree.step name here = .directory next) :
    (tree.put names bytes).step name here = .directory next := by
  rcases climbs_or_fits (by rw [stepped]; exact Arrival.noConfusion) with rfl | ⟨no_climb, fits⟩
  · exact stepped
  · rw [step_name no_climb fits] at stepped ⊢
    split at stepped
    case h_1 => cases stepped
    case h_2 absent =>
      split at stepped
      case isTrue is =>
        cases stepped
        have other : names ≠ here ++ [name] := by
          rintro rfl
          rw [closed absent] at is
          cases is
        rw [file?_put_of_ne other, absent, if_pos (isDirectory_put is names bytes)]
      case isFalse => cases stepped

theorem walk_put {tree : FileTree} {names : List String} (closed : tree.Closed names)
    (bytes : ByteArray) {steps : List String} {here there : List String}
    (walked : tree.walk (.directory here) steps = .directory there) :
    (tree.put names bytes).walk (.directory here) steps = .directory there := by
  induction steps generalizing here with
  | nil => exact walked
  | cons name rest ih =>
    rw [walk] at walked ⊢
    cases stepped : tree.step name here with
    | directory next =>
      rw [stepped] at walked
      rw [step_put closed bytes stepped]
      exact ih walked
    | file _ => rw [stepped] at walked; cases rest <;> cases walked
    | missing => rw [stepped] at walked; cases rest <;> cases walked
    | behindFile => rw [stepped] at walked; cases rest <;> cases walked
    | nameTooLong => rw [stepped] at walked; cases rest <;> cases walked

/-! ## Writing -/

theorem makeDirectory_keeps {tree made : FileTree} {start : Arrival} {fromEnd : List String}
    (given : tree.makeDirectory start fromEnd = .ok made) :
    made.files = tree.files ∧ made.home = tree.home := by
  induction fromEnd generalizing made with
  | nil =>
    cases given
    exact ⟨rfl, rfl⟩
  | cons name before ih =>
    unfold makeDirectory at given
    split at given
    case h_1 =>
      cases given
      exact ⟨rfl, rfl⟩
    -- Nothing is there yet: this is the only case in which a directory is added.
    case h_5 =>
      obtain ⟨above, before_made, given⟩ := exists_of_bind_ok given
      have kept := ih before_made
      split at given
      case h_1 =>
        split at given
        case h_1 =>
          cases given
          exact kept
        case h_3 =>
          cases given
          exact kept
        all_goals cases given
      all_goals cases given
    all_goals cases given

/-- Where a file is put: in a directory that the path leads to, and in no directory's place. -/
theorem write_ok {tree written : FileTree} {p : Path} {bytes : ByteArray}
    (given : tree.write p bytes = .ok written) :
    holdsNul p = false ∧ p.text.utf8ByteSize ≤ maxPathBytes ∧
      ∃ (made : FileTree) (above : List String) (name : String), p.names = p.parent.names ++ [name] ∧
        made.home = tree.home ∧ made.files = tree.files ∧
        made.walk (made.startAt p) p.parent.names = .directory above ∧
        (∀ there, made.step name above ≠ .directory there) ∧
        made.step name above ≠ .nameTooLong ∧
        written = made.put (above ++ [name]) bytes := by
  unfold write at given
  split_ifs at given with nul long
  obtain ⟨made, directories, given⟩ := exists_of_bind_ok given
  obtain ⟨files, home⟩ := makeDirectory_keeps directories
  refine ⟨Bool.eq_false_iff.mpr nul, Nat.le_of_not_lt long, made, ?_⟩
  split at given
  case h_1 above name walked last =>
    have names : p.names = p.parent.names ++ [name] :=
      (List.dropLast_append_getLast? name last).symm
    split at given
    case h_1 => cases given
    case h_2 => cases given
    case h_3 closed fits =>
      cases given
      exact ⟨above, name, names, home, files, walked, closed, fits, rfl⟩
  all_goals cases given

section
variable {tree : FileTree} {above : List String} {name : String}
  (closed : ∀ there, tree.step name above ≠ .directory there)
  (fits : tree.step name above ≠ .nameTooLong)
include closed fits

theorem step_of_put (bytes : ByteArray) :
    (tree.put (above ++ [name]) bytes).step name above = .file bytes := by
  rcases climbs_or_fits fits with rfl | ⟨no_climb, short⟩
  · exact absurd (step_climb tree above) (closed _)
  · rw [step_name no_climb short, file?_put]

theorem closed_of_step : tree.Closed (above ++ [name]) := by
  refine fun absent => Bool.eq_false_iff.mpr fun is => ?_
  rcases climbs_or_fits fits with rfl | ⟨no_climb, short⟩
  · exact closed _ (step_climb tree above)
  · refine closed (above ++ [name]) ?_
    rw [step_name no_climb short, absent, is]
    rfl

end

theorem find_write {tree written : FileTree} {p : Path} {bytes : ByteArray}
    (given : tree.write p bytes = .ok written) : written.find p = .file bytes := by
  obtain ⟨nul, short, made, above, name, names, -, -, walked, closed, fits, rfl⟩ := write_ok given
  have same := walk_put (closed_of_step closed fits) bytes walked
  have start : (made.put (above ++ [name]) bytes).startAt p = made.startAt p := rfl
  rw [find, if_neg (by simp [nul]), arrive, if_neg (Nat.not_lt.mpr short), names, walk_append, start,
    startAt, same, walk, step_of_put closed fits]
  rfl

end CrossDriver.FileTree
