import CrossDriver.Proofs.Config.Field
import CrossDriver.Proofs.DriverOption.Reading

namespace CrossDriver

/-! ## What the driver settles itself -/

theorem DriverOption.field_of_assign : ∀ option ∈ table, ∀ a, option.action = .assign a →
    a.field ≠ .switch .cxx ∧ a.field ≠ .switch .pieDefault := by
  have all : table.all (fun option => match option.action with
      | .assign a => a.field ≠ .switch .cxx && a.field ≠ .switch .pieDefault
      | _ => true) = true := by
    decide
  intro option mem a action
  simpa [action] using List.all_eq_true.mp all option mem

theorem OptionLookup.assignment_of_mem_scan {argv : List String} {a : Assignment}
    (mem : .edit (.assign a) ∈ standard.scan argv) :
    (∃ option ∈ DriverOption.table, option.action = .assign a) ∨ (∃ mode, a = .lto mode) ∨
      ∃ field value, a = .word field value := by
  obtain ⟨token, equal⟩ | ⟨d, equal⟩ | ⟨spelling, equal⟩ | ⟨option, known, value, mem⟩ :=
    mem_scan mem
  · cases equal
  · cases equal
  · cases equal
  · cases action : option.action with
    | assign b =>
      rw [action] at mem
      cases List.mem_singleton.mp mem
      exact .inl ⟨option, mem_table_of_standard known, action⟩
    | lto =>
      rw [action, OptionAction.apply] at mem
      split at mem
      · cases List.mem_singleton.mp mem
        exact .inr (.inl ⟨_, rfl⟩)
      · cases List.mem_singleton.mp mem
    | linkerArgs =>
      rw [action] at mem
      obtain ⟨piece, -, equal⟩ := List.mem_map.mp mem
      cases equal
    | word _ | optLevel =>
      rw [action] at mem
      cases List.mem_singleton.mp mem
      exact .inr (.inr ⟨_, _, rfl⟩)
    | input | library | libraryPath | undefined =>
      rw [action] at mem
      cases List.mem_singleton.mp mem

theorem OptionLookup.field_of_mem_scan {argv : List String} {a : Assignment}
    (mem : .edit (.assign a) ∈ standard.scan argv) :
    a.field ≠ .switch .cxx ∧ a.field ≠ .switch .pieDefault := by
  rcases assignment_of_mem_scan mem with ⟨option, listed, action⟩ | ⟨mode, rfl⟩ | ⟨word, value, rfl⟩
  · exact DriverOption.field_of_assign option listed a action
  · simp [Assignment.field]
  · simp [Assignment.field]

theorem Assignment.last?_eq_none {f : Field} {as : List Assignment}
    (other : ∀ a ∈ as, a.field ≠ f) : last? f as = none := by
  induction as with
  | nil => rfl
  | cons a rest ih =>
    rw [last?, ih fun b mem => other b (List.mem_cons_of_mem a mem),
      if_neg (other a List.mem_cons_self)]
    rfl

namespace Config

theorem edit_mem_scan {argv : List String} {a : Assignment}
    (mem : a ∈ (argEdits argv).filterMap Edit.assignment?) :
    .edit (.assign a) ∈ OptionLookup.standard.scan argv := by
  obtain ⟨e, updated, given⟩ := List.mem_filterMap.mp mem
  obtain ⟨item, read, edit⟩ := List.mem_filterMap.mp updated
  have update : e = .assign a := by
    cases e with
    | assign b => exact congrArg Edit.assign (Option.some.inj given)
    | input _ | libraryPath _ | undefined _ => cases given
  rwa [ArgItem.edit?_eq_some_iff.mp edit, update] at read

theorem last?_argEdits_eq_none (argv : List String) {cxx pieDefault : Bool} {f : Field}
    (settled : Assignment.last? f (presets cxx pieDefault) ≠ none) :
    Assignment.last? f ((argEdits argv).filterMap Edit.assignment?) = none := by
  apply Assignment.last?_eq_none
  intro a mem
  have free := OptionLookup.field_of_mem_scan (edit_mem_scan mem)
  intro same
  subst same
  refine settled (Assignment.last?_eq_none fun b preset => ?_)
  rcases List.mem_cons.mp preset with rfl | preset
  · exact free.1.symm
  · cases List.mem_singleton.mp preset
    exact free.2.symm

/-! ## Two lists of arguments -/

def assigned (argv : List String) (cxx pieDefault : Bool) : List Assignment :=
  presets cxx pieDefault ++ (argEdits argv).filterMap Edit.assignment?

theorem filterMap_assignment?_updates (argv : List String) (cxx pieDefault : Bool) :
    (updates argv cxx pieDefault).filterMap Edit.assignment? = assigned argv cxx pieDefault := by
  simp [updates, assigned, List.filterMap_map, Function.comp_def, Edit.assignment?]

theorem entry?_presets (list : Listing) (cxx pieDefault : Bool) :
    ((presets cxx pieDefault).map Edit.assign).filterMap (Edit.entry? list) = [] := rfl

section
variable {xs : List String} (place : OptionLookup.standard.openAfter xs = true) (ys : List String)
  (cxx pieDefault : Bool)
include place

theorem updates_append :
    updates (xs ++ ys) cxx pieDefault = updates xs cxx pieDefault ++ argEdits ys := by
  simp [updates, argEdits, OptionLookup.scan_append _ place]

theorem findSome?_missingValue?_append
    (complete : (OptionLookup.standard.scan xs).findSome? ArgItem.missingValue? = none) :
    (OptionLookup.standard.scan (xs ++ ys)).findSome? ArgItem.missingValue? =
      (OptionLookup.standard.scan ys).findSome? ArgItem.missingValue? := by
  rw [OptionLookup.scan_append _ place, List.findSome?_append, complete, Option.none_or]

theorem diagnostics_parse_append :
    (parse (xs ++ ys) cxx pieDefault).diagnostics =
      (parse xs cxx pieDefault).diagnostics ++ (parse ys cxx pieDefault).diagnostics := by
  simp only [diagnostics_parse, OptionLookup.scan_append _ place, List.filterMap_append]

theorem entries_edits_updates_append (list : Listing) :
    (({} : Config).edits (updates (xs ++ ys) cxx pieDefault)).entries list =
      (({} : Config).edits (updates xs cxx pieDefault)).entries list ++
        (({} : Config).edits (updates ys cxx pieDefault)).entries list := by
  have none (argv : List String) :
      (updates argv cxx pieDefault).filterMap (Edit.entry? list) =
        (argEdits argv).filterMap (Edit.entry? list) := by
    rw [updates, List.filterMap_append, entry?_presets, List.nil_append]
  have empty : ({} : Config).entries list = [] := by cases list <;> rfl
  simp only [updates_append place, entries_edits, List.filterMap_append, none, empty,
    List.nil_append]

theorem get_edits_updates_append (f : Field) :
    (({} : Config).edits (updates (xs ++ ys) cxx pieDefault)).get f =
      (Assignment.last? f (assigned ys cxx pieDefault)).getD
        ((({} : Config).edits (updates xs cxx pieDefault)).get f) := by
  rw [updates_append place, edits_append, get_edits, assigned, Assignment.last?_append]
  cases Assignment.last? f ((argEdits ys).filterMap Edit.assignment?) with
  | some value => rfl
  | none =>
    cases settled : Assignment.last? f (presets cxx pieDefault) with
    | none => rfl
    | some value =>
      have free := last?_argEdits_eq_none xs (settled ▸ Option.some_ne_none value)
      rw [get_edits, filterMap_assignment?_updates, assigned, Assignment.last?_append, free,
        settled]
      rfl

end

/-- Arguments behind others. The first list has to leave the place of an option open: it lacks no
value, and no `--` in it ends the options. Then the reports and entries of both add up, a field
keeps the value of the first list where the second gives it none, and a value that is missing is
missing in the second list. Behind `--` the second list is taken as inputs. -/
theorem parse_append {xs : List String} {cxx pieDefault : Bool} {c : Config}
    (returns : (parse xs cxx pieDefault).result = .ok c)
    (unterminated : ∀ before behind, xs = before ++ "--" :: behind →
      OptionLookup.standard.openAfter before = false) (ys : List String) :
    (parse (xs ++ ys) cxx pieDefault).diagnostics =
        (parse xs cxx pieDefault).diagnostics ++ (parse ys cxx pieDefault).diagnostics ∧
      (∀ spelling, (parse (xs ++ ys) cxx pieDefault).result = .error (.missingValue spelling) ↔
        (parse ys cxx pieDefault).result = .error (.missingValue spelling)) ∧
      ((∀ spelling, (parse ys cxx pieDefault).result ≠ .error (.missingValue spelling)) →
        ∃ d e, (parse ys cxx pieDefault).result = .ok d ∧
          (parse (xs ++ ys) cxx pieDefault).result = .ok e ∧
          e.inputs = c.inputs ++ d.inputs ∧ e.libraryPaths = c.libraryPaths ++ d.libraryPaths ∧
          e.undefined = c.undefined ++ d.undefined ∧
          ∀ f, e.get f = (Assignment.last? f (assigned ys cxx pieDefault)).getD (c.get f)) ∧
      (parse (xs ++ ["--"] ++ ys) cxx pieDefault).result =
        .ok { c with inputs := c.inputs ++ ys } ∧
      (parse (xs ++ ["--"] ++ ys) cxx pieDefault).diagnostics =
        (parse xs cxx pieDefault).diagnostics := by
  obtain ⟨complete, rfl⟩ := result_parse_eq_ok_iff.mp returns
  have place := OptionLookup.openAfter_of_complete unterminated complete
  have missing (argv : List String) := findSome?_missingValue?_append place argv complete
  refine ⟨diagnostics_parse_append place ys cxx pieDefault, fun spelling => ?_, fun found => ?_,
    ?_, ?_⟩
  · rw [result_parse_eq_missing_iff, result_parse_eq_missing_iff, missing]
  · have found_ys : (OptionLookup.standard.scan ys).findSome? ArgItem.missingValue? = none := by
      cases lacks : (OptionLookup.standard.scan ys).findSome? ArgItem.missingValue? with
      | none => rfl
      | some spelling => exact absurd (result_parse_eq_missing_iff.mpr lacks) (found spelling)
    have entries := entries_edits_updates_append place ys cxx pieDefault
    exact ⟨_, _, result_parse_eq_ok_iff.mpr ⟨found_ys, rfl⟩,
      result_parse_eq_ok_iff.mpr ⟨(missing ys).trans found_ys, rfl⟩,
      entries .inputs, entries .libraryPaths, entries .undefined,
      get_edits_updates_append place ys cxx pieDefault⟩
  · rw [List.append_assoc, List.singleton_append, result_parse_eq_ok_iff, missing,
      updates_append place, edits_append, argEdits_terminator, edits_inputs]
    exact ⟨findSome?_missingValue?_terminator _ ys, rfl⟩
  · rw [List.append_assoc, List.singleton_append, diagnostics_parse_append place,
      diagnostics_parse_terminator, List.append_nil]

theorem parse_append_behind_value :
    (parse ["-o", "--", "-static", "a.o"] true false).result =
        .ok { linkMode := .static, cxx := true, inputs := ["a.o"], output := "--" } ∧
      (∀ before behind, ["-o", "--", "-static", "a.o"] = before ++ "--" :: behind →
        OptionLookup.standard.openAfter before = false) ∧
      (parse (["-o", "--", "-static", "a.o"] ++ ["-s", "-o"]) true false).result =
        .error (.missingValue "-o") ∧
      (parse (["-o", "--", "-static", "a.o"] ++ ["--"] ++ ["-s", "-o"]) true false).result =
        .ok { linkMode := .static, cxx := true, inputs := ["a.o", "-s", "-o"]
              output := "--" } := by
  have returns : (parse ["-o", "--", "-static", "a.o"] true false).result =
      .ok { linkMode := .static, cxx := true, inputs := ["a.o"], output := "--" } := rfl
  have unterminated : ∀ before behind,
      ["-o", "--", "-static", "a.o"] = before ++ "--" :: behind →
        OptionLookup.standard.openAfter before = false := by
    intro before behind split
    rcases before with _ | ⟨a, _ | ⟨b, _ | ⟨c, _ | ⟨d, more⟩⟩⟩⟩ <;> simp at split
    obtain ⟨rfl, -⟩ := split
    rfl
  have append := parse_append returns unterminated ["-s", "-o"]
  exact ⟨returns, unterminated, (append.2.1 "-o").mpr rfl, append.2.2.2.1⟩

end Config

end CrossDriver
