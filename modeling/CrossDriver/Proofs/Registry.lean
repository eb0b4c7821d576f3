import CrossDriver.Proofs.Table
import CrossDriver.Proofs.Text.Whole
import CrossDriver.Registry

namespace CrossDriver.Registry

variable {α : Type}

/-! ## Calls -/

inductive Call (α : Type) where
  | register (entry : α) (osNames : List String)
  | get (triple : Triple)
  | osNames

inductive Answer (α : Type) where
  | nothing
  | entry (found : α)
  | osNames (names : List String)

def step (r : Registry α) : Call α → Registry α × Except Fault (Answer α)
  | .register entry osNames => (r.register entry osNames, .ok .nothing)
  | .get triple => (r, (r.get triple).map .entry)
  | .osNames => (r, .ok (.osNames r.osNames))

def run (r : Registry α) (calls : List (Call α)) : Registry α :=
  calls.foldl (fun r call => (r.step call).1) r

def Call.entryFor? (call : Call α) (os : String) : Option α :=
  match call with
  | .register entry systems => if os ∈ systems then some entry else none
  | _ => none

def Call.Registers (call : Call α) (os : String) : Prop :=
  ∃ entry systems, call = .register entry systems ∧ os ∈ systems

theorem Call.entryFor?_eq_some_iff {call : Call α} {os : String} {entry : α} :
    call.entryFor? os = some entry ↔ ∃ systems, call = .register entry systems ∧ os ∈ systems := by
  cases call with
  | register own systems =>
    simp only [entryFor?, Call.register.injEq]
    grind
  | get triple => simp [entryFor?]
  | osNames => simp [entryFor?]

theorem Call.entryFor?_eq_none_iff {call : Call α} {os : String} :
    call.entryFor? os = none ↔ ¬call.Registers os := by
  simp only [Option.eq_none_iff_forall_ne_some, ne_eq, entryFor?_eq_some_iff, Registers, not_exists]

/-! ## What a registry holds -/

theorem register_cons (r : Registry α) (entry : α) (first : String) (rest : List String) :
    r.register entry (first :: rest) =
      register ⟨r.entries.put first entry⟩ entry rest := rfl

theorem get?_register (r : Registry α) (entry : α) (systems : List String) (os : String) :
    (r.register entry systems).entries.get? os =
      if os ∈ systems then some entry else r.entries.get? os := by
  induction systems generalizing r with
  | nil => simp [register]
  | cons first rest ih =>
    rw [register_cons, ih, Table.get?_put]
    grind

theorem get?_step (r : Registry α) (call : Call α) (os : String) :
    (r.step call).1.entries.get? os = (call.entryFor? os).or (r.entries.get? os) := by
  cases call with
  | register entry systems =>
    rw [step, get?_register, Call.entryFor?]
    split <;> rfl
  | get triple => rfl
  | osNames => rfl

theorem get?_run (r : Registry α) (calls : List (Call α)) (os : String) :
    (r.run calls).entries.get? os =
      (calls.reverse.findSome? (·.entryFor? os)).or (r.entries.get? os) := by
  induction calls generalizing r with
  | nil => rfl
  | cons call rest ih =>
    rw [run, List.foldl_cons, ← run, ih, get?_step, List.reverse_cons, List.findSome?_append,
      Option.or_assoc]
    simp

theorem nodup_keys_register {r : Registry α} (unique : r.entries.keys.Nodup) (entry : α)
    (systems : List String) : (r.register entry systems).entries.keys.Nodup := by
  induction systems generalizing r with
  | nil => exact unique
  | cons first rest ih =>
    rw [register_cons]
    exact ih (Table.nodup_keys_put unique first entry)

theorem nodup_keys_step {r : Registry α} (unique : r.entries.keys.Nodup) (call : Call α) :
    (r.step call).1.entries.keys.Nodup := by
  cases call with
  | register entry systems => exact nodup_keys_register unique entry systems
  | get triple => exact unique
  | osNames => exact unique

theorem nodup_keys_run {r : Registry α} (unique : r.entries.keys.Nodup) (calls : List (Call α)) :
    (r.run calls).entries.keys.Nodup := by
  induction calls generalizing r with
  | nil => exact unique
  | cons call rest ih => exact ih (nodup_keys_step unique call)

/-! ## A new registry -/

theorem get?_run_eq_some_iff {calls : List (Call α)} {os : String} {entry : α} :
    (run {} calls).entries.get? os = some entry ↔
      ∃ before systems after, calls = before ++ .register entry systems :: after ∧
        os ∈ systems ∧ ∀ call ∈ after, ¬call.Registers os := by
  rw [get?_run, show ({} : Registry α).entries.get? os = none from rfl, Option.or_none,
    List.findSome?_eq_some_iff]
  simp only [Call.entryFor?_eq_some_iff, Call.entryFor?_eq_none_iff]
  constructor
  · rintro ⟨after, _, before, split, ⟨systems, rfl, among⟩, silent⟩
    refine ⟨before.reverse, systems, after.reverse, ?_, among, fun call mem => ?_⟩
    · simpa using congrArg List.reverse split
    · exact silent call (List.mem_reverse.mp mem)
  · rintro ⟨before, systems, after, rfl, among, silent⟩
    refine ⟨after.reverse, _, before.reverse, by simp, ⟨systems, rfl, among⟩, fun call mem => ?_⟩
    exact silent call (List.mem_reverse.mp mem)

theorem get?_run_eq_none_iff {calls : List (Call α)} {os : String} :
    (run {} calls).entries.get? os = none ↔ ∀ call ∈ calls, ¬call.Registers os := by
  rw [get?_run, show ({} : Registry α).entries.get? os = none from rfl, Option.or_none,
    List.findSome?_eq_none_iff]
  simp only [Call.entryFor?_eq_none_iff, List.mem_reverse]

/-! ## The systems -/

theorem pairwise_osNames {r : Registry α} (unique : r.entries.keys.Nodup) :
    r.osNames.Pairwise fun a b => Text.codePoints a.toList < Text.codePoints b.toList := by
  have sorted : r.osNames.Pairwise fun a b =>
      (!decide (Text.codePoints b.toList < Text.codePoints a.toList)) = true := by
    apply List.pairwise_mergeSort
    · intro a b c first second
      simp only [Bool.not_eq_true', decide_eq_false_iff_not, List.not_lt] at first second ⊢
      exact List.le_trans first second
    · intro a b
      simp only [Bool.or_eq_true, Bool.not_eq_true', decide_eq_false_iff_not, List.not_lt]
      exact List.le_total (Text.codePoints a.toList) (Text.codePoints b.toList)
  have distinct : r.osNames.Nodup := (List.mergeSort_perm _ _).nodup_iff.mpr unique
  refine (sorted.and distinct).imp fun {a b} ⟨least, other⟩ => ?_
  simp only [Bool.not_eq_true', decide_eq_false_iff_not, List.not_lt] at least
  by_contra notLess
  have same := List.le_antisymm least (List.not_lt.mp notLess)
  exact other (String.toList_inj.mp (Text.codePoints_injective same))

theorem mem_osNames_iff {r : Registry α} {os : String} :
    os ∈ r.osNames ↔ r.entries.get? os ≠ none := by
  rw [osNames, List.mem_mergeSort, ne_eq, Table.get?_eq_none_iff, Decidable.not_not]

/-! ## A registry by its calls -/

theorem step_get_eq_ok_iff {r : Registry α} {triple : Triple} {entry : α} :
    r.step (.get triple) = (r, .ok (.entry entry)) ↔ r.entries.get? triple.os = some entry := by
  rw [step, get]
  cases r.entries.get? triple.os <;> simp [Except.map]

theorem step_get_eq_error_iff {r : Registry α} {triple : Triple} {fault : Fault} :
    r.step (.get triple) = (r, .error fault) ↔
      fault = .unsupportedTarget triple ∧ r.entries.get? triple.os = none := by
  rw [step, get]
  cases r.entries.get? triple.os <;> simp [Except.map, eq_comm]

/-- Whatever a new registry is told and asked, it serves a system with the last entry for it, and
fails for a system that has none, which leaves it as it was. -/
theorem serves_last_entry (calls : List (Call α)) :
    (∀ triple entry, (run {} calls).step (.get triple) = (run {} calls, .ok (.entry entry)) ↔
      ∃ before systems after, calls = before ++ .register entry systems :: after ∧
        triple.os ∈ systems ∧ ∀ call ∈ after, ¬call.Registers triple.os) ∧
    (∀ triple fault, (run {} calls).step (.get triple) = (run {} calls, .error fault) ↔
      fault = .unsupportedTarget triple ∧ ∀ call ∈ calls, ¬call.Registers triple.os) ∧
    (∀ triple, (Fault.unsupportedTarget triple).message =
      "unsupported target triple: " ++ triple.text) ∧
    ((run {} calls).osNames.Pairwise fun a b =>
      Text.codePoints a.toList < Text.codePoints b.toList) ∧
    ∀ os, os ∈ (run {} calls).osNames ↔ ∃ call ∈ calls, call.Registers os := by
  refine ⟨fun triple entry => ?_, fun triple fault => ?_, fun _ => rfl, ?_, fun os => ?_⟩
  · rw [step_get_eq_ok_iff, get?_run_eq_some_iff]
  · rw [step_get_eq_error_iff, get?_run_eq_none_iff]
  · exact pairwise_osNames (nodup_keys_run (r := {}) List.nodup_nil calls)
  · rw [mem_osNames_iff, ne_eq, get?_run_eq_none_iff]
    simp

end CrossDriver.Registry
