import CrossDriver.Traced
import Mathlib.Data.List.Basic

namespace CrossDriver

theorem exists_of_bind_ok {ε α β : Type} {answer : Except ε α} {next : α → Except ε β} {b : β}
    (given : answer >>= next = .ok b) : ∃ a, answer = .ok a ∧ next a = .ok b := by
  cases answer with
  | error problem => cases given
  | ok a => exact ⟨a, rfl, given⟩

theorem eq_of_map_eq_error {ε α β : Type} {answer : Except ε α} {f : α → β} {problem : ε}
    (failed : answer.map f = .error problem) : answer = .error problem := by
  cases answer with
  | error other =>
    cases failed
    rfl
  | ok a => cases failed

theorem exists_of_map_eq_ok {ε α β : Type} {answer : Except ε α} {f : α → β} {b : β}
    (given : answer.map f = .ok b) : ∃ a, answer = .ok a ∧ f a = b := by
  cases answer with
  | error problem => cases given
  | ok a => exact ⟨a, rfl, Except.ok.inj given⟩

namespace Traced

variable {α β : Type}

@[simp] theorem result_pure (a : α) : (pure a : Traced α).result = .ok a := rfl

@[simp] theorem result_ofExcept (result : Except Fault α) : (ofExcept result).result = result := rfl

@[simp] theorem result_fail (fault : Fault) : (fail fault : Traced α).result = .error fault := rfl

@[simp] theorem result_emit (event : Event) : (emit event).result = .ok () := rfl

@[simp] theorem result_report (e : Engine) (d : Diagnostic) : (report e d).result = .ok () := rfl

@[simp] theorem result_bind (job : Traced α) (next : α → Traced β) :
    (job >>= next).result = job.result >>= fun a => (next a).result := by
  rw [bind_eq, andThen]
  cases job.result <;> rfl

@[simp] theorem result_map (job : Traced α) (f : α → β) :
    (f <$> job).result = f <$> job.result := by
  rw [map_eq_pure_bind, result_bind]
  cases job.result <;> rfl

@[simp] theorem diagnostics_pure (a : α) : (pure a : Traced α).diagnostics = [] := rfl

@[simp] theorem diagnostics_ofExcept (result : Except Fault α) :
    (ofExcept result).diagnostics = [] := rfl

@[simp] theorem diagnostics_fail (fault : Fault) : (fail fault : Traced α).diagnostics = [] := rfl

@[simp] theorem diagnostics_emit (event : Event) :
    (emit event).diagnostics = event.diagnostic?.toList := by
  cases event <;> rfl

@[simp] theorem diagnostics_report (e : Engine) (d : Diagnostic) :
    (report e d).diagnostics = [d] := rfl

theorem diagnostics_bind (job : Traced α) (next : α → Traced β) :
    (job >>= next).diagnostics = job.diagnostics ++
      match job.result with
      | .ok a => (next a).diagnostics
      | .error _ => [] := by
  cases answer : job.result with
  | error fault => rw [bind_eq, andThen_of_error answer]; simp [diagnostics]
  | ok a => rw [bind_eq, diagnostics_andThen_of_ok answer]

theorem diagnostics_map (job : Traced α) (f : α → β) :
    (f <$> job).diagnostics = job.diagnostics := by
  rw [map_eq_pure_bind, diagnostics_bind]
  cases job.result <;> exact List.append_nil _

def outcome (job : Traced α) : Except Fault α × Diagnostics :=
  (job.result, job.diagnostics)

theorem outcome_eq_iff {job other : Traced α} :
    job.outcome = other.outcome ↔
      job.result = other.result ∧ job.diagnostics = other.diagnostics := by
  simp [outcome]

theorem outcome_bind_congr {job other : Traced α} {next further : α → Traced β}
    (start : job.outcome = other.outcome)
    (rest : ∀ a, job.result = .ok a → (next a).outcome = (further a).outcome) :
    (job >>= next).outcome = (other >>= further).outcome := by
  obtain ⟨answers, reports⟩ := outcome_eq_iff.mp start
  apply outcome_eq_iff.mpr
  rw [result_bind, result_bind, diagnostics_bind, diagnostics_bind, ← answers, ← reports]
  cases given : job.result with
  | error fault => exact ⟨rfl, rfl⟩
  | ok a =>
    obtain ⟨later_answers, later_reports⟩ := outcome_eq_iff.mp (rest a given)
    constructor
    · exact later_answers
    · simp only [later_reports]

def OnlyTo (e : Engine) (job : Traced α) : Prop :=
  ∀ other d, .reported other d ∈ job.events → other = e

section
variable {e : Engine}

theorem onlyTo_report (d : Diagnostic) : (report e d).OnlyTo e := by
  intro other d' mem
  cases List.mem_singleton.mp mem
  rfl

theorem onlyTo_of_silent {job : Traced α} (silent : job.diagnostics = []) : job.OnlyTo e :=
  fun _ _ mem => nomatch List.filterMap_eq_nil_iff.mp silent _ mem

@[simp] theorem reportsTo_pure (a : α) : (pure a : Traced α).reportsTo e = [] := rfl

theorem onlyTo_pure (a : α) : (pure a : Traced α).OnlyTo e :=
  onlyTo_of_silent rfl

theorem onlyTo_ofExcept (result : Except Fault α) : (ofExcept result).OnlyTo e :=
  onlyTo_of_silent rfl

theorem onlyTo_bind {job : Traced α} {next : α → Traced β} (first : job.OnlyTo e)
    (rest : ∀ a, job.result = .ok a → (next a).OnlyTo e) : (job >>= next).OnlyTo e := by
  intro other d mem
  rw [bind_eq] at mem
  cases given : job.result with
  | error fault =>
    rw [andThen_of_error given] at mem
    exact first other d mem
  | ok a =>
    rw [andThen_of_ok given] at mem
    rcases List.mem_append.mp mem with before | behind
    · exact first other d before
    · exact rest a given other d behind

theorem onlyTo_map {job : Traced α} (first : job.OnlyTo e) (f : α → β) : (f <$> job).OnlyTo e := by
  rw [map_eq_pure_bind]
  exact onlyTo_bind first fun a _ => onlyTo_pure (f a)

theorem reportsTo_map (job : Traced α) (f : α → β) (e : Engine) :
    (f <$> job).reportsTo e = job.reportsTo e := by
  obtain ⟨events, result⟩ := job
  cases result with
  | error fault => rfl
  | ok a => exact congrArg (List.filterMap (Event.reportTo? e)) (List.append_nil events)

theorem reportsTo_of_onlyTo {job : Traced α} (only : job.OnlyTo e) (other : Engine) :
    job.reportsTo other = if other = e then job.diagnostics else [] := by
  rw [reportsTo, diagnostics]
  split
  case isTrue same =>
    refine List.filterMap_congr fun event mem => ?_
    cases event with
    | reported own d =>
      have own_only := only own d mem
      rw [Event.reportTo?, if_pos (own_only.trans same.symm)]
      rfl
    | _ => rfl
  case isFalse differ =>
    refine List.filterMap_eq_nil_iff.mpr fun event mem => ?_
    cases event with
    | reported own d =>
      have own_only := only own d mem
      rw [Event.reportTo?, if_neg (own_only ▸ Ne.symm differ)]
    | _ => rfl

theorem reportsTo_self {job : Traced α} (only : job.OnlyTo e) :
    job.reportsTo e = job.diagnostics := by
  rw [reportsTo_of_onlyTo only, if_pos rfl]

end

end Traced

end CrossDriver
