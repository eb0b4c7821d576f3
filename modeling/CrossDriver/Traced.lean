import CrossDriver.Event

namespace CrossDriver

/-- A job: what happened during it, and its answer or the fault that ended it. -/
structure Traced (α : Type) where
  events : List Event
  result : Except Fault α

namespace Traced

variable {α β : Type}

def andThen (job : Traced α) (next : α → Traced β) : Traced β :=
  match job.result with
  | .ok a => ⟨job.events ++ (next a).events, (next a).result⟩
  | .error fault => ⟨job.events, .error fault⟩

instance : Monad Traced where
  pure a := ⟨[], .ok a⟩
  bind := andThen

def emit (event : Event) : Traced Unit :=
  ⟨[event], .ok ()⟩

def report (engine : Engine) (d : Diagnostic) : Traced Unit :=
  emit (.reported engine d)

def fail (fault : Fault) : Traced α :=
  ⟨[], .error fault⟩

def ofExcept (result : Except Fault α) : Traced α :=
  ⟨[], result⟩

def diagnostics (job : Traced α) : Diagnostics :=
  job.events.filterMap Event.diagnostic?

def reportsTo (engine : Engine) (job : Traced α) : Diagnostics :=
  job.events.filterMap (Event.reportTo? engine)

theorem bind_eq (job : Traced α) (next : α → Traced β) : job >>= next = job.andThen next := rfl

theorem andThen_pure (job : Traced α) : job.andThen pure = job := by
  obtain ⟨events, result⟩ := job
  cases result <;> simp [andThen, pure]

theorem andThen_assoc {γ : Type} (job : Traced α) (next : α → Traced β) (last : β → Traced γ) :
    (job.andThen next).andThen last = job.andThen fun a => (next a).andThen last := by
  obtain ⟨events, result⟩ := job
  cases result with
  | error fault => rfl
  | ok a =>
    simp only [andThen]
    cases (next a).result <;> simp

instance : LawfulMonad Traced :=
  LawfulMonad.mk' Traced andThen_pure (fun _ _ => rfl) andThen_assoc

theorem andThen_of_ok {job : Traced α} {a : α} (h : job.result = .ok a) (next : α → Traced β) :
    job.andThen next = ⟨job.events ++ (next a).events, (next a).result⟩ := by
  simp [andThen, h]

theorem andThen_of_error {job : Traced α} {fault : Fault} (h : job.result = .error fault)
    (next : α → Traced β) : job.andThen next = ⟨job.events, .error fault⟩ := by
  simp [andThen, h]

theorem diagnostics_andThen_of_ok {job : Traced α} {a : α} (h : job.result = .ok a)
    (next : α → Traced β) :
    (job.andThen next).diagnostics = job.diagnostics ++ (next a).diagnostics := by
  simp [andThen, h, diagnostics]

end Traced

end CrossDriver
