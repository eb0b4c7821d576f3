import CrossDriver.Mode

namespace CrossDriver.Link

structure Binding where
  mode : LinkMode := .dynamic
  asNeeded : Bool := false
  deriving DecidableEq, Repr

structure State where
  binding : Binding := {}
  saved : List Binding := []
  deriving DecidableEq, Repr

namespace State

def stateTokens : List String :=
  ["-Bstatic", "-Bdynamic", "--as-needed", "--push-state", "--pop-state"]

def restore (s : State) : State :=
  match s.saved with
  | [] => s
  | last :: others => ⟨last, others⟩

def step (s : State) (token : String) : State :=
  if token = "-Bstatic" then { s with binding.mode := .static }
  else if token = "-Bdynamic" then { s with binding.mode := .dynamic }
  else if token = "--as-needed" then { s with binding.asNeeded := true }
  else if token = "--push-state" then { s with saved := s.binding :: s.saved }
  else if token = "--pop-state" then s.restore
  else s

def run (s : State) (tokens : List String) : State :=
  tokens.foldl step s

/-- The tokens that leave the state alone, each with the binding under which it is met. -/
def met (s : State) : List String → List (String × Binding)
  | [] => []
  | token :: rest =>
    if stateTokens.contains token then met (s.step token) rest
    else (token, s.binding) :: met s rest

theorem step_of_not_mem (s : State) {token : String} (h : token ∉ stateTokens) :
    s.step token = s := by
  simp only [stateTokens, List.mem_cons, List.not_mem_nil, or_false, not_or] at h
  simp [step, h]

theorem run_append (s : State) (first second : List String) :
    s.run (first ++ second) = (s.run first).run second := by
  simp [run]

theorem met_append (s : State) (first second : List String) :
    s.met (first ++ second) = s.met first ++ (s.run first).met second := by
  induction first generalizing s with
  | nil => rfl
  | cons token rest ih =>
    by_cases h : token ∈ stateTokens
    · simp [met, h, ih, run]
    · simp [met, h, ih, run, step_of_not_mem s h]

end State

end CrossDriver.Link
