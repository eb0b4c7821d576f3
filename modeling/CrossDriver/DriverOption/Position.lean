import CrossDriver.DriverOption.Arguments

namespace CrossDriver.OptionLookup

/-- Whether what follows the arguments stands in the place of an option. -/
def openAfter (l : OptionLookup) : List String → Bool
  | [] => true
  | arg :: rest =>
    if arg = "--" then false
    else match l.matchArg arg with
      | .awaiting _ =>
        match rest with
        | [] => false
        | _ :: rest => openAfter l rest
      | _ => openAfter l rest

theorem scan_append (l : OptionLookup) {before : List String} (h : l.openAfter before = true)
    (after : List String) : l.scan (before ++ after) = l.scan before ++ l.scan after := by
  fun_induction openAfter l before with
  | case1 => rfl
  | case2 rest => cases h
  | case3 arg hd option hm => cases h
  | case4 arg hd option hm value rest ih =>
    simp [scan, hd, hm, ih h]
  | case5 arg rest hd hm ih =>
    have rest_eq := ih h
    rw [List.cons_append, scan, scan, if_neg hd, if_neg hd, rest_eq]
    cases hk : l.matchArg arg with
    | awaiting option => exact absurd hk (hm option)
    | complete option value => simp
    | unknown => simp
    | input => simp

end CrossDriver.OptionLookup
