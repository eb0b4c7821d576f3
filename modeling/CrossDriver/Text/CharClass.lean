namespace CrossDriver.Text

/-- A set of characters, by the code points at which membership switches. -/
structure CharClass where
  boundaries : List Nat
  deriving DecidableEq

def switchedOn : List Nat → Nat → Bool
  | [], _ => false
  | b :: rest, n => if n < b then false else !switchedOn rest n

def CharClass.contains (k : CharClass) (c : Char) : Bool :=
  switchedOn k.boundaries c.toNat

theorem switchedOn_between {low high : Nat} {boundaries : List Nat}
    (outside : ∀ b ∈ boundaries, b ≤ low ∨ high < b) {n : Nat} (above : low ≤ n) (below : n ≤ high) :
    switchedOn boundaries n = switchedOn boundaries low := by
  induction boundaries with
  | nil => rfl
  | cons b rest ih =>
    have later := ih fun other mem => outside other (.tail _ mem)
    rw [switchedOn, switchedOn, later]
    rcases outside b (.head _) with le | lt
    · rw [if_neg (by omega), if_neg (by omega)]
    · rw [if_pos (by omega), if_pos (by omega)]

end CrossDriver.Text
