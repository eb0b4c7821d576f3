import CrossDriver.Path

/-!
# Places

The place that a path leads to where no name on the way is a link: `..` takes back the name before
it, stays where nothing is left to take back, and is lost above a root.
-/

namespace CrossDriver.Path

def climbs (name : String) : Bool :=
  name = ".."

def walk (start : Start) (behind : List String) (name : String) : List String :=
  if climbs name then
    match behind with
    | [] => if start = .here then [name] else []
    | last :: others => if climbs last then name :: behind else others
  else name :: behind

def place (p : Path) : Path :=
  ⟨p.start, (p.names.foldl (walk p.start) []).reverse⟩

def SamePlace (p q : Path) : Prop :=
  p.place = q.place

instance (p q : Path) : Decidable (SamePlace p q) :=
  inferInstanceAs (Decidable (p.place = q.place))

def EndsInName (p : Path) : Prop :=
  ∃ last, p.names.getLast? = some last ∧ climbs last = false

def LeadsToRoot (p : Path) : Prop :=
  p.start ≠ .here ∧ p.place.names = []

def beside (dir : String) (names : List String) : Path :=
  ofParts dir (".." :: names)

theorem foldl_walk_of_no_climb (start : Start) {names : List String}
    (h : ∀ name ∈ names, climbs name = false) (behind : List String) :
    names.foldl (walk start) behind = names.reverse ++ behind := by
  induction names generalizing behind with
  | nil => rfl
  | cons name rest ih =>
    rw [List.foldl_cons, ih fun other mem => h other (.tail _ mem)]
    simp [walk, h name (.head _)]

theorem place_names_append (p : Path) (names : List String) :
    (⟨p.start, p.names ++ names⟩ : Path).place =
      ⟨p.start, (names.foldl (walk p.start) p.place.names.reverse).reverse⟩ := by
  simp [place]

theorem place_append_of_no_climb (p : Path) {names : List String}
    (h : ∀ name ∈ names, climbs name = false) :
    (⟨p.start, p.names ++ names⟩ : Path).place = ⟨p.start, p.place.names ++ names⟩ := by
  rw [place_names_append, foldl_walk_of_no_climb p.start h, List.reverse_append,
    List.reverse_reverse, List.reverse_reverse]

theorem samePlace_append_iff (p q : Path) {names : List String}
    (h : ∀ name ∈ names, climbs name = false) :
    SamePlace ⟨p.start, p.names ++ names⟩ ⟨q.start, q.names ++ names⟩ ↔ SamePlace p q := by
  rw [SamePlace, place_append_of_no_climb p h, place_append_of_no_climb q h, SamePlace]
  simp [place]

end CrossDriver.Path
