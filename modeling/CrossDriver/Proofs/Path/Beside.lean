import CrossDriver.Path.Place
import CrossDriver.Proofs.Path.Written

/-!
# Beside a directory

What stands beside a directory is reached through its parent or, as one writes it, by a step up from
the directory. The two lead to one place if a step up takes back the last name of the directory, or
if there is nothing above the parent.
-/

namespace CrossDriver.Path

theorem walk_walk_eq_self_iff (start : Start) (behind : List String) {name : String}
    (up : climbs name = true) :
    walk start (walk start behind name) name = behind ↔ start ≠ .here ∧ behind = [] := by
  cases behind with
  | nil => by_cases here : start = .here <;> simp [walk, up, here]
  | cons last others =>
    refine iff_of_false (fun same => ?_) fun root => List.cons_ne_nil _ _ root.2
    have length := congrArg List.length same
    by_cases above : climbs last = true
    · simp [walk, up, above] at length
      omega
    · -- The second step would have to put back the name that the first one took.
      have other : name ≠ last := fun equal => above (equal ▸ up)
      have first : walk start (last :: others) name = others := by simp [walk, up, above]
      rw [first] at same length
      cases others with
      | nil => by_cases here : start = .here <;> simp [walk, up, here, other] at same
      | cons next more =>
        by_cases also : climbs next = true
        · simp [walk, up, also, other] at same
        · simp [walk, up, also] at length
          omega

theorem place_append_singleton (start : Start) (front : List String) (name : String) :
    place ⟨start, front ++ [name]⟩ =
      ⟨start, (walk start (place ⟨start, front⟩).names.reverse name).reverse⟩ := by
  rw [place, List.foldl_append, List.foldl_cons, List.foldl_nil, place, List.reverse_reverse]

theorem endsInName_append_singleton_iff (start : Start) (front : List String) (last : String) :
    EndsInName ⟨start, front ++ [last]⟩ ↔ climbs last = false := by
  simp [EndsInName]

theorem samePlace_parent_iff (p : Path) :
    SamePlace p.parent ⟨p.start, p.names ++ [".."]⟩ ↔ p.EndsInName ∨ p.parent.LeadsToRoot := by
  have up : climbs ".." = true := by decide
  obtain ⟨start, names⟩ := p
  rcases List.eq_nil_or_concat names with rfl | ⟨front, last, rfl⟩
  · have unnamed : ¬EndsInName ⟨start, []⟩ := by
      rintro ⟨last, ends, -⟩
      cases ends
    rw [or_iff_right unnamed]
    by_cases here : start = .here <;> simp [SamePlace, LeadsToRoot, parent, place, walk, up, here]
  · have above : parent ⟨start, front ++ [last]⟩ = ⟨start, front⟩ := by
      rw [parent, List.dropLast_concat]
    obtain ⟨behind, leads⟩ : ∃ behind, place ⟨start, front⟩ = ⟨start, List.reverse behind⟩ :=
      ⟨_, rfl⟩
    have compare : SamePlace ⟨start, front⟩ ⟨start, front ++ [last] ++ [".."]⟩ ↔
        walk start (walk start behind last) ".." = behind := by
      rw [SamePlace, place_append_singleton, place_append_singleton, leads]
      simp [eq_comm]
    rw [List.concat_eq_append, endsInName_append_singleton_iff, above, compare, LeadsToRoot, leads,
      List.reverse_eq_nil_iff]
    cases level : climbs last with
    | false => simp [walk, level, up]
    | true =>
      obtain rfl : last = ".." := of_decide_eq_true level
      rw [walk_walk_eq_self_iff start behind up]
      exact (or_iff_right Bool.noConfusion).symm

def Ordinary (name : String) : Prop :=
  Plain name ∧ climbs name = false

instance (name : String) : Decidable (Ordinary name) :=
  inferInstanceAs (Decidable (Plain name ∧ climbs name = false))

def inParent (dir : String) (names : List String) : Path :=
  names.foldl join (ofString dir).parent

theorem ofString_text_inParent (dir : String) (names : List String) :
    ofString (inParent dir names).text = inParent dir names :=
  ofString_text (clean_foldl_join (clean_parent (clean_ofString dir)) names)

theorem samePlace_beside_iff (dir : String) {names : List String}
    (ordinary : ∀ name ∈ names, Ordinary name) :
    SamePlace (inParent dir names) (beside dir names) ↔
      (ofString dir).EndsInName ∨ (ofString dir).parent.LeadsToRoot := by
  have plain : ∀ name ∈ names, Plain name := fun name mem => (ordinary name mem).1
  have up : Plain ".." := by decide
  rw [inParent, foldl_join_of_plain _ plain, beside, ofParts, List.foldl_cons, join_of_plain _ up,
    foldl_join_of_plain _ plain, ← samePlace_parent_iff]
  exact samePlace_append_iff (ofString dir).parent ⟨_, (ofString dir).names ++ [".."]⟩
    fun name mem => (ordinary name mem).2

theorem beside_eq_ofString {dir : String} (named : dir ∉ ["", "/", "//"]) {names : List String}
    (ordinary : ∀ name ∈ names, Ordinary name) :
    beside dir names = ofString (dir ++ "/" ++ Text.join "/" (".." :: names)) := by
  have up : Plain ".." := by decide
  have plain : ∀ name ∈ names, Plain name := fun name mem => (ordinary name mem).1
  exact (ofString_append_join named (List.forall_mem_cons.mpr ⟨up, plain⟩)).symm

end CrossDriver.Path
