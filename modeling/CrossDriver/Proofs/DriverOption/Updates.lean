import CrossDriver.Proofs.DriverOption.Occurrence

namespace CrossDriver

namespace OptionLookup

/-- The arguments are read as updates, and leave the place of an option open. -/
structure Spells (argv : List String) (es : List Edit) : Prop where
  place : standard.openAfter argv = true
  read : standard.scan argv = es.map .edit

namespace Spells

theorem nil : Spells [] [] := ⟨rfl, rfl⟩

theorem append {first second : List String} {es fs : List Edit} (before : Spells first es)
    (behind : Spells second fs) : Spells (first ++ second) (es ++ fs) where
  place := by rw [openAfter_append _ before.place, behind.place]
  read := by rw [scan_append _ before.place, before.read, behind.read, List.map_append]

theorem flatMap {α : Type} {argv : α → List String} {es : α → List Edit} {as : List α}
    (each : ∀ a ∈ as, Spells (argv a) (es a)) : Spells (as.flatMap argv) (as.flatMap es) := by
  induction as with
  | nil => exact nil
  | cons a rest ih =>
    rw [List.flatMap_cons, List.flatMap_cons]
    exact (each a (.head _)).append (ih fun b mem => each b (.tail _ mem))

theorem flatMap_singleton {α : Type} {argv : α → List String} {e : α → Edit}
    (each : ∀ a, Spells (argv a) [e a]) (as : List α) :
    Spells (as.flatMap argv) (as.map e) := by
  rw [List.map_eq_flatMap]
  exact flatMap fun a _ => each a

theorem scan_between {before : List String} (place : standard.openAfter before = true)
    {argv : List String} {es : List Edit} (spelled : Spells argv es) (behind : List String) :
    standard.scan (before ++ argv ++ behind) =
      standard.scan before ++ es.map .edit ++ standard.scan behind := by
  have open_ : standard.openAfter (before ++ argv) = true := by
    rw [openAfter_append _ place, spelled.place]
  rw [scan_append _ open_, scan_append _ place, spelled.read]

variable {o : DriverOption} {es : List Edit}

theorem complete {arg value : String} (further : arg ≠ "--")
    (matched : standard.matchArg arg = .complete o value)
    (applied : o.action.apply value = es.map .edit) : Spells [arg] es where
  place := by rw [openAfter_cons_of_not_awaiting further (by simp [matched])]; rfl
  read := by
    rw [scan, if_neg further, matched]
    simp [applied, scan]

section
variable (listed : o ∈ DriverOption.table)
include listed

theorem joined (kind : o.kind = .joined) {value : String}
    (applied : o.action.apply value = es.map .edit) : Spells [o.spelling ++ value] es :=
  complete (DriverOption.ne_terminator_of_recognises listed
    (DriverOption.recognises_append (by rw [kind]; rfl) value)) (matchArg_joined listed kind value)
    applied

theorem glued (kind : o.kind = .joinedOrSeparate) {value : String} (ne : value ≠ "")
    (applied : o.action.apply value = es.map .edit) : Spells [o.spelling ++ value] es :=
  complete (DriverOption.ne_terminator_of_recognises listed
    (DriverOption.recognises_append (by rw [kind]; rfl) value)) (matchArg_glued listed kind ne)
    applied

theorem flag (kind : o.kind = .flag) (applied : o.action.apply "" = es.map .edit) :
    Spells [o.spelling] es := by
  have known := DriverOption.recognises_spelling o
  have matched : standard.matchArg o.spelling = .complete o "" := by
    rw [matchArg_of_recognises listed known, DriverOption.reading, kind]
  exact complete (DriverOption.ne_terminator_of_recognises listed known) matched applied

theorem apart (takes : o.takesNext = true) {value : String}
    (applied : o.action.apply value = es.map .edit) : Spells [o.spelling, value] es := by
  have further := DriverOption.ne_terminator_of_recognises listed
    (DriverOption.recognises_spelling o)
  have matched := matchArg_takesNext listed takes
  constructor
  · simp [openAfter, further, matched]
  · rw [scan, if_neg further, matched]
    simp [applied, scan]

end

end Spells

end OptionLookup

end CrossDriver
