import Mathlib.Data.List.Basic
import RouteAlerts.Proofs.Calendar.DayNumber
import RouteAlerts.Proofs.Decimal.Order
import RouteAlerts.Route.Checking

/-!
Checks of commutes. A check keeps the events that its road reaches, or its ends where no road was
found (`answers_check`); it keeps no fewer under a wider threshold (`events_sublist_of_le`) or along
a road with more vertices (`events_sublist_of_subset`). Checks that are made side by side come out
as if each were made alone, in the order of the commutes, in whatever order their lookups end
(`isOver_iff_delivered`), and so do checks that are made one after the other (`all_eq_map_check`).
-/

namespace RouteAlerts

/-! ### One check -/

/-- Some vertex of a road lies within the threshold of a point. -/
def Polyline.Reaches (line : Polyline) (threshold : Float) (p : Point) : Prop :=
  ∃ v ∈ line, distance v p ≤ threshold

instance (line : Polyline) (threshold : Float) (p : Point) :
    Decidable (line.Reaches threshold p) :=
  inferInstanceAs (Decidable (∃ v ∈ line, distance v p ≤ threshold))

/-- One of the ends lies within the threshold of a point, or the way through the point is no longer
than the way between the ends by more than that. -/
def Commute.Reaches (c : Commute) (threshold : Float) (p : Point) : Prop :=
  distance c.departure p ≤ threshold ∨ distance p c.arrival ≤ threshold ∨
    (distance c.departure p + distance p c.arrival - distance c.departure c.arrival).abs ≤ threshold

instance (c : Commute) (threshold : Float) (p : Point) : Decidable (c.Reaches threshold p) :=
  inferInstanceAs (Decidable (_ ∨ _ ∨ _))

/-- The lookup found a road with a vertex. -/
def Errand.HasRoad (e : Errand) (line : Polyline) : Prop := e.lookup = .found line ∧ line ≠ []

/-- What the check of an errand says. -/
structure RouteCheck.Answers (threshold : Float) (events : List Event) (e : Errand)
    (c : RouteCheck) : Prop where
  commute : c.commute = e.commute
  usedRoad : c.usedRoad = true ↔ ∃ line, e.HasRoad line
  near_road : ∀ line, e.HasRoad line →
    c.events = events.filter fun event => line.Reaches threshold event.draft.point
  near_ends : (¬∃ line, e.HasRoad line) →
    c.events = events.filter fun event => e.commute.Reaches threshold event.draft.point

section

variable {line line' : Polyline} {c : Commute} {p : Point} {threshold wider : Float}
  {events : List Event} {e : Errand}

theorem Polyline.isNear_eq : line.isNear p threshold = decide (line.Reaches threshold p) := by
  rw [Bool.eq_iff_iff, decide_eq_true_iff, isNear, List.any_eq_true]
  simp [Reaches]

theorem Commute.isNear_eq : c.isNear p threshold = decide (c.Reaches threshold p) := by
  simp only [isNear, Reaches, Bool.or_eq_true, decide_eq_true_eq]
  split
  · rename_i near
    simp [← or_assoc, near]
  · rename_i far
    simp [← or_assoc, far]

theorem Polyline.Reaches.widen (near : line.Reaches threshold p) (le : threshold ≤ wider) :
    line.Reaches wider p := by
  obtain ⟨v, vertex, near⟩ := near
  exact ⟨v, vertex, Decimal.le_trans near le⟩

theorem Polyline.Reaches.extend (near : line.Reaches threshold p) (more : line ⊆ line') :
    line'.Reaches threshold p := by
  obtain ⟨v, vertex, near⟩ := near
  exact ⟨v, more vertex, near⟩

theorem Commute.Reaches.widen (near : c.Reaches threshold p) (le : threshold ≤ wider) :
    c.Reaches wider p := by
  rcases near with departure | arrival | detour
  · exact .inl (Decimal.le_trans departure le)
  · exact .inr (.inl (Decimal.le_trans arrival le))
  · exact .inr (.inr (Decimal.le_trans detour le))

namespace Errand

theorem HasRoad.eq (has : e.HasRoad line) (has' : e.HasRoad line') : line = line' := by
  simpa using has.1.symm.trans has'.1

/-- A road decides where one was found that has a vertex. -/
theorem shape_of_hasRoad (has : e.HasRoad line) :
    RouteShape.of e.commute e.lookup.line? = .road line := by
  obtain ⟨found, some⟩ := has
  obtain ⟨v, vs, rfl⟩ := List.exists_cons_of_ne_nil some
  simp [found, Lookup.line?, RouteShape.of]

/-- Otherwise the ends decide, also where the road that was found is empty. -/
theorem shape_of_not_hasRoad (none : ¬∃ line, e.HasRoad line) :
    RouteShape.of e.commute e.lookup.line? = .ends e.commute := by
  obtain ⟨commute, lookup⟩ := e
  cases lookup with
  | found line =>
    cases line with
    | nil => rfl
    | cons v vs => exact absurd ⟨v :: vs, rfl, List.cons_ne_nil v vs⟩ none
  | failed => rfl
  | late => rfl

theorem events_check_of_hasRoad (has : e.HasRoad line) : (e.check threshold events).events =
    events.filter fun event => line.Reaches threshold event.draft.point := by
  simp only [check, RouteCheck.of, shape_of_hasRoad has, RouteShape.eventsNear, RouteShape.isNear,
    Polyline.isNear_eq]

theorem events_check_of_not_hasRoad (none : ¬∃ line, e.HasRoad line) :
    (e.check threshold events).events =
      events.filter fun event => e.commute.Reaches threshold event.draft.point := by
  simp only [check, RouteCheck.of, shape_of_not_hasRoad none, RouteShape.eventsNear,
    RouteShape.isNear, Commute.isNear_eq]

theorem answers_check (threshold : Float) (events : List Event) (e : Errand) :
    (e.check threshold events).Answers threshold events e where
  commute := rfl
  usedRoad := by
    by_cases has : ∃ line, e.HasRoad line
    · obtain ⟨line, road⟩ := has
      simpa [check, RouteCheck.of, shape_of_hasRoad road, RouteShape.isRoad] using ⟨line, road⟩
    · simpa [check, RouteCheck.of, shape_of_not_hasRoad has, RouteShape.isRoad] using has
  near_road _ := events_check_of_hasRoad
  near_ends := events_check_of_not_hasRoad

theorem events_check_sublist (threshold : Float) (events : List Event) (e : Errand) :
    (e.check threshold events).events.Sublist events :=
  List.filter_sublist

/-- A wider threshold loses no event. -/
theorem events_sublist_of_le (le : threshold ≤ wider) :
    (e.check threshold events).events.Sublist (e.check wider events).events := by
  by_cases has : ∃ line, e.HasRoad line
  · obtain ⟨line, road⟩ := has
    rw [events_check_of_hasRoad road, events_check_of_hasRoad road]
    exact List.monotone_filter_right _ fun event near =>
      decide_eq_true ((of_decide_eq_true near).widen le)
  · rw [events_check_of_not_hasRoad has, events_check_of_not_hasRoad has]
    exact List.monotone_filter_right _ fun event near =>
      decide_eq_true ((of_decide_eq_true near).widen le)

/-- More vertices lose no event. -/
theorem events_sublist_of_subset {e' : Errand} (has : e.HasRoad line) (has' : e'.HasRoad line')
    (more : line ⊆ line') :
    (e.check threshold events).events.Sublist (e'.check threshold events).events := by
  rw [events_check_of_hasRoad has, events_check_of_hasRoad has']
  exact List.monotone_filter_right _ fun event near =>
    decide_eq_true ((of_decide_eq_true near).extend more)

end Errand

end

/-! ### One after the other -/

/-- Checks that are made in turn are those of the errands that the lookups make of the commutes. -/
theorem RouteCheck.all_eq_map_check {m : Type → Type} [Monad m] [LawfulMonad m]
    (lookup : Commute → m Lookup) (threshold : Float) (events : List Event)
    (commutes : List Commute) : all lookup threshold events commutes =
      List.map (Errand.check threshold events) <$>
        commutes.mapM fun c => Errand.mk c <$> lookup c := by
  induction commutes with
  | nil => simp [all]
  | cons c commutes ih => simp [all, ih, Errand.check]

/-! ### Side by side -/

namespace Checking

variable {limit : Nat} {threshold : Float} {events : List Event} {errands : List Errand}
  {s s' : Checking}

/-- The errands stay in order, and what is done is done as if alone. -/
structure Ordered (limit : Nat) (threshold : Float) (events : List Event) (errands : List Errand)
    (s : Checking) : Prop where
  split : ∃ past, errands = past ++ s.underway.map Pending.errand ++ s.waiting ∧
    s.delivered = past.map (Errand.check threshold events)
  settled : ∀ p ∈ s.underway, ∀ check, p.check? = some check →
    check = p.errand.check threshold events
  bounded : s.underway.length ≤ max limit 1

theorem ordered_start (limit : Nat) (threshold : Float) (events : List Event)
    (errands : List Errand) : (start errands).Ordered limit threshold events errands :=
  ⟨⟨[], rfl, rfl⟩, by simp [start], by simp [start]⟩

theorem Ordered.step (ordered : s.Ordered limit threshold events errands)
    (next : Step limit threshold events s s') : s'.Ordered limit threshold events errands := by
  obtain ⟨⟨past, split, given⟩, settled, bounded⟩ := ordered
  cases next with
  | launch room =>
    refine ⟨⟨past, by simpa using split, given⟩, ?_, ?_⟩
    · intro p among check done
      rcases List.mem_append.mp among with old | new
      · exact settled p old check done
      · simp_all
    · rw [List.length_append]
      exact room
  | settle =>
    refine ⟨⟨past, by simpa using split, given⟩, ?_, by simpa using bounded⟩
    intro p among check done
    rcases List.mem_append.mp among with old | new
    · exact settled p (List.mem_append_left _ old) check done
    · rcases List.mem_cons.mp new with rfl | old
      · simpa using done.symm
      · exact settled p (List.mem_append_right _ (List.mem_cons_of_mem _ old)) check done
  -- Only the oldest errand is handed over, and it has its own check by now.
  | @deliver e check waiting underway delivered =>
    have own : check = e.check threshold events := settled _ List.mem_cons_self check rfl
    refine ⟨⟨past ++ [e], by simpa using split, ?_⟩, ?_, ?_⟩
    · rw [List.map_append, ← given, own]
      rfl
    · exact fun p among => settled p (List.mem_cons_of_mem _ among)
    · exact (Nat.le_succ _).trans bounded

theorem Reachable.ordered (reached : Reachable limit threshold events errands s) :
    s.Ordered limit threshold events errands := by
  induction reached with
  | start => exact ordered_start limit threshold events errands
  | step _ next ih => exact ih.step next

/-- What is left to do: to begin, to settle and to hand over. -/
def todo (s : Checking) : Nat :=
  3 * s.waiting.length + s.underway.length + s.underway.countP (·.check?.isNone)

theorem Step.todo_lt (next : Step limit threshold events s s') : s'.todo < s.todo := by
  cases next <;> simp [todo]
  all_goals omega

/-- No run goes on for ever. -/
theorem wellFounded_step :
    WellFounded fun s' s => Step limit threshold events s s' :=
  Subrelation.wf Step.todo_lt (measure todo).wf

def IsOver (limit : Nat) (threshold : Float) (events : List Event) (s : Checking) : Prop :=
  ¬∃ s', Step limit threshold events s s'

/-- As long as anything is left to do, a step is possible. -/
theorem isOver_iff : s.IsOver limit threshold events ↔ s.waiting = [] ∧ s.underway = [] := by
  obtain ⟨waiting, underway, delivered⟩ := s
  constructor
  · intro stuck
    match underway, waiting with
    | [], [] => exact ⟨rfl, rfl⟩
    | [], e :: waiting => exact absurd ⟨_, .launch (by simp)⟩ stuck
    | ⟨e, none⟩ :: after, waiting =>
      exact absurd ⟨_, @Step.settle _ _ _ e waiting [] after _⟩ stuck
    | ⟨e, some check⟩ :: after, waiting => exact absurd ⟨_, .deliver⟩ stuck
  · rintro ⟨rfl, rfl⟩ ⟨s', next⟩
    generalize same : (Checking.mk [] [] delivered) = s at next
    cases next <;> simp at same

/-- A run is over exactly when every check is handed over, each in its place. -/
theorem isOver_iff_delivered (reached : Reachable limit threshold events errands s) :
    s.IsOver limit threshold events ↔ s.delivered = errands.map (Errand.check threshold events) := by
  obtain ⟨past, split, given⟩ := reached.ordered.split
  rw [isOver_iff, given, split]
  constructor
  · rintro ⟨none, none'⟩
    simp [none, none']
  · intro all
    have length := congrArg List.length all
    simpa [and_comm] using length

theorem delivered_prefix (reached : Reachable limit threshold events errands s) :
    s.delivered <+: errands.map (Errand.check threshold events) := by
  obtain ⟨past, split, given⟩ := reached.ordered.split
  rw [given, split]
  simp

/-- However many lookups are allowed at a time and in whatever order they end, no run goes on for
ever, and one is over exactly when the check of each commute is handed over, in the order of the
commutes; so it is with checks made in turn. Each of them is what the check alone would be: it used
a road exactly when one with a vertex was found, and keeps the events that the road reaches, or else
the ends, in their order. A wider threshold and a road with more vertices lose no event. -/
theorem checked_apart (limit : Nat) (threshold : Float) (events : List Event)
    (errands : List Errand) :
    (WellFounded (fun s' s => Step limit threshold events s s') ∧
      ∀ s, Reachable limit threshold events errands s →
        s.underway.length ≤ max limit 1 ∧
        s.delivered <+: errands.map (Errand.check threshold events) ∧
        (s.IsOver limit threshold events ↔
          s.delivered = errands.map (Errand.check threshold events))) ∧
    (∀ {m : Type → Type} [Monad m] [LawfulMonad m] (lookup : Commute → m Lookup)
      (commutes : List Commute), RouteCheck.all lookup threshold events commutes =
        List.map (Errand.check threshold events) <$>
          commutes.mapM fun c => Errand.mk c <$> lookup c) ∧
    (∀ e : Errand, (e.check threshold events).Answers threshold events e ∧
      (e.check threshold events).events.Sublist events ∧
      ∀ wider, threshold ≤ wider →
        (e.check threshold events).events.Sublist (e.check wider events).events) ∧
    ∀ c line line', line ≠ [] → line ⊆ line' →
      (Errand.check threshold events ⟨c, .found line⟩).events.Sublist
        (Errand.check threshold events ⟨c, .found line'⟩).events := by
  refine ⟨⟨wellFounded_step, fun s reached => ?_⟩, ?_, fun e => ?_, ?_⟩
  · exact ⟨reached.ordered.bounded, delivered_prefix reached, isOver_iff_delivered reached⟩
  · exact fun lookup commutes => RouteCheck.all_eq_map_check lookup threshold events commutes
  · exact ⟨e.answers_check threshold events, e.events_check_sublist threshold events,
      fun _ le => Errand.events_sublist_of_le le⟩
  · intro c line line' some more
    have some' : line' ≠ [] := fun none => some (List.subset_nil.mp (none ▸ more))
    exact Errand.events_sublist_of_subset ⟨rfl, some⟩ ⟨rfl, some'⟩ more

def sampleMarch (place : Point) : Event :=
  let noon : Moment := ⟨Date.sample, ⟨12, 0, 0, 0, by decide⟩⟩
  ⟨1, ⟨"행진", none, "광화문", none, place, noon, noon, none, 2, .active⟩, noon, noon⟩

/-- Of two lookups side by side the second ends first, without an answer. Its check waits for the
first one, which found a road. -/
theorem checked_apart_sample :
    let station : Point := ⟨37.5547, 126.9707⟩
    let hall : Point := ⟨37.5663, 126.9779⟩
    let events := [sampleMarch station, sampleMarch hall]
    let first : Errand := ⟨⟨station, hall⟩, .found [station]⟩
    let second : Errand := ⟨⟨hall, station⟩, .late⟩
    ∃ s, Reachable 2 500 events [first, second] s ∧
      s.delivered = [first.check 500 events, second.check 500 events] ∧
      (first.check 500 events).usedRoad = true ∧ (second.check 500 events).usedRoad = false ∧
      (first.check 500 events).events.Sublist (first.check 1000 events).events ∧
      (first.check 500 events).events.Sublist
        (Errand.check 500 events ⟨first.commute, .found [hall, station]⟩).events := by
  intro station hall events first second
  obtain ⟨⟨-, run⟩, -, each, along⟩ := checked_apart 2 500 events [first, second]
  have reached : Reachable 2 500 events [first, second]
      ⟨[], [], [first.check 500 events, second.check 500 events]⟩ :=
    .step (.step (.step (.step (.step (.step .start (.launch (by decide))) (.launch (by decide)))
      (@Step.settle _ _ _ second [] [⟨first, none⟩] [] []))
      (@Step.settle _ _ _ first [] [] [⟨second, some (second.check 500 events)⟩] []))
      .deliver) .deliver
  obtain ⟨-, -, finished⟩ := run _ reached
  obtain ⟨said, -, wider⟩ := each first
  refine ⟨_, reached, finished.mp (isOver_iff.mpr ⟨rfl, rfl⟩), ?_, ?_, wider 1000 (by decide), ?_⟩
  · exact said.usedRoad.mpr ⟨[station], rfl, by simp⟩
  · rw [Bool.eq_false_iff]
    intro used
    obtain ⟨line, found, -⟩ := (each second).1.usedRoad.mp used
    nomatch found
  · exact along _ _ _ (by simp) (by simp)

end Checking

end RouteAlerts
