import SpriteStage.Performance.Performer

/-! # Performing together

Several sprites perform at once. Each goes on until it has to wait; then the clock moves on to the
earliest time at which one of them has something to do again, and those who have take their turns.

* `TurnOrder` — in the order of the roster, or in the order in which they began to wait
* `roundAllowance` — how many waits can be got past in one round
* `Session.round` — everyone gets one turn, on a common allowance
* `Session.rounds` — rounds at one time, until nobody is held up any more
* `Session.perform` — everyone performs to the end
* `Session.performAlone` — one sprite performs with nobody else
-/

namespace SpriteStage

set_option autoImplicit false

/-! ## The order of turns -/

/-- In which order performers take their turns. -/
inductive TurnOrder where
  /-- In the order of the roster. -/
  | byRoster
  /-- In the order in which they began to wait. -/
  | byArrival
deriving DecidableEq

namespace TurnOrder

/-- Up to thirty performers keep to the roster; in a larger crowd, first come is first served. -/
def ofCount (count : Nat) : TurnOrder :=
  if count ≤ 30 then .byRoster else .byArrival

/-- The turns of performers who are listed in the order in which they began to wait. -/
def arrange : TurnOrder → List Performer → List Performer
  | byRoster, performers => performers.mergeSort fun p q => decide (p.place ≤ q.place)
  | byArrival, performers => performers

/-- The next turns of those who were held up. In a crowd, the last to be held up comes first. -/
def afterHoldUp : TurnOrder → List Performer → List Performer
  | byRoster, performers => performers
  | byArrival, performers => performers.reverse

theorem arrange_perm (order : TurnOrder) (performers : List Performer) :
    (order.arrange performers).Perm performers := by
  cases order with
  | byRoster => exact List.mergeSort_perm _ _
  | byArrival => exact .refl _

theorem afterHoldUp_perm (order : TurnOrder) (performers : List Performer) :
    (order.afterHoldUp performers).Perm performers := by
  cases order with
  | byRoster => exact .refl _
  | byArrival => exact List.reverse_perm _

end TurnOrder

/-! ## Rounds -/

/-- The allowance of a round: the limit, but at least one wait. -/
def roundAllowance (limit : Option Nat) : Allowance :=
  limit.map (max 1)

theorem roundAllowance_ne_zero (limit : Option Nat) : roundAllowance limit ≠ some 0 := by
  cases limit with
  | none => exact nofun
  | some count =>
    simp only [roundAllowance, Option.map_some, ne_eq, Option.some.injEq]
    omega

/-- What a round comes to. -/
structure Round where
  session : Session
  /-- Those who wait for their time to come. -/
  waiting : List Performer
  /-- Those who had to stop because the allowance was used up. -/
  heldUp : List Performer

/-- A turn in front of a round; who has used the allowance up was held up. -/
def Round.withTurn (r : Round) (turn : Turn) : Round :=
  match turn.rest with
  | none => r
  | some q =>
    if turn.allowance = some 0 then { r with heldUp := q :: r.heldUp }
    else { r with waiting := q :: r.waiting }

theorem Round.workload_withTurn (r : Round) (turn : Turn) :
    workload (r.withTurn turn).waiting + workload (r.withTurn turn).heldUp
      = workload turn.rest.toList + (workload r.waiting + workload r.heldUp) := by
  unfold withTurn
  split
  · rename_i eq
    simp [eq, workload]
  · rename_i q eq
    split <;> simp only [eq, Option.toList_some, workload] <;> omega

theorem Round.heldUp_withTurn (r : Round) {turn : Turn} (left : turn.allowance ≠ some 0) :
    (r.withTurn turn).heldUp = r.heldUp := by
  unfold withTurn
  split
  · rfl
  · rw [if_neg left]

namespace Session

/-- Every performer gets one turn, in the given order and on a common allowance. -/
def round : Allowance → List Performer → Session → Round
  | _, [], s => ⟨s, [], []⟩
  | allowance, p :: rest, s =>
    let turn := p.goOn allowance s
    (round turn.allowance rest turn.session).withTurn turn

theorem workload_round_le (allowance : Allowance) (performers : List Performer) (s : Session) :
    workload (round allowance performers s).waiting + workload (round allowance performers s).heldUp
      ≤ workload performers := by
  induction performers generalizing allowance s with
  | nil => simp [round, workload]
  | cons p rest ih =>
    have others := ih (p.goOn allowance s).allowance (p.goOn allowance s).session
    have own := p.workload_goOn_le allowance s
    rw [round, Round.workload_withTurn]
    simp only [workload] at own ⊢
    omega

theorem workload_round_lt {allowance : Allowance} {time : Nat} {p : Performer}
    {rest : List Performer} {s : Session} (left : allowance ≠ some 0)
    (due : p.deadline = some time) (now : time ≤ s.now) :
    workload (round allowance (p :: rest) s).waiting
      + workload (round allowance (p :: rest) s).heldUp < workload (p :: rest) := by
  have others := workload_round_le (p.goOn allowance s).allowance rest (p.goOn allowance s).session
  have own := Performer.workload_goOn_lt left due now
  rw [round, Round.workload_withTurn]
  simp only [workload] at own ⊢
  omega

/-- After a round with some allowance, those held up have less to do than all had before. -/
theorem workload_heldUp_lt {allowance : Allowance} (left : allowance ≠ some 0) (p : Performer)
    (rest : List Performer) (s : Session) :
    workload (round allowance (p :: rest) s).heldUp < workload (p :: rest) := by
  have others := workload_round_le (p.goOn allowance s).allowance rest (p.goOn allowance s).session
  rw [round]
  by_cases used : (p.goOn allowance s).allowance = some 0
  · have own := Performer.workload_goOn_lt_of_used left used
    have total := Round.workload_withTurn
      (round (p.goOn allowance s).allowance rest (p.goOn allowance s).session) (p.goOn allowance s)
    simp only [workload] at own ⊢
    omega
  · rw [Round.heldUp_withTurn _ used]
    simp only [workload]
    omega

theorem heldUp_round_none (performers : List Performer) (s : Session) :
    (round none performers s).heldUp = [] := by
  induction performers generalizing s with
  | nil => rfl
  | cons p rest ih =>
    have unlimited : (p.goOn none s).allowance = none :=
      Performer.allowance_takeSteps_none _ _ _ _ _
    rw [round, Round.heldUp_withTurn _ (by simp [unlimited]), unlimited]
    exact ih _

/--
Rounds at one time, until nobody is held up any more. Those who wait in the end are listed after
the ones that waited already.
-/
def rounds (order : TurnOrder) (limit : Option Nat) (waiting : List Performer) :
    List Performer → Session → Session × List Performer
  | [], s => (s, waiting)
  | p :: rest, s =>
    let r := round (roundAllowance limit) (p :: rest) s
    rounds order limit (waiting ++ r.waiting) (order.afterHoldUp r.heldUp) r.session
termination_by performers => workload performers
decreasing_by
  rw [workload_perm (order.afterHoldUp_perm _)]
  exact workload_heldUp_lt (roundAllowance_ne_zero limit) p rest s

theorem rounds_none (order : TurnOrder) (waiting performers : List Performer) (s : Session) :
    rounds order none waiting performers s
      = ((round none performers s).session, waiting ++ (round none performers s).waiting) := by
  cases performers with
  | nil => simp [rounds, round]
  | cons p rest =>
    have nobody : order.afterHoldUp (round none (p :: rest) s).heldUp = [] := by
      rw [heldUp_round_none]
      cases order <;> rfl
    rw [rounds, roundAllowance, Option.map_none, nobody, rounds]

theorem workload_rounds_le (order : TurnOrder) (limit : Option Nat)
    (waiting performers : List Performer) (s : Session) :
    workload (rounds order limit waiting performers s).2
      ≤ workload waiting + workload performers := by
  fun_induction rounds order limit waiting performers s with
  | case1 waiting s => exact Nat.le_add_right _ _
  | case2 waiting p rest s r ih =>
    have first : workload r.waiting + workload r.heldUp ≤ workload (p :: rest) :=
      workload_round_le (roundAllowance limit) (p :: rest) s
    rw [workload_append, workload_perm (order.afterHoldUp_perm _)] at ih
    omega

/-- Rounds in which the wait of the first performer is over leave less to do. -/
theorem workload_rounds_lt (order : TurnOrder) (limit : Option Nat) (waiting : List Performer)
    {performers : List Performer} {time : Nat} {s : Session} (someone : performers ≠ [])
    (due : ∀ p ∈ performers, p.deadline = some time) (now : time ≤ s.now) :
    workload (rounds order limit waiting performers s).2
      < workload waiting + workload performers := by
  cases performers with
  | nil => exact absurd rfl someone
  | cons p rest =>
    rw [rounds]
    have first : workload (round (roundAllowance limit) (p :: rest) s).waiting
        + workload (round (roundAllowance limit) (p :: rest) s).heldUp < workload (p :: rest) :=
      workload_round_lt (roundAllowance_ne_zero limit) (due p List.mem_cons_self) now
    have more := workload_rounds_le order limit
      (waiting ++ (round (roundAllowance limit) (p :: rest) s).waiting)
      (order.afterHoldUp (round (roundAllowance limit) (p :: rest) s).heldUp)
      (round (roundAllowance limit) (p :: rest) s).session
    rw [workload_append, workload_perm (order.afterHoldUp_perm _)] at more
    omega

end Session

/-! ## The whole performance -/

/-- The earliest time at which a performer goes on. -/
def nextTime? (performers : List Performer) : Option Nat :=
  (performers.filterMap Performer.deadline).min?

/-- Those whose time comes at `time`. -/
def dueAt (time : Nat) (performers : List Performer) : List Performer :=
  performers.filter fun p => p.deadline = some time

/-- Those whose time does not come at `time`. -/
def notDueAt (time : Nat) (performers : List Performer) : List Performer :=
  performers.filter fun p => p.deadline ≠ some time

theorem workload_notDueAt_add (time : Nat) (performers : List Performer) :
    workload (notDueAt time performers) + workload (dueAt time performers)
      = workload performers := by
  unfold notDueAt dueAt
  induction performers with
  | nil => rfl
  | cons p rest ih =>
    by_cases due : p.deadline = some time <;> simp [due, workload] at ih ⊢ <;> omega

theorem dueAt_ne_nil {performers : List Performer} {time : Nat}
    (next : nextTime? performers = some time) : dueAt time performers ≠ [] := by
  obtain ⟨p, mem, eq⟩ := List.mem_filterMap.1 (List.min?_mem next)
  exact List.ne_nil_of_mem (List.mem_filter.2 ⟨mem, decide_eq_true eq⟩)

namespace Session

/-- Performers who wait perform until nobody has anything left to do. -/
def perform (order : TurnOrder) (limit : Option Nat) (waiting : List Performer) (s : Session) :
    Session :=
  match _next : nextTime? waiting with
  | none => s
  | some time =>
    -- who begins to wait in these rounds waits for a later time, or has less left to do
    let due := order.arrange (dueAt time waiting)
    let after := (s.advanceTo time).rounds order limit (notDueAt time waiting) due
    after.1.perform order limit after.2
termination_by workload waiting
decreasing_by
  have perm := order.arrange_perm (dueAt time waiting)
  have less := workload_rounds_lt order limit (notDueAt time waiting)
    (fun none => dueAt_ne_nil _next (none ▸ perm).nil_eq.symm)
    (fun p mem => of_decide_eq_true (List.mem_filter.1 (perm.mem_iff.1 mem)).2)
    (Nat.le_refl (s.advanceTo time).now)
  rw [workload_perm perm, workload_notDueAt_add] at less
  exact less

/-- Everyone performs, beginning with a round in the order of the roster. -/
def performAll (order : TurnOrder) (limit : Option Nat) (performers : List Performer)
    (s : Session) : Session :=
  let (s, waiting) := s.rounds order limit [] performers
  s.perform order limit waiting

/-- One sprite performs from a pose, with nobody else. The pose it ends in comes with it. -/
def performAlone (s : Session) (id : SpriteId) (delay : Int64) (blocks : List Block) (pose : Pose) :
    Session × Pose :=
  let (steps, last) := performance delay blocks pose
  (s.performAll (.ofCount 1) none [⟨id, 0, none, steps⟩], last)

end Session

end SpriteStage
