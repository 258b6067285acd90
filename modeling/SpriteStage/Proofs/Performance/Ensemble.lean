import SpriteStage.Proofs.Performance.Turns

/-! # Whole performances

A round, the rounds at one time and the whole performance keep the balance between what has been
announced and what has still to be announced, in any order of turns and under any limit of waits.
Times never go back; in the order of the roster and without a limit, events of one time come in the
order of places.

* `Session.round_shows`, `Session.rounds_shows` — the events of one time
* `ComesBefore` — the order of the events of a performance
* `Session.performAll_shows` — a performance announces the traces of all its performers
-/

namespace SpriteStage

set_option autoImplicit false

/-! ## One turn -/

namespace Performer

variable {p : Performer} {s : Session}

theorem goOn_shows (allowance : Allowance) (notOverdue : p.NotOverdue s.now) :
    ∃ shown : List Event,
      Shows (shown.map fun event => (p.place, event)) [p] (p.goOn allowance s).rest.toList s
        (p.goOn allowance s).session ∧
      ∀ event ∈ shown, event.time = .ofMillis s.now := by
  obtain ⟨shown, events, times, same⟩ :=
    takeSteps_shows p.sprite p.place allowance p.steps notOverdue
  have stays : ∀ q ∈ (p.goOn allowance s).rest.toList, q.place = p.place := fun q mem =>
    (rest_takeSteps notOverdue (Option.mem_toList.mp mem)).2.1
  have now : (p.goOn allowance s).session.now = s.now := now_takeSteps _ _ _ _ _ _
  refine ⟨shown, ⟨?_, fun place => ?_, fun place => ?_⟩, times⟩
  · rw [List.map_map]
    exact events.trans (congrArg (s.events ++ ·) (List.map_id shown).symm)
  · rw [fromPlace_map_pair, agenda_singleton, now]
    by_cases here : p.place = place
    · subst here
      rw [if_pos rfl, if_pos rfl, agenda_of_place stays]
      exact same
    · have nobody : headcount place (p.goOn allowance s).rest.toList = 0 :=
        headcount_eq_zero fun q mem there => here ((stays q mem).symm.trans there)
      rw [if_neg here, if_neg here, agenda_of_headcount nobody, List.append_nil]
  · cases eq : (p.goOn allowance s).rest with
    | none => exact Nat.zero_le _
    | some q =>
      have := stays q (by simp [eq])
      simp [headcount, this]

end Performer

/-! ## Rounds -/

theorem Round.withTurn_perm (r : Round) (turn : Turn) :
    ((r.withTurn turn).heldUp ++ (r.withTurn turn).waiting).Perm
      ((r.heldUp ++ r.waiting) ++ turn.rest.toList) := by
  unfold withTurn
  split
  · rename_i none
    simp [none]
  · rename_i q some
    rw [some, Option.toList_some]
    split
    · exact (List.perm_append_singleton q _).symm
    · exact List.perm_middle.trans (List.perm_append_singleton q _).symm

@[simp] theorem Round.session_withTurn (r : Round) (turn : Turn) :
    (r.withTurn turn).session = r.session := by
  unfold withTurn
  split
  · rfl
  · split <;> rfl

namespace Session

@[simp] theorem now_round (allowance : Allowance) (ps : List Performer) (s : Session) :
    (round allowance ps s).session.now = s.now := by
  induction ps generalizing allowance s with
  | nil => rfl
  | cons p rest ih =>
    rw [round, Round.session_withTurn, ih]
    exact Performer.now_takeSteps _ _ _ _ _ _

/-- After a round, those who wait do so for a time to come, and nobody's time is over. -/
theorem waits_round (allowance : Allowance) {ps : List Performer} {s : Session}
    (notOverdue : ∀ p ∈ ps, p.NotOverdue s.now) :
    (∀ q ∈ (round allowance ps s).waiting, q.WaitsFrom (s.now + 1)) ∧
      ∀ q ∈ (round allowance ps s).heldUp, q.WaitsFrom s.now := by
  induction ps generalizing allowance s with
  | nil => exact ⟨List.forall_mem_nil _, List.forall_mem_nil _⟩
  | cons p rest ih =>
    have now : (p.goOn allowance s).session.now = s.now := Performer.now_takeSteps _ _ _ _ _ _
    obtain ⟨waiting, heldUp⟩ := ih (p.goOn allowance s).allowance (s := (p.goOn allowance s).session)
      fun q mem => now ▸ notOverdue q (List.mem_cons_of_mem p mem)
    rw [now] at waiting heldUp
    rw [round, Round.withTurn]
    split
    · exact ⟨waiting, heldUp⟩
    · rename_i q eq
      obtain ⟨-, -, waits, waitsOn⟩ :=
        Performer.rest_takeSteps (notOverdue p List.mem_cons_self) eq
      split
      · refine ⟨waiting, fun r mem => ?_⟩
        rcases List.mem_cons.mp mem with rfl | mem
        · exact waits
        · exact heldUp r mem
      · rename_i left
        refine ⟨fun r mem => ?_, heldUp⟩
        rcases List.mem_cons.mp mem with rfl | mem
        · exact waitsOn left
        · exact waiting r mem

/-- A round keeps the balance; its events come in the order of the turns. -/
theorem round_shows (allowance : Allowance) {ps : List Performer} {s : Session}
    (distinct : Distinct ps) (notOverdue : ∀ p ∈ ps, p.NotOverdue s.now) :
    ∃ turns : List (Nat × Event),
      Shows turns ps ((round allowance ps s).heldUp ++ (round allowance ps s).waiting) s
        (round allowance ps s).session ∧
      (∀ turn ∈ turns, turn.2.time = .ofMillis s.now) ∧
      (ps.Pairwise (fun p q => p.place ≤ q.place) → turns.Pairwise fun a b => a.1 ≤ b.1) := by
  induction ps generalizing allowance s with
  | nil => exact ⟨[], .refl [] s, List.forall_mem_nil _, fun _ => .nil⟩
  | cons p rest ih =>
    have now : (p.goOn allowance s).session.now = s.now := Performer.now_takeSteps _ _ _ _ _ _
    obtain ⟨shown, own, ownTimes⟩ :=
      Performer.goOn_shows allowance (notOverdue p List.mem_cons_self)
    have first := own.frame now rest
    -- the others have their turns while `p` waits or has finished
    have firstDistinct : Distinct ((p.goOn allowance s).rest.toList ++ rest) :=
      first.distinct distinct
    have restDistinct : Distinct rest := by
      intro place
      have := distinct place
      rw [List.singleton_append.symm, headcount_append] at this
      omega
    obtain ⟨turns, others, times, inOrder⟩ := ih (p.goOn allowance s).allowance
      (s := (p.goOn allowance s).session) restDistinct
      fun q mem => now ▸ notOverdue q (List.mem_cons_of_mem p mem)
    have later := (others.frame (now_round _ _ _) (p.goOn allowance s).rest.toList).perm
      (firstDistinct.perm List.perm_append_comm) List.perm_append_comm
      (Round.withTurn_perm _ _).symm
    refine ⟨shown.map (fun event => (p.place, event)) ++ turns, ?_, ?_, ?_⟩
    · rw [round, Round.session_withTurn]
      exact first.trans later
    · intro turn mem
      rcases List.mem_append.mp mem with mem | mem
      · obtain ⟨event, own, rfl⟩ := List.mem_map.mp mem
        exact ownTimes event own
      · rw [times turn mem, now]
    · intro sorted
      obtain ⟨before, restSorted⟩ := List.pairwise_cons.mp sorted
      refine List.pairwise_append.mpr ⟨?_, inOrder restSorted, ?_⟩
      · exact List.pairwise_map.mpr (List.pairwise_of_forall fun _ _ => Nat.le_refl _)
      · -- whoever announces something later had it on the agenda before
        intro a aMem b bMem
        obtain ⟨event, -, rfl⟩ := List.mem_map.mp aMem
        obtain ⟨q, mem, place, -⟩ := mem_agenda.mp <| by
          rw [others.agenda b.1]
          exact List.mem_append_left _ (mem_fromPlace.mpr bMem)
        exact place ▸ before q mem

/-! ## All rounds of one time -/

theorem regroup_perm (order : TurnOrder) (heldUp waitingNow waiting : List Performer) :
    ((heldUp ++ waitingNow) ++ waiting).Perm (order.afterHoldUp heldUp ++ (waiting ++ waitingNow)) := by
  rw [List.append_assoc]
  exact (order.afterHoldUp_perm _).symm.append List.perm_append_comm

@[simp] theorem now_rounds (order : TurnOrder) (limit : Option Nat) (waiting ps : List Performer)
    (s : Session) : (rounds order limit waiting ps s).1.now = s.now := by
  fun_induction rounds order limit waiting ps s with
  | case1 => rfl
  | case2 waiting p rest s r ih => rw [ih, now_round]

theorem notOverdue_afterHoldUp (order : TurnOrder) (limit : Option Nat) {ps : List Performer}
    {s : Session} (notOverdue : ∀ p ∈ ps, p.NotOverdue s.now) :
    ∀ q ∈ order.afterHoldUp (round (roundAllowance limit) ps s).heldUp,
      q.NotOverdue (round (roundAllowance limit) ps s).session.now := by
  intro q mem
  rw [now_round]
  exact ((waits_round (roundAllowance limit) notOverdue).2 q
    ((order.afterHoldUp_perm _).mem_iff.mp mem)).notOverdue

/-- When nobody is held up any more, everyone waits for a time to come. -/
theorem waits_rounds (order : TurnOrder) (limit : Option Nat) {waiting : List Performer}
    {ps : List Performer} {s : Session} (waits : ∀ q ∈ waiting, q.WaitsFrom (s.now + 1))
    (notOverdue : ∀ p ∈ ps, p.NotOverdue s.now) :
    ∀ q ∈ (rounds order limit waiting ps s).2, q.WaitsFrom (s.now + 1) := by
  fun_induction rounds order limit waiting ps s with
  | case1 => exact waits
  | case2 waiting p rest s r ih =>
    obtain ⟨waitsOn, -⟩ := waits_round (roundAllowance limit) notOverdue
    have now : r.session.now = s.now := now_round _ _ _
    have again := notOverdue_afterHoldUp order limit notOverdue
    rw [now] at ih
    rw [now_round] at again
    exact ih (fun q mem => (List.mem_append.mp mem).elim (waits q) (waitsOn q)) again

theorem rounds_shows (order : TurnOrder) (limit : Option Nat) {waiting ps : List Performer}
    {s : Session} (distinct : Distinct (ps ++ waiting))
    (notOverdue : ∀ p ∈ ps, p.NotOverdue s.now) :
    ∃ turns : List (Nat × Event),
      Shows turns (ps ++ waiting) (rounds order limit waiting ps s).2 s
        (rounds order limit waiting ps s).1 ∧
      ∀ turn ∈ turns, turn.2.time = .ofMillis s.now := by
  fun_induction rounds order limit waiting ps s with
  | case1 waiting s => exact ⟨[], .refl _ s, List.forall_mem_nil _⟩
  | case2 waiting p rest s r ih =>
    have now : r.session.now = s.now := now_round _ _ _
    obtain ⟨first, shows, times, -⟩ :=
      round_shows (roundAllowance limit) distinct.of_append notOverdue
    have next := (shows.frame (now_round _ _ _) waiting).perm distinct (.refl _)
      (regroup_perm order r.heldUp r.waiting waiting)
    obtain ⟨later, showsLater, timesLater⟩ := ih (next.distinct distinct)
      (notOverdue_afterHoldUp order limit notOverdue)
    refine ⟨first ++ later, next.trans showsLater, fun turn mem => ?_⟩
    rcases List.mem_append.mp mem with mem | mem
    · exact times turn mem
    · rw [timesLater turn mem, now]

/-- Without a limit there is one round only, so that its events come in the order of the turns. -/
theorem rounds_shows_inOrder (order : TurnOrder) {waiting ps : List Performer} {s : Session}
    (distinct : Distinct (ps ++ waiting)) (notOverdue : ∀ p ∈ ps, p.NotOverdue s.now)
    (sorted : ps.Pairwise fun p q => p.place ≤ q.place) :
    ∃ turns : List (Nat × Event),
      Shows turns (ps ++ waiting) (rounds order none waiting ps s).2 s
        (rounds order none waiting ps s).1 ∧
      (∀ turn ∈ turns, turn.2.time = .ofMillis s.now) ∧
      turns.Pairwise fun a b => a.1 ≤ b.1 := by
  obtain ⟨turns, shows, times, inOrder⟩ := round_shows none distinct.of_append notOverdue
  refine ⟨turns, ?_, times, inOrder sorted⟩
  have all := shows.frame (now_round _ _ _) waiting
  rw [heldUp_round_none, List.nil_append] at all
  rw [rounds_none]
  exact all.perm distinct (.refl _) List.perm_append_comm

end Session

/-! ## Whole performances -/

/--
Events come in the order of their times. Those of one time come in the order of places if `byPlace`
holds, and in some order otherwise.
-/
def ComesBefore (byPlace : Prop) (a b : Nat × Event) : Prop :=
  a.2.time.nanos < b.2.time.nanos ∨ a.2.time = b.2.time ∧ (byPlace → a.1 ≤ b.1)

theorem comesBefore_of_isFrom {byPlace : Prop} {now : Nat} {a b : Nat × Event}
    (present : a.2.time = .ofMillis now) (later : b.2.IsFrom (now + 1)) : ComesBefore byPlace a b := by
  obtain ⟨time, after, eq⟩ := later
  left
  rw [present, eq]
  exact Nat.mul_lt_mul_of_pos_right after (by decide)

namespace Session

theorem rounds_shows_ordered (order : TurnOrder) (limit : Option Nat)
    {waiting ps : List Performer} {s : Session} (distinct : Distinct (ps ++ waiting))
    (notOverdue : ∀ p ∈ ps, p.NotOverdue s.now)
    (sorted : order = .byRoster → ps.Pairwise fun p q => p.place ≤ q.place) :
    ∃ turns : List (Nat × Event),
      Shows turns (ps ++ waiting) (rounds order limit waiting ps s).2 s
        (rounds order limit waiting ps s).1 ∧
      (∀ turn ∈ turns, turn.2.time = .ofMillis s.now) ∧
      turns.Pairwise (ComesBefore (order = .byRoster ∧ limit = none)) := by
  by_cases inOrder : order = .byRoster ∧ limit = none
  · obtain ⟨rfl, rfl⟩ := inOrder
    obtain ⟨turns, shows, times, pairwise⟩ :=
      rounds_shows_inOrder .byRoster distinct notOverdue (sorted rfl)
    refine ⟨turns, shows, times, pairwise.imp_of_mem fun aMem bMem le => ?_⟩
    exact .inr ⟨(times _ aMem).trans (times _ bMem).symm, fun _ => le⟩
  · obtain ⟨turns, shows, times⟩ := rounds_shows order limit distinct notOverdue
    refine ⟨turns, shows, times, List.pairwise_of_forall_mem_list fun a aMem b bMem => ?_⟩
    exact .inr ⟨(times a aMem).trans (times b bMem).symm, fun both => absurd both inOrder⟩

end Session

/-! ### The next time -/

theorem nextTime?_eq_none {ps : List Performer} {time : Nat} (waits : ∀ p ∈ ps, p.WaitsFrom time)
    (nobody : nextTime? ps = none) : ps = [] := by
  cases ps with
  | nil => rfl
  | cons p rest =>
    obtain ⟨due, ms, steps, deadline, -⟩ := waits p List.mem_cons_self
    rw [nextTime?, List.min?_eq_none_iff, List.filterMap_cons_some deadline] at nobody
    cases nobody

theorem le_deadline_of_nextTime? {ps : List Performer} {time : Nat} (next : nextTime? ps = some time)
    {p : Performer} (mem : p ∈ ps) {due : Nat} (deadline : p.deadline = some due) : time ≤ due :=
  (List.min?_eq_some_iff.mp next).2 due (List.mem_filterMap.mpr ⟨p, mem, deadline⟩)

theorem le_nextTime? {ps : List Performer} {now time : Nat} (waits : ∀ p ∈ ps, p.WaitsFrom now)
    (next : nextTime? ps = some time) : now ≤ time := by
  obtain ⟨p, mem, deadline⟩ := List.mem_filterMap.mp (List.min?_mem next)
  exact (waits p mem).notOverdue time deadline

theorem waits_notDueAt {ps : List Performer} {now time : Nat} (waits : ∀ p ∈ ps, p.WaitsFrom now)
    (next : nextTime? ps = some time) : ∀ p ∈ notDueAt time ps, p.WaitsFrom (time + 1) := by
  intro p notDue
  obtain ⟨mem, other⟩ := List.mem_filter.mp notDue
  obtain ⟨due, ms, rest, deadline, -, steps⟩ := waits p mem
  have le := le_deadline_of_nextTime? next mem deadline
  have ne : due ≠ time := fun eq => of_decide_eq_true other (eq ▸ deadline)
  exact ⟨due, ms, rest, deadline, by omega, steps⟩

theorem notOverdue_arrange (order : TurnOrder) (time : Nat) (ps : List Performer) :
    ∀ p ∈ order.arrange (dueAt time ps), p.NotOverdue time := by
  intro p mem other deadline
  have due := List.mem_filter.mp ((order.arrange_perm _).mem_iff.mp mem)
  have now : p.deadline = some time := of_decide_eq_true due.2
  rw [now, Option.mem_some_iff] at deadline
  exact Nat.le_of_eq deadline

theorem perm_arrange (order : TurnOrder) (time : Nat) (ps : List Performer) :
    ps.Perm (order.arrange (dueAt time ps) ++ notDueAt time ps) := by
  have split := List.filter_append_perm (fun p : Performer => decide (p.deadline = some time)) ps
  simp only [← decide_not] at split
  exact split.symm.trans ((order.arrange_perm _).symm.append_right _)

theorem notOverdue_of_begin {ps : List Performer} (begin : ∀ p ∈ ps, p.deadline = none) (now : Nat) :
    ∀ p ∈ ps, p.NotOverdue now := by
  intro p mem due deadline
  rw [begin p mem] at deadline
  cases deadline

theorem TurnOrder.pairwise_arrange (ps : List Performer) :
    (byRoster.arrange ps).Pairwise fun p q => p.place ≤ q.place := by
  have transitive : ∀ p q r : Performer, decide (p.place ≤ q.place) = true →
      decide (q.place ≤ r.place) = true → decide (p.place ≤ r.place) = true := by
    intro p q r first later
    exact decide_eq_true (Nat.le_trans (of_decide_eq_true first) (of_decide_eq_true later))
  have total : ∀ p q : Performer,
      (decide (p.place ≤ q.place) || decide (q.place ≤ p.place)) = true := by
    intro p q
    rw [Bool.or_eq_true, decide_eq_true_eq, decide_eq_true_eq]
    exact Nat.le_total _ _
  exact (List.pairwise_mergeSort transitive total ps).imp of_decide_eq_true

/-! ### From beginning to end -/

namespace Session

theorem perform_shows (order : TurnOrder) (limit : Option Nat) {waiting : List Performer}
    {s : Session} (distinct : Distinct waiting) (waits : ∀ p ∈ waiting, p.WaitsFrom s.now) :
    ∃ turns : List (Nat × Event),
      Shows turns waiting [] s (perform order limit waiting s) ∧
      turns.Pairwise (ComesBefore (order = .byRoster ∧ limit = none)) := by
  -- after all rounds of one time everyone waits for a time to come, so that the next time is later
  fun_induction perform order limit waiting s with
  | case1 waiting s nobody =>
    rw [nextTime?_eq_none waits nobody]
    exact ⟨[], .refl [] s, .nil⟩
  | case2 waiting s time next due after ih =>
    have split : waiting.Perm (due ++ notDueAt time waiting) := perm_arrange order time waiting
    have notOverdue : ∀ p ∈ due, p.NotOverdue time := notOverdue_arrange order time waiting
    have moved := (Shows.advanceTo waits s time).perm distinct (.refl _) split
    obtain ⟨turns, shows, times, ordered⟩ := rounds_shows_ordered order limit
      (s := s.advanceTo time) (distinct.perm split) notOverdue
      (fun byRoster => by subst byRoster; exact TurnOrder.pairwise_arrange _)
    have now : after.1.now = time := now_rounds _ _ _ _ _
    have waitsOn : ∀ q ∈ after.2, q.WaitsFrom (time + 1) :=
      waits_rounds order limit (s := s.advanceTo time) (waits_notDueAt waits next) notOverdue
    obtain ⟨later, showsLater, orderedLater⟩ := ih (shows.distinct (distinct.perm split))
      fun q mem => now ▸ (waitsOn q mem).mono (Nat.le_succ time)
    refine ⟨turns ++ later, moved.trans (shows.trans showsLater), ?_⟩
    refine List.pairwise_append.mpr ⟨ordered, orderedLater, fun a aMem b bMem => ?_⟩
    obtain ⟨q, mem, -, announced⟩ := showsLater.mem_trace bMem
    exact comesBefore_of_isFrom (times a aMem) ((waitsOn q mem).isFrom_trace announced)

/-- Performers who begin announce their traces, in the order of time. -/
theorem performAll_shows (order : TurnOrder) (limit : Option Nat) {ps : List Performer}
    {s : Session} (distinct : Distinct ps) (begin : ∀ p ∈ ps, p.deadline = none)
    (sorted : ps.Pairwise fun p q => p.place ≤ q.place) :
    ∃ turns : List (Nat × Event),
      Shows turns ps [] s (performAll order limit ps s) ∧
      turns.Pairwise (ComesBefore (order = .byRoster ∧ limit = none)) := by
  have notOverdue := notOverdue_of_begin begin s.now
  have alone : Distinct (ps ++ []) := (List.append_nil ps).symm ▸ distinct
  obtain ⟨turns, shows, times, ordered⟩ :=
    rounds_shows_ordered order limit alone notOverdue fun _ => sorted
  rw [List.append_nil] at shows
  have nobody : ∀ q ∈ ([] : List Performer), q.WaitsFrom (s.now + 1) := List.forall_mem_nil _
  have waitsOn := waits_rounds order limit nobody notOverdue
  obtain ⟨later, showsLater, orderedLater⟩ := perform_shows order limit (shows.distinct distinct)
    fun q mem => (now_rounds order limit [] ps s).symm ▸ (waitsOn q mem).mono (Nat.le_succ _)
  refine ⟨turns ++ later, shows.trans showsLater, ?_⟩
  refine List.pairwise_append.mpr ⟨ordered, orderedLater, fun a aMem b bMem => ?_⟩
  obtain ⟨q, mem, -, announced⟩ := showsLater.mem_trace bMem
  exact comesBefore_of_isFrom (times a aMem) ((waitsOn q mem).isFrom_trace announced)

end Session

end SpriteStage
