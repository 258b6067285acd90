import Mathlib.Algebra.BigOperators.Intervals
import SpriteStage.Proofs.Collision.Pairs

/-! # The pairs that are put back

When the turn of a pair comes, the sprites of all pairs that have been put back are where they were
before, and all others are where they finished. So it can be told from the pairs put back so far
whether the next one overlaps.

* `putBackAt` — a roster in which the sprites of some pairs have been put back
* `Session.recorded` — the pairs that are put back, one after the other
* `Session.poses_foldl`, `Session.collisions_foldl` — what these pairs make of the roster
* `Session.mem_recorded_iff` — a pair is put back if it overlaps when its turn comes
* `Session.pairs_reconcile` — the pairs that are put back, and what is told of them
-/

namespace SpriteStage

set_option autoImplicit false

/-! ## Sprites that have been put back -/

/-- A place belongs to one of some pairs. -/
def Occurs (recorded : List (Nat × Nat)) (place : Nat) : Prop :=
  ∃ pair ∈ recorded, HasPlace pair place

instance (recorded : List (Nat × Nat)) (place : Nat) : Decidable (Occurs recorded place) :=
  inferInstanceAs (Decidable (∃ pair ∈ recorded, HasPlace pair place))

/-- A roster in which the sprites at the places of some pairs have been put back. -/
def putBackAt (snapshot : Snapshot) (recorded : List (Nat × Nat))
    (poses : List (SpriteId × Pose)) : List (SpriteId × Pose) :=
  poses.mapIdx fun place entry => if Occurs recorded place then rollBack snapshot entry else entry

/--
Where the sprite at a place is when some pairs have been put back: where it was before, if it
belongs to one of them and has such a position, and where it finished otherwise.
-/
def workingPosition? (snapshot : Snapshot) (poses : List (SpriteId × Pose))
    (recorded : List (Nat × Nat)) (place : Nat) : Option Position :=
  poses[place]?.map fun entry =>
    if Occurs recorded place then (snapshot.position? entry.1).getD entry.2.position
    else entry.2.position

section PutBack

variable (snapshot : Snapshot)

theorem rollBack_rollBack (entry : SpriteId × Pose) :
    rollBack snapshot (rollBack snapshot entry) = rollBack snapshot entry := by
  simp only [rollBack]
  cases snapshot.position? entry.1 <;> rfl

theorem getElem?_putBackAt (recorded : List (Nat × Nat)) (poses : List (SpriteId × Pose))
    (place : Nat) :
    (putBackAt snapshot recorded poses)[place]? = poses[place]?.map fun entry =>
      if Occurs recorded place then rollBack snapshot entry else entry := by
  rw [putBackAt, List.getElem?_mapIdx]

theorem putBackAt_nil (poses : List (SpriteId × Pose)) : putBackAt snapshot [] poses = poses := by
  have nowhere : ∀ place, ¬Occurs [] place := fun place ⟨pair, mem, _⟩ => List.not_mem_nil mem
  apply List.ext_getElem?
  intro place
  rw [getElem?_putBackAt]
  simp only [if_neg (nowhere place), Option.map_id']

theorem getElem?_modify_modify (pair : Nat × Nat) (poses : List (SpriteId × Pose)) (place : Nat) :
    ((poses.modify pair.1 (rollBack snapshot)).modify pair.2 (rollBack snapshot))[place]? =
      poses[place]?.map fun entry =>
        if HasPlace pair place then rollBack snapshot entry else entry := by
  simp only [List.getElem?_modify, Option.map_eq_map, Option.map_map]
  refine Option.map_congr fun entry _ => ?_
  by_cases first : pair.1 = place
  · by_cases second : pair.2 = place
    · simp [HasPlace, first, second, rollBack_rollBack]
    · simp [HasPlace, first, second]
  · simp [HasPlace, first]

/-- Whoever is put back a second time is where it was already. -/
theorem putBackAt_cons (pair : Nat × Nat) (later : List (Nat × Nat))
    (poses : List (SpriteId × Pose)) :
    putBackAt snapshot (pair :: later) poses = putBackAt snapshot later
      ((poses.modify pair.1 (rollBack snapshot)).modify pair.2 (rollBack snapshot)) := by
  apply List.ext_getElem?
  intro place
  have occurs : Occurs (pair :: later) place ↔ HasPlace pair place ∨ Occurs later place := by
    simp only [Occurs, List.mem_cons, exists_eq_or_imp]
  rw [getElem?_putBackAt, getElem?_putBackAt, getElem?_modify_modify, Option.map_map]
  refine Option.map_congr fun entry _ => ?_
  by_cases here : HasPlace pair place
  · by_cases again : Occurs later place
    · simp [occurs, here, again, rollBack_rollBack]
    · simp [occurs, here, again]
  · simp [occurs, here]

theorem position_putBackAt (recorded : List (Nat × Nat)) (poses : List (SpriteId × Pose))
    (place : Nat) :
    (putBackAt snapshot recorded poses)[place]?.map (fun entry => entry.2.position) =
      workingPosition? snapshot poses recorded place := by
  rw [getElem?_putBackAt, Option.map_map, workingPosition?]
  refine Option.map_congr fun entry _ => ?_
  simp only [Function.comp_apply]
  split <;> rfl

theorem isSome_collisionAt?_iff (threshold : Float) (recorded : List (Nat × Nat))
    (poses : List (SpriteId × Pose)) (pair : Nat × Nat) :
    (collisionAt? threshold (putBackAt snapshot recorded poses) pair).isSome ↔
      ∃ a b, workingPosition? snapshot poses recorded pair.1 = some a ∧
        workingPosition? snapshot poses recorded pair.2 = some b ∧
        collides a b threshold = true := by
  rw [← position_putBackAt, ← position_putBackAt, Option.isSome_iff_exists]
  constructor
  · rintro ⟨collision, found⟩
    obtain ⟨a, b, first, second, close⟩ := collisionAt?_eq_some.mp found
    exact ⟨a.position, b.position, by rw [first]; rfl, by rw [second]; rfl, close⟩
  · rintro ⟨a, b, first, second, close⟩
    obtain ⟨⟨firstId, poseA⟩, atFirst, rfl⟩ := Option.map_eq_some_iff.mp first
    obtain ⟨⟨secondId, poseB⟩, atSecond, rfl⟩ := Option.map_eq_some_iff.mp second
    exact ⟨⟨firstId, secondId⟩, collisionAt?_eq_some.mpr ⟨poseA, poseB, atFirst, atSecond, close⟩⟩

end PutBack

/-! ## The pairs -/

theorem length_pairs (count : Nat) : (pairs count).length = count * (count - 1) / 2 := by
  have rows : (pairs count).length = ((List.range count).map fun i => count - 1 - i).sum := by
    rw [pairs, List.length_flatMap]
    refine congrArg List.sum (List.map_congr_left fun i _ => ?_)
    rw [List.length_map, List.length_range']
    omega
  have sums : ((List.range count).map fun i => count - 1 - i).sum =
      ∑ i ∈ Finset.range count, (count - 1 - i) := rfl
  rw [rows, sums, Finset.sum_range_reflect (fun i => i) count, Finset.sum_range_id]

namespace Session

section Recorded

variable (threshold : Float) (pause : Int64) (snapshot : Snapshot)

/-- The pairs among some places that are put back when they are tested one after the other. -/
def recordedFrom : Reconciliation → List (Nat × Nat) → List (Nat × Nat)
  | _, [] => []
  | r, pair :: rest =>
    match collisionAt? threshold r.poses pair with
    | some collision => pair :: recordedFrom (r.resolve pause snapshot pair collision) rest
    | none => recordedFrom r rest

/-- The pairs of a roster that are put back. -/
def recorded (s : Session) (poses : List (SpriteId × Pose)) : List (Nat × Nat) :=
  recordedFrom threshold pause snapshot ⟨s, poses, []⟩ (pairs poses.length)

variable {threshold pause snapshot}

theorem recordedFrom_of_some {r : Reconciliation} {pair : Nat × Nat} {collision : Collision}
    (found : collisionAt? threshold r.poses pair = some collision) (rest : List (Nat × Nat)) :
    recordedFrom threshold pause snapshot r (pair :: rest) =
      pair :: recordedFrom threshold pause snapshot
        (r.resolve pause snapshot pair collision) rest := by
  rw [recordedFrom, found]

theorem recordedFrom_of_none {r : Reconciliation} {pair : Nat × Nat}
    (found : collisionAt? threshold r.poses pair = none) (rest : List (Nat × Nat)) :
    recordedFrom threshold pause snapshot r (pair :: rest) =
      recordedFrom threshold pause snapshot r rest := by
  rw [recordedFrom, found]

theorem recordedFrom_sublist (r : Reconciliation) (places : List (Nat × Nat)) :
    (recordedFrom threshold pause snapshot r places).Sublist places := by
  induction places generalizing r with
  | nil => exact .refl []
  | cons pair rest ih =>
    cases found : collisionAt? threshold r.poses pair with
    | some collision =>
      rw [recordedFrom_of_some found]
      exact (ih _).cons_cons pair
    | none =>
      rw [recordedFrom_of_none found]
      exact (ih r).cons pair

theorem recordedFrom_append (r : Reconciliation) (first later : List (Nat × Nat)) :
    recordedFrom threshold pause snapshot r (first ++ later) =
      recordedFrom threshold pause snapshot r first ++ recordedFrom threshold pause snapshot
        (first.foldl (reconcilePair threshold pause snapshot) r) later := by
  induction first generalizing r with
  | nil => rfl
  | cons pair rest ih =>
    rw [List.cons_append, List.foldl_cons]
    cases found : collisionAt? threshold r.poses pair with
    | some collision =>
      rw [recordedFrom_of_some found, recordedFrom_of_some found, reconcilePair_of_some found, ih,
        List.cons_append]
    | none =>
      rw [recordedFrom_of_none found, recordedFrom_of_none found, reconcilePair_of_none found, ih]

/-- The roster after some tests is the one before with the sprites of these pairs put back. -/
theorem poses_foldl (r : Reconciliation) (places : List (Nat × Nat)) :
    (places.foldl (reconcilePair threshold pause snapshot) r).poses =
      putBackAt snapshot (recordedFrom threshold pause snapshot r places) r.poses := by
  induction places generalizing r with
  | nil => exact (putBackAt_nil snapshot r.poses).symm
  | cons pair rest ih =>
    rw [List.foldl_cons]
    cases found : collisionAt? threshold r.poses pair with
    | some collision =>
      rw [recordedFrom_of_some found, reconcilePair_of_some found, ih, putBackAt_cons]
      rfl
    | none => rw [recordedFrom_of_none found, reconcilePair_of_none found, ih]

variable (threshold pause snapshot)

/-- The collisions that tests add are those of the sprites of these pairs, in the same order. -/
theorem collisions_foldl (r : Reconciliation) (places : List (Nat × Nat)) :
    ∃ added, (places.foldl (reconcilePair threshold pause snapshot) r).collisions =
        r.collisions ++ added ∧
      List.Forall₂ (fun pair collision => collision.IsAt (r.poses.map Prod.fst) pair)
        (recordedFrom threshold pause snapshot r places) added := by
  induction places generalizing r with
  | nil => exact ⟨[], (List.append_nil _).symm, .nil⟩
  | cons pair rest ih =>
    rw [List.foldl_cons]
    cases found : collisionAt? threshold r.poses pair with
    | some collision =>
      rw [recordedFrom_of_some found, reconcilePair_of_some found]
      obtain ⟨added, collisions, same⟩ := ih (r.resolve pause snapshot pair collision)
      rw [ids_resolve] at same
      refine ⟨collision :: added, ?_, .cons (isAt_of_collisionAt? found) same⟩
      rw [collisions, Reconciliation.resolve, List.append_assoc]
      rfl
    | none =>
      rw [recordedFrom_of_none found, reconcilePair_of_none found]
      exact ih r

variable (s : Session) (poses : List (SpriteId × Pose))

theorem isAt_recorded :
    List.Forall₂ (fun pair collision => collision.IsAt (poses.map Prod.fst) pair)
      (s.recorded threshold pause snapshot poses)
      (s.reconcile threshold pause snapshot poses).collisions := by
  obtain ⟨added, collisions, same⟩ := collisions_foldl threshold pause snapshot ⟨s, poses, []⟩
    (pairs poses.length)
  rw [List.nil_append] at collisions
  exact collisions ▸ same

theorem reconcile_poses :
    (s.reconcile threshold pause snapshot poses).poses =
      putBackAt snapshot (s.recorded threshold pause snapshot poses) poses :=
  poses_foldl ⟨s, poses, []⟩ (pairs poses.length)

/-! ### Turns -/

theorem recorded_sublist :
    (s.recorded threshold pause snapshot poses).Sublist (pairs poses.length) :=
  recordedFrom_sublist _ _

/-- The pairs put back before the turn of a pair are those that come before it. -/
theorem recorded_split {i j : Nat} {before after : List (Nat × Nat)}
    (split : pairs poses.length = before ++ (i, j) :: after) :
    let earlier := recordedFrom threshold pause snapshot ⟨s, poses, []⟩ before
    (s.recorded threshold pause snapshot poses).filter (fun pair => PairBefore pair (i, j)) =
        earlier ∧
      ((i, j) ∈ s.recorded threshold pause snapshot poses ↔
        (collisionAt? threshold (putBackAt snapshot earlier poses) (i, j)).isSome) := by
  intro earlier
  have ordered := pairwise_pairs poses.length
  rw [split, List.pairwise_append, List.pairwise_cons] at ordered
  obtain ⟨-, ⟨later, -⟩, cross⟩ := ordered
  let r := before.foldl (reconcilePair threshold pause snapshot) ⟨s, poses, []⟩
  have now : r.poses = putBackAt snapshot earlier poses := poses_foldl ⟨s, poses, []⟩ before
  have whole : s.recorded threshold pause snapshot poses =
      earlier ++ recordedFrom threshold pause snapshot r ((i, j) :: after) := by
    rw [recorded, split, recordedFrom_append]
  have first : ∀ pair ∈ earlier, PairBefore pair (i, j) := fun pair mem =>
    cross pair ((recordedFrom_sublist _ before).subset mem) (i, j) List.mem_cons_self
  have notBefore : ∀ pair ∈ recordedFrom threshold pause snapshot r ((i, j) :: after),
      ¬PairBefore pair (i, j) := by
    intro pair mem
    rcases List.mem_cons.mp ((recordedFrom_sublist r _).subset mem) with rfl | mem
    · exact PairBefore.irrefl _
    · exact (later pair mem).asymm
  refine ⟨?_, ?_⟩
  · rw [whole, List.filter_append, List.filter_eq_self.mpr (by simpa using first),
      List.filter_eq_nil_iff.mpr (by simpa using notBefore), List.append_nil]
  · -- as its turn comes once, the pair is put back then or not at all
    have notEarlier : (i, j) ∉ earlier := fun mem =>
      PairBefore.irrefl _ (first _ mem)
    have notLater : ∀ r', (i, j) ∉ recordedFrom threshold pause snapshot r' after := fun r' mem =>
      PairBefore.irrefl _ (later _ ((recordedFrom_sublist r' after).subset mem))
    rw [whole, List.mem_append, or_iff_right notEarlier, ← now]
    cases found : collisionAt? threshold r.poses (i, j) with
    | some collision =>
      rw [recordedFrom_of_some found]
      exact iff_of_true List.mem_cons_self rfl
    | none =>
      rw [recordedFrom_of_none found]
      exact iff_of_false (notLater r) Bool.false_ne_true

theorem mem_recorded_iff {i j : Nat} :
    let earlier := (s.recorded threshold pause snapshot poses).filter fun pair =>
      PairBefore pair (i, j)
    (i, j) ∈ s.recorded threshold pause snapshot poses ↔ i < j ∧
      ∃ a b, workingPosition? snapshot poses earlier i = some a ∧
        workingPosition? snapshot poses earlier j = some b ∧ collides a b threshold = true := by
  intro earlier
  have turn : (i, j) ∈ pairs poses.length →
      ((i, j) ∈ s.recorded threshold pause snapshot poses ↔
        ∃ a b, workingPosition? snapshot poses earlier i = some a ∧
          workingPosition? snapshot poses earlier j = some b ∧ collides a b threshold = true) := by
    intro tested
    obtain ⟨before, after, split⟩ := List.append_of_mem tested
    obtain ⟨same, found⟩ := recorded_split threshold pause snapshot s poses split
    rw [found, ← same]
    exact isSome_collisionAt?_iff snapshot threshold earlier poses (i, j)
  constructor
  · intro mem
    have tested := (recorded_sublist threshold pause snapshot s poses).subset mem
    exact ⟨(mem_pairs.mp tested).1, (turn tested).mp mem⟩
  · rintro ⟨less, a, b, first, second, close⟩
    have inside : j < poses.length := by
      obtain ⟨entry, there, -⟩ := Option.map_eq_some_iff.mp second
      exact (List.getElem?_eq_some_iff.mp there).1
    exact (turn (mem_pairs.mpr ⟨less, inside⟩)).mpr ⟨a, b, first, second, close⟩

end Recorded

/-! ## What is told of them -/

variable (threshold : Float) (pause : Int64) (snapshot : Snapshot)

/-- Each collision is told of when its pause is over, and the pauses follow each other. -/
theorem told_reconcile (s : Session) (poses : List (SpriteId × Pose)) :
    let r := s.reconcile threshold pause snapshot poses
    r.session.events = s.events ++ r.collisions.mapIdx fun count collision =>
      .collisionResolved collision.first collision.second
        (.ofMillis (s.now + (count + 1) * delayLength pause)) := by
  -- the clock moves on for collisions only, so that their number tells the time
  refine (foldl_reconcilePair_induction
    (P := fun r => r.session.now = s.now + r.collisions.length * delayLength pause ∧
      r.session.events = s.events ++ r.collisions.mapIdx fun count collision =>
        .collisionResolved collision.first collision.second
          (.ofMillis (s.now + (count + 1) * delayLength pause)))
    (r := ⟨s, poses, []⟩) (pairs poses.length) (by simp) ?_).2
  rintro r pair collision - ⟨now, events⟩ -
  have later : (r.session.pause pause).now =
      s.now + (r.collisions.length + 1) * delayLength pause := by
    rw [now_pause, now, Nat.succ_mul, Nat.add_assoc]
  have grown : (r.resolve pause snapshot pair collision).collisions = r.collisions ++ [collision] :=
    rfl
  refine ⟨?_, ?_⟩
  · rw [grown, List.length_append]
    exact later
  · rw [events_resolve, elapsed, later, events, grown, List.mapIdx_concat, List.append_assoc]

end Session

end SpriteStage
