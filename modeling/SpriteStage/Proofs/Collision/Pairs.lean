import SpriteStage.Proofs.Collision.Reconcile

/-! # Pairs that were tested

Two sprites that overlap when they are tested are put back. After that, either of them may move once
more, but only as one of a pair that is tested later and overlaps too.

* `pairwise_pairs` — the pairs come in lexicographic order
* `Collision.Involves` — a collision in which a sprite was put back
* `Session.kept_or_resolved` — a place stays as it is unless one of its pairs is put back
* `Session.overlap_reconcile` — who overlaps in the end was put back together or moved later
-/

namespace SpriteStage

set_option autoImplicit false

/-! ## The order of tests -/

/-- One pair of places comes before another in lexicographic order. -/
def PairBefore (a b : Nat × Nat) : Prop :=
  a.1 < b.1 ∨ a.1 = b.1 ∧ a.2 < b.2

instance (a b : Nat × Nat) : Decidable (PairBefore a b) :=
  inferInstanceAs (Decidable (_ ∨ _ ∧ _))

theorem PairBefore.irrefl (pair : Nat × Nat) : ¬PairBefore pair pair := by
  rintro (less | ⟨-, less⟩)
  · exact Nat.lt_irrefl _ less
  · exact Nat.lt_irrefl _ less

theorem PairBefore.asymm {a b : Nat × Nat} (h : PairBefore a b) : ¬PairBefore b a := by
  unfold PairBefore at h ⊢
  omega

/-- A place belongs to a pair. -/
def HasPlace (pair : Nat × Nat) (place : Nat) : Prop :=
  pair.1 = place ∨ pair.2 = place

instance (pair : Nat × Nat) (place : Nat) : Decidable (HasPlace pair place) :=
  inferInstanceAs (Decidable (_ ∨ _))

theorem mem_pairs {count : Nat} {pair : Nat × Nat} :
    pair ∈ pairs count ↔ pair.1 < pair.2 ∧ pair.2 < count := by
  obtain ⟨i, j⟩ := pair
  simp only [pairs, List.mem_flatMap, List.mem_range, List.mem_map, List.mem_range'_1,
    Prod.mk.injEq]
  constructor
  · rintro ⟨k, below, l, ⟨above, inside⟩, rfl, rfl⟩
    omega
  · rintro ⟨less, inside⟩
    exact ⟨i, by omega, j, by omega, rfl, rfl⟩

theorem pairwise_pairs (count : Nat) : (pairs count).Pairwise PairBefore := by
  rw [pairs, List.pairwise_flatMap]
  refine ⟨fun i _ => ?_, ?_⟩
  · rw [List.pairwise_map]
    refine List.Pairwise.imp ?_ List.pairwise_lt_range'
    exact fun less => .inr ⟨rfl, less⟩
  · refine List.pairwise_lt_range.imp ?_
    intro i k less a aMem b bMem
    obtain ⟨j, -, rfl⟩ := List.mem_map.mp aMem
    obtain ⟨l, -, rfl⟩ := List.mem_map.mp bMem
    exact .inl less

/-! ## Places and ids -/

/-- One of the two sprites that were put back has this id. -/
def Collision.Involves (collision : Collision) (id : SpriteId) : Prop :=
  collision.first = id ∨ collision.second = id

theorem Collision.IsAt.involves {ids : List SpriteId} {pair : Nat × Nat} {collision : Collision}
    (h : collision.IsAt ids pair) {place : Nat} {id : SpriteId} (here : ids[place]? = some id)
    (belongs : HasPlace pair place) : collision.Involves id := by
  obtain ⟨first, second⟩ := h
  rcases belongs with rfl | rfl
  · rw [first, Option.some_inj] at here
    exact .inl here
  · rw [second, Option.some_inj] at here
    exact .inr here

/-! ## What a test may change -/

namespace Session

variable {threshold : Float} {pause : Int64} {snapshot : Snapshot}

theorem collisions_foldl_reconcilePair (places : List (Nat × Nat)) {r : Reconciliation}
    {collision : Collision} (mem : collision ∈ r.collisions) :
    collision ∈ (places.foldl (reconcilePair threshold pause snapshot) r).collisions := by
  refine foldl_reconcilePair_induction (P := fun r => collision ∈ r.collisions) places mem ?_
  exact fun r pair other _ before _ => List.mem_append_left _ before

/-- The sprites at a place stay as they are, unless a pair to which it belongs is put back. -/
theorem kept_or_resolved (places : List (Nat × Nat)) (r : Reconciliation) (place : Nat) :
    (places.foldl (reconcilePair threshold pause snapshot) r).poses[place]? = r.poses[place]? ∨
      ∃ pair ∈ places, HasPlace pair place ∧
        ∃ collision ∈ (places.foldl (reconcilePair threshold pause snapshot) r).collisions,
          collision.IsAt (r.poses.map Prod.fst) pair := by
  induction places generalizing r with
  | nil => exact .inl rfl
  | cons pair rest ih =>
    rw [List.foldl_cons]
    cases found : collisionAt? threshold r.poses pair with
    | none =>
      rw [reconcilePair_of_none found]
      refine (ih r).imp_right ?_
      rintro ⟨other, mem, rest⟩
      exact ⟨other, List.mem_cons_of_mem _ mem, rest⟩
    | some collision =>
      rw [reconcilePair_of_some found]
      by_cases here : HasPlace pair place
      · refine .inr ⟨pair, List.mem_cons_self, here, collision, ?_, isAt_of_collisionAt? found⟩
        exact collisions_foldl_reconcilePair rest (List.mem_append_right _ (List.mem_singleton_self _))
      · -- the place has not moved; what the later pairs do to it is known by induction
        have kept : (r.resolve pause snapshot pair collision).poses[place]? = r.poses[place]? := by
          obtain ⟨first, second⟩ := not_or.mp here
          simp only [Reconciliation.resolve]
          rw [List.getElem?_modify_ne _ _ second, List.getElem?_modify_ne _ _ first]
        rw [← kept]
        refine (ih _).imp_right ?_
        rintro ⟨other, mem, belongs, later, known, isAt⟩
        rw [ids_resolve] at isAt
        exact ⟨other, List.mem_cons_of_mem _ mem, belongs, later, known, isAt⟩

/-! ## Overlaps in the end -/

/--
Two sprites that overlap in the end were put back together, or one of them was put back with another
sprite when a later pair was tested.
-/
theorem overlap_reconcile (s : Session) {poses : List (SpriteId × Pose)} {i j : Nat}
    {first second : SpriteId × Pose} (less : i < j)
    (atFirst : (s.reconcile threshold pause snapshot poses).poses[i]? = some first)
    (atSecond : (s.reconcile threshold pause snapshot poses).poses[j]? = some second)
    (close : collides first.2.position second.2.position threshold = true) :
    ∃ pair ∈ pairs poses.length, ∃ collision ∈
        (s.reconcile threshold pause snapshot poses).collisions,
      collision.IsAt (poses.map Prod.fst) pair ∧
        (pair = (i, j) ∨ PairBefore (i, j) pair ∧ (HasPlace pair i ∨ HasPlace pair j)) := by
  have ids := ids_reconcile threshold pause snapshot s poses
  have inside : j < poses.length := by
    have known := (List.getElem?_eq_some_iff.mp atSecond).1
    rwa [← List.length_map Prod.fst, ids, List.length_map] at known
  have mine : (i, j) ∈ pairs poses.length := mem_pairs.mpr ⟨less, inside⟩
  obtain ⟨before, after, split⟩ := List.append_of_mem mine
  have later : ∀ pair ∈ after, PairBefore (i, j) pair := by
    have ordered := pairwise_pairs poses.length
    rw [split, List.pairwise_append, List.pairwise_cons] at ordered
    exact ordered.2.1.1
  have tested : ∀ pair ∈ after, pair ∈ pairs poses.length := fun pair mem =>
    split ▸ List.mem_append_right _ (List.mem_cons_of_mem _ mem)
  -- `r` is how far the sprites have been put back when the pair is tested
  let r := before.foldl (reconcilePair threshold pause snapshot) ⟨s, poses, []⟩
  have sameIds : r.poses.map Prod.fst = poses.map Prod.fst := ids_foldl_reconcilePair _ _ _ before _
  have course : s.reconcile threshold pause snapshot poses =
      after.foldl (reconcilePair threshold pause snapshot)
        (reconcilePair threshold pause snapshot r (i, j)) := by
    rw [reconcile, split, List.foldl_append, List.foldl_cons]
  rw [course] at atFirst atSecond ⊢
  cases found : collisionAt? threshold r.poses (i, j) with
  | some collision =>
    rw [reconcilePair_of_some found]
    refine ⟨(i, j), mine, collision, ?_, ?_, .inl rfl⟩
    · exact collisions_foldl_reconcilePair after
        (List.mem_append_right _ (List.mem_singleton_self _))
    · exact sameIds ▸ isAt_of_collisionAt? found
  | none =>
    rw [reconcilePair_of_none found] at atFirst atSecond ⊢
    -- one of the two has moved since, as they did not overlap then
    have moved : ∀ place, (place = i ∨ place = j) →
        (∃ pair ∈ after, HasPlace pair place ∧ ∃ collision ∈
          (after.foldl (reconcilePair threshold pause snapshot) r).collisions,
          collision.IsAt (r.poses.map Prod.fst) pair) →
        ∃ pair ∈ pairs poses.length, ∃ collision ∈
            (after.foldl (reconcilePair threshold pause snapshot) r).collisions,
          collision.IsAt (poses.map Prod.fst) pair ∧
            (pair = (i, j) ∨ PairBefore (i, j) pair ∧ (HasPlace pair i ∨ HasPlace pair j)) := by
      rintro place here ⟨pair, mem, belongs, collision, known, isAt⟩
      refine ⟨pair, tested pair mem, collision, known, sameIds ▸ isAt, .inr ⟨later pair mem, ?_⟩⟩
      rcases here with rfl | rfl
      · exact .inl belongs
      · exact .inr belongs
    rcases kept_or_resolved after r i with keptFirst | resolved
    · rcases kept_or_resolved after r j with keptSecond | resolved
      · rw [keptFirst] at atFirst
        rw [keptSecond] at atSecond
        have overlap : collisionAt? threshold r.poses (i, j) = some ⟨first.1, second.1⟩ :=
          collisionAt?_eq_some.mpr ⟨first.2, second.2, atFirst, atSecond, close⟩
        rw [found] at overlap
        cases overlap
      · exact moved j (.inr rfl) resolved
    · exact moved i (.inl rfl) resolved

end Session

end SpriteStage
