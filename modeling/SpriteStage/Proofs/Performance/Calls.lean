import SpriteStage.Proofs.Performance.Total

/-! # How deep rounds are nested

Blocks may be interpreted by plain recursion: each round of a block that goes through others again
interprets the body of the list that it stands in, whatever this body holds. As no such block is in
a body, the recursion ends one level down.

* `Interprets` — interpreting by recursion, with a record of the lists that are interpreted
* `interprets_list_iff` — it comes to the steps of `sequence`, and to nothing else
-/

namespace SpriteStage

set_option autoImplicit false

/-! ## Recursion over lists -/

/-- What there is to interpret. -/
inductive Task where
  /-- A list of blocks. -/
  | list (blocks : List Block)
  /-- The blocks that are left of a list with some body. -/
  | rest (body left : List Block)
  /-- So many rounds of a body. -/
  | rounds (body : List Block) (count : Nat)

/--
A task comes to some steps and a last pose. On the way some lists are interpreted, each of them at
some depth of the recursion.
-/
inductive Interprets (delay : Int64) :
    Nat → Task → Pose → List Step → Pose → List (Nat × List Block) → Prop where
  | list {depth : Nat} {blocks : List Block} {pose last : Pose} {steps : List Step}
    {calls : List (Nat × List Block)}
    (run : Interprets delay depth (.rest (body blocks) blocks) pose steps last calls) :
    Interprets delay depth (.list blocks) pose steps last ((depth, blocks) :: calls)
  | done {depth : Nat} {body : List Block} {pose : Pose} :
    Interprets delay depth (.rest body []) pose [] pose []
  /-- A block that does something itself makes its pose known. -/
  | plain {depth : Nat} {body left : List Block} {block : Block} {pose last : Pose}
    {steps : List Step} {calls : List (Nat × List Block)} (itself : block.isAgain = false)
    (later : Interprets delay depth (.rest body left) (block.effect pose) steps last calls) :
    Interprets delay depth (.rest body (block :: left)) pose
      (block.display ++ [.commit (block.effect pose)] ++ steps) last calls
  /-- A block that goes through others again does so, and makes the pose known. -/
  | again {depth : Nat} {body left : List Block} {times : Int64} {pose middle last : Pose}
    {steps more : List Step} {calls others : List (Nat × List Block)}
    (own : Interprets delay depth (.rounds body times.toInt.toNat) pose steps middle calls)
    (later : Interprets delay depth (.rest body left) middle more last others) :
    Interprets delay depth (.rest body (.again times :: left)) pose
      (steps ++ [.commit middle] ++ more) last (calls ++ others)
  | finished {depth : Nat} {body : List Block} {pose : Pose} :
    Interprets delay depth (.rounds body 0) pose [] pose []
  /-- A round waits, and interprets the body one level down. -/
  | round {depth : Nat} {body : List Block} {count : Nat} {pose middle last : Pose}
    {steps more : List Step} {calls others : List (Nat × List Block)}
    (own : Interprets delay (depth + 1) (.list body) pose steps middle calls)
    (later : Interprets delay depth (.rounds body count) middle more last others) :
    Interprets delay depth (.rounds body (count + 1)) pose (suspension delay ++ steps ++ more) last
      (calls ++ others)

/-! ## Bodies -/

theorem isAgain_of_mem_body {blocks : List Block} {block : Block} (mem : block ∈ body blocks) :
    block.isAgain = false := by
  simpa using (List.mem_filter.mp mem).2

theorem walk_of_againCount {blocks : List Block} (none : againCount blocks = 0) (delay : Int64)
    (f g : Pose → List Step × Pose) (pose : Pose) :
    walk delay f blocks pose = walk delay g blocks pose := by
  induction blocks generalizing pose with
  | nil => rfl
  | cons block rest ih =>
    rw [againCount, List.countP_cons] at none
    have itself : block.isAgain = false := by
      by_contra again
      rw [if_pos (by simpa using again)] at none
      exact absurd none (Nat.succ_ne_zero _)
    have later := ih (Nat.eq_zero_of_add_eq_zero_right none) (block.effect pose)
    simp only [walk, blockSteps_of_not_again itself, later]

/-- Every list is gone through with its body for the rounds. -/
theorem sequence_eq_walk (delay : Int64) (blocks : List Block) (pose : Pose) :
    sequence delay blocks pose = walk delay (sequence delay (body blocks)) blocks pose := by
  rw [sequence]
  split
  · rename_i none
    exact walk_of_againCount none delay _ _ pose
  · rfl

/-! ## What a task comes to -/

namespace Task

/-- The steps of a task and its last pose. -/
def result (delay : Int64) : Task → Pose → List Step × Pose
  | list blocks => sequence delay blocks
  | rest body left => walk delay (sequence delay body) left
  | rounds body count => SpriteStage.rounds delay (sequence delay body) count

/-- The lists that are interpreted for a task: each round interprets the body, one level down. -/
def calls (depth : Nat) : Task → List (Nat × List Block)
  | list blocks =>
    (depth, blocks) :: List.replicate (repetitions blocks) (depth + 1, SpriteStage.body blocks)
  | rest body left => List.replicate (repetitions left) (depth + 1, body)
  | rounds body count => List.replicate count (depth + 1, body)

/-- The body of a task goes through nothing again. -/
def Flat : Task → Prop
  | list _ => True
  | rest body _ => againCount body = 0
  | rounds body _ => againCount body = 0

theorem calls_again (depth : Nat) (core : List Block) (times : Int64) (left : List Block) :
    (rest core (.again times :: left)).calls depth =
      (rounds core times.toInt.toNat).calls depth ++ (rest core left).calls depth := by
  simp only [calls, List.replicate_append_replicate, repetitions, List.map_cons, List.sum_cons,
    Block.times]

/-- A list that goes through nothing again is the only list that is interpreted for it. -/
theorem calls_list_of_againCount {blocks : List Block} (none : againCount blocks = 0)
    (depth : Nat) : (list blocks).calls depth = [(depth, blocks)] := by
  rw [calls, repetitions_of_againCount none, List.replicate_zero]

end Task

theorem repetitions_cons_of_not_again {block : Block} (itself : block.isAgain = false)
    (rest : List Block) : repetitions (block :: rest) = repetitions rest := by
  cases block with
  | again times => cases itself
  | _ => simp [repetitions, Block.times]

theorem Interprets.sound {delay : Int64} {depth : Nat} {task : Task} {pose last : Pose}
    {steps : List Step} {calls : List (Nat × List Block)}
    (h : Interprets delay depth task pose steps last calls) (flat : task.Flat) :
    task.result delay pose = (steps, last) ∧ calls = task.calls depth := by
  induction h with
  | list _ ih =>
    obtain ⟨result, same⟩ := ih (againCount_body _)
    refine ⟨(sequence_eq_walk delay _ _).trans result, ?_⟩
    rw [same]
    rfl
  | done => exact ⟨rfl, rfl⟩
  | @plain depth body left block pose last steps calls itself _ ih =>
    obtain ⟨result, same⟩ := ih flat
    have later : walk delay (sequence delay body) left (block.effect pose) = (steps, last) := result
    refine ⟨?_, ?_⟩
    · simp only [Task.result, walk, blockSteps_of_not_again itself, later]
    · rw [same, Task.calls, Task.calls, repetitions_cons_of_not_again itself]
  | @again depth body left times pose middle last steps more calls others _ _ ihOwn ihLater =>
    obtain ⟨own, first⟩ := ihOwn flat
    obtain ⟨later, second⟩ := ihLater flat
    have own : rounds delay (sequence delay body) times.toInt.toNat pose = (steps, middle) := own
    have later : walk delay (sequence delay body) left middle = (more, last) := later
    refine ⟨?_, ?_⟩
    · simp only [Task.result, walk, blockSteps, own, later]
    · rw [first, second, Task.calls_again]
  | finished => exact ⟨rfl, rfl⟩
  | @round depth body count pose middle last steps more calls others _ _ ihOwn ihLater =>
    obtain ⟨own, first⟩ := ihOwn trivial
    obtain ⟨later, second⟩ := ihLater flat
    have own : sequence delay body pose = (steps, middle) := own
    have later : rounds delay (sequence delay body) count middle = (more, last) := later
    refine ⟨?_, ?_⟩
    · simp only [Task.result, rounds, own, later]
    · -- the body goes through nothing again, so that a round interprets no other list
      rw [first, second, Task.calls_list_of_againCount flat]
      rfl

/-! ## Every list comes to something -/

section Derivations

variable (delay : Int64) {core : List Block} (flat : againCount core = 0)

/-- Blocks that do something themselves come to their steps, whatever the body for the rounds. -/
theorem interprets_plain {left : List Block} (plain : ∀ block ∈ left, block.isAgain = false)
    (core : List Block) (depth : Nat) (pose : Pose) :
    Interprets delay depth (.rest core left) pose
      (walk delay (sequence delay core) left pose).1 (walk delay (sequence delay core) left pose).2
      [] := by
  induction left generalizing pose with
  | nil => exact .done
  | cons block rest ih =>
    have itself := plain block List.mem_cons_self
    have later := ih (fun other mem => plain other (List.mem_cons_of_mem block mem))
      (block.effect pose)
    simp only [walk, blockSteps_of_not_again itself]
    exact .plain itself later

include flat

theorem interprets_core (depth : Nat) (pose : Pose) :
    Interprets delay depth (.list core) pose (sequence delay core pose).1
      (sequence delay core pose).2 [(depth, core)] := by
  have plain : ∀ block ∈ core, block.isAgain = false := by
    simpa [againCount, List.countP_eq_zero] using flat
  rw [sequence_eq_walk]
  exact .list (interprets_plain delay plain (body core) depth pose)

theorem interprets_rounds (depth count : Nat) (pose : Pose) :
    Interprets delay depth (.rounds core count) pose
      (rounds delay (sequence delay core) count pose).1
      (rounds delay (sequence delay core) count pose).2
      ((Task.rounds core count).calls depth) := by
  induction count generalizing pose with
  | zero => exact .finished
  | succ count ih => exact .round (interprets_core delay flat (depth + 1) pose) (ih _)

theorem interprets_rest (depth : Nat) (left : List Block) (pose : Pose) :
    Interprets delay depth (.rest core left) pose
      (walk delay (sequence delay core) left pose).1 (walk delay (sequence delay core) left pose).2
      ((Task.rest core left).calls depth) := by
  induction left generalizing pose with
  | nil => exact .done
  | cons block rest ih =>
    cases again : block.isAgain with
    | false =>
      have later := ih (block.effect pose)
      rw [Task.calls, repetitions_cons_of_not_again again]
      simp only [walk, blockSteps_of_not_again again]
      exact .plain again later
    | true =>
      obtain ⟨times, rfl⟩ : ∃ times, block = .again times := by
        cases block <;> cases again
        exact ⟨_, rfl⟩
      have own := interprets_rounds delay flat depth times.toInt.toNat pose
      rw [Task.calls_again]
      exact .again own (ih _)

end Derivations

/--
Interpreting a list by recursion comes to the steps of its sequence, and to nothing else. Besides
the list itself its body is interpreted, one level down and once for each round.
-/
theorem interprets_list_iff {delay : Int64} {depth : Nat} {blocks : List Block} {pose last : Pose}
    {steps : List Step} {calls : List (Nat × List Block)} :
    Interprets delay depth (.list blocks) pose steps last calls ↔
      sequence delay blocks pose = (steps, last) ∧
      calls = (depth, blocks) :: List.replicate (repetitions blocks) (depth + 1, body blocks) := by
  constructor
  · exact fun interpreted => interpreted.sound trivial
  · rintro ⟨result, rfl⟩
    have derived := interprets_rest delay (againCount_body blocks) depth blocks pose
    rw [← sequence_eq_walk, result] at derived
    exact .list derived

end SpriteStage
