import SpriteStage.Proofs.Performance.Replay
import SpriteStage.Proofs.Performance.Units

/-! # Bubbles as they are seen

A bubble is seen from when it appears until it is gone, and no longer. What is seen at some time can be
read off the whole log: it is the bubble that is open then, and none once there has been one.

* `Event.isBy` — the event has happened by some time
* `TellsOf`, `OpenAt` — the bubbles of a log, and those that are open at some time
* `Bubbles` — what is seen of them
* `Units.reflects` — a sprite that is as its log tells up to some time shows just that
-/

namespace SpriteStage

set_option autoImplicit false

/-! ## The log up to some time -/

/-- The event has happened by some time, in milliseconds. -/
def Event.isBy (time : Nat) (event : Event) : Bool :=
  decide (event.time.nanos ≤ (Duration.ofMillis time).nanos)

/-- Times do not go back in a log. -/
def Ordered (log : List Event) : Prop :=
  log.Pairwise fun a b => a.time.nanos ≤ b.time.nanos

/-! ## The bubbles of a log -/

/-- The log tells of a bubble of the sprite that has appeared at `start` and is gone at `stop`. -/
def TellsOf (id : SpriteId) (log : List Event) (bubble : Bubble) (start stop : Duration) : Prop :=
  ∃ asked, [.messageShown id bubble.kind bubble.text start asked, .messageCleared id stop] <:+: log

/-- A bubble of the sprite has appeared by some time and is not yet gone. -/
def OpenAt (id : SpriteId) (log : List Event) (time : Nat) (bubble : Bubble) : Prop :=
  ∃ start stop, TellsOf id log bubble start stop ∧
    start.nanos ≤ (Duration.ofMillis time).nanos ∧ (Duration.ofMillis time).nanos < stop.nanos

/-- The sprite shows a bubble, or none. -/
structure Sprite.Shows (sprite : Sprite) (bubble : Option Bubble) : Prop where
  text : sprite.message = bubble.map Bubble.text
  kind : sprite.messageKind = bubble.map Bubble.kind

theorem Sprite.shows_withBubble (sprite : Sprite) (bubble : Option Bubble) :
    (sprite.withBubble bubble).Shows bubble :=
  ⟨rfl, rfl⟩

/--
What is seen of the bubbles of a sprite at some time, as its log tells, and as the sprite was before:
the one that is open; none if there has been one and none is open; and what the sprite showed before if
there has been none. At the very time at which a bubble ends it is not seen any more.
-/
structure Bubbles (id : SpriteId) (log : List Event) (time : Nat) (before seen : Sprite) : Prop where
  opened : ∀ bubble, OpenAt id log time bubble → seen.Shows (some bubble)
  closed : (∀ bubble, ¬ OpenAt id log time bubble) →
    (∃ event ∈ log, event.shows id = true ∧ event.isBy time = true) → seen.Shows none
  untouched : (∀ event ∈ log, event.shows id = true → event.isBy time = false) →
    seen.message = before.message ∧ seen.messageKind = before.messageKind
  ended : ∀ bubble start, TellsOf id log bubble start (.ofMillis time) →
    (∀ event ∈ log, event.shows id = true → event.time ≠ .ofMillis time) → seen.Shows none

section

variable {id : SpriteId} {time : Nat} {log : List Event} {before seen : Sprite} {bubble : Bubble}
  {start stop : Duration}

theorem tellsOf_pose {pose : Pose} {moment : Duration} :
    TellsOf id (.poseCommitted id pose moment :: log) bubble start stop ↔
      TellsOf id log bubble start stop := by
  refine exists_congr fun asked => ⟨fun told => ?_, List.infix_cons⟩
  refine (List.infix_cons_iff.mp told).resolve_left fun first => ?_
  cases (List.cons_prefix_cons.mp first).1

theorem tellsOf_bubble {kind : BubbleKind} {text : String} {shown cleared asked : Duration} :
    TellsOf id (.messageShown id kind text shown asked :: .messageCleared id cleared :: log)
        bubble start stop ↔
      (bubble = ⟨kind, text⟩ ∧ start = shown ∧ stop = cleared) ∨ TellsOf id log bubble start stop := by
  constructor
  · rintro ⟨own, told⟩
    rcases List.infix_cons_iff.mp told with first | told
    · obtain ⟨same, first⟩ := List.cons_prefix_cons.mp first
      obtain ⟨next, -⟩ := List.cons_prefix_cons.mp first
      cases same
      cases next
      exact .inl ⟨rfl, rfl, rfl⟩
    · rcases List.infix_cons_iff.mp told with first | told
      · cases (List.cons_prefix_cons.mp first).1
      · exact .inr ⟨own, told⟩
  · rintro (⟨rfl, rfl, rfl⟩ | ⟨own, told⟩)
    · exact ⟨asked, (List.prefix_append [_, _] log).isInfix⟩
    · exact ⟨own, List.infix_cons (List.infix_cons told)⟩

theorem TellsOf.isBy (told : TellsOf id log bubble start stop)
    (later : ∀ event ∈ log, event.isBy time = false) :
    (Duration.ofMillis time).nanos < start.nanos ∧ (Duration.ofMillis time).nanos < stop.nanos := by
  obtain ⟨asked, told⟩ := told
  have first := later _ (told.subset List.mem_cons_self)
  have second := later _ (told.subset (List.mem_cons_of_mem _ List.mem_cons_self))
  exact ⟨Nat.lt_of_not_le (of_decide_eq_false first), Nat.lt_of_not_le (of_decide_eq_false second)⟩

/-- Before the first event of the log the sprite shows what it showed before. -/
theorem Bubbles.early (later : ∀ event ∈ log, event.isBy time = false) :
    Bubbles id log time before before := by
  refine ⟨?_, ?_, fun _ => ⟨rfl, rfl⟩, fun bubble start told => ?_⟩
  · rintro bubble ⟨start, stop, told, begun, -⟩
    exact absurd (told.isBy later).1 (Nat.not_lt.mpr begun)
  · rintro - ⟨event, mem, -, happened⟩
    rw [later event mem] at happened
    cases happened
  · exact absurd (told.isBy later).2 (Nat.lt_irrefl _)

/-- A pose that is made known first changes nothing about bubbles. -/
theorem Bubbles.pose {pose : Pose} {moment : Duration}
    (h : Bubbles id log time (before.withPose pose) seen) :
    Bubbles id (.poseCommitted id pose moment :: log) time before seen := by
  obtain ⟨opened, closed, untouched, ended⟩ := h
  have quiet : (Event.poseCommitted id pose moment).shows id = false := rfl
  constructor
  case opened => simpa only [OpenAt, tellsOf_pose] using opened
  case closed => simpa [OpenAt, tellsOf_pose, quiet] using closed
  case untouched => simpa [quiet, Sprite.withPose] using untouched
  case ended => simpa [tellsOf_pose, quiet] using ended

/-- While its first bubble is open, the sprite shows this bubble. -/
theorem Bubbles.during {kind : BubbleKind} {text : String} {shown cleared asked : Duration}
    (begun : shown.nanos ≤ (Duration.ofMillis time).nanos)
    (lasts : (Duration.ofMillis time).nanos < cleared.nanos)
    (later : ∀ event ∈ log, event.isBy time = false) (shows : seen.Shows (some ⟨kind, text⟩)) :
    Bubbles id (.messageShown id kind text shown asked :: .messageCleared id cleared :: log) time
      before seen := by
  have first : OpenAt id (.messageShown id kind text shown asked :: .messageCleared id cleared :: log)
      time ⟨kind, text⟩ := ⟨shown, cleared, tellsOf_bubble.mpr (.inl ⟨rfl, rfl, rfl⟩), begun, lasts⟩
  refine ⟨?_, fun none => absurd first (none _), fun none => ?_, fun bubble start told => ?_⟩
  · rintro bubble ⟨start, stop, told, started, -⟩
    rcases tellsOf_bubble.mp told with ⟨rfl, -, -⟩ | told
    · exact shows
    · exact absurd (told.isBy later).1 (Nat.not_lt.mpr started)
  · have own := none _ List.mem_cons_self (decide_eq_true rfl)
    exact absurd begun (of_decide_eq_false own)
  · rcases tellsOf_bubble.mp told with ⟨-, -, rfl⟩ | told
    · exact absurd lasts (Nat.lt_irrefl _)
    · exact absurd (told.isBy later).2 (Nat.lt_irrefl _)

/-- Once its first bubble is gone, the sprite is as if it had shown nothing before. -/
theorem Bubbles.after {kind : BubbleKind} {text : String} {shown cleared asked : Duration}
    (begun : shown.nanos ≤ cleared.nanos) (gone : cleared.nanos ≤ (Duration.ofMillis time).nanos)
    (later : ∀ event ∈ log, cleared.nanos ≤ event.time.nanos)
    (h : Bubbles id log time (before.withBubble none) seen) :
    Bubbles id (.messageShown id kind text shown asked :: .messageCleared id cleared :: log) time
      before seen := by
  have still : ∀ bubble, OpenAt id (.messageShown id kind text shown asked ::
      .messageCleared id cleared :: log) time bubble ↔ OpenAt id log time bubble := by
    refine fun bubble => exists_congr fun start => exists_congr fun stop => and_congr_left ?_
    rintro ⟨-, lasts⟩
    rw [tellsOf_bubble]
    refine or_iff_right ?_
    rintro ⟨-, -, rfl⟩
    exact absurd gone (Nat.not_le.mpr lasts)
  have nothing : (∀ bubble, ¬ OpenAt id log time bubble) → seen.Shows none := by
    intro none
    by_cases some : ∃ event ∈ log, event.shows id = true ∧ event.isBy time = true
    · exact h.closed none some
    · have ⟨text, kind⟩ := h.untouched fun event mem shows =>
        Bool.eq_false_iff.mpr fun happened => some ⟨event, mem, shows, happened⟩
      exact ⟨text, kind⟩
  refine ⟨fun bubble seenOpen => h.opened bubble ((still bubble).mp seenOpen), fun none _ => ?_,
    fun none => ?_, fun bubble start told none => ?_⟩
  · exact nothing fun bubble seenOpen => none bubble ((still bubble).mpr seenOpen)
  · have own := none _ List.mem_cons_self (decide_eq_true rfl)
    exact absurd (Nat.le_trans begun gone) (of_decide_eq_false own)
  · have others : ∀ event ∈ log, event.shows id = true → event.time ≠ .ofMillis time := fun event mem =>
      none event (List.mem_cons_of_mem _ (List.mem_cons_of_mem _ mem))
    rcases tellsOf_bubble.mp told with ⟨-, -, rfl⟩ | told
    · -- another bubble that is open just now would have begun just now
      refine nothing ?_
      rintro other ⟨start, stop, ⟨asked, told⟩, started, -⟩
      have mem := told.subset List.mem_cons_self
      have now : start.nanos = (Duration.ofMillis time).nanos :=
        Nat.le_antisymm started (later _ mem)
      exact others _ mem (decide_eq_true rfl) (congrArg Duration.mk now)
    · exact h.ended bubble start told others

end

/-! ## Logs in units -/

/-- A sprite that is as the log tells up to some time shows what the log says about bubbles. -/
def Reflects (id : SpriteId) (time : Nat) (home : Position) (log : List Event) : Prop :=
  ∀ sprite : Sprite, sprite.id = id →
    Bubbles id log time sprite ((log.filter (Event.isBy time)).foldl (Sprite.told home) sprite)

section

variable {id : SpriteId} {time : Nat} {home : Position} {event : Event} {log : List Event}

theorem isBy_of_first (not : event.isBy time = false) (ordered : Ordered (event :: log)) :
    ∀ other ∈ event :: log, other.isBy time = false := by
  obtain ⟨least, -⟩ := List.pairwise_cons.mp ordered
  intro other mem
  rcases List.mem_cons.mp mem with rfl | mem
  · exact not
  · have late := Nat.lt_of_not_le (of_decide_eq_false not)
    exact decide_eq_false (Nat.not_le.mpr (Nat.lt_of_lt_of_le late (least other mem)))

/-- Nothing is told yet by a log whose first event is still to come. -/
theorem reflects_of_first (not : event.isBy time = false) (ordered : Ordered (event :: log)) :
    Reflects id time home (event :: log) := by
  intro sprite _
  have later := isBy_of_first not ordered
  rw [List.filter_eq_nil_iff.mpr fun other mem => Bool.eq_false_iff.mp (later other mem)]
  exact .early later

theorem Reflects.pose (h : Reflects id time home log) (pose : Pose) {moment : Duration}
    (ordered : Ordered (.poseCommitted id pose moment :: log)) :
    Reflects id time home (.poseCommitted id pose moment :: log) := by
  by_cases happened : (Event.poseCommitted id pose moment).isBy time = true
  · intro sprite own
    rw [List.filter_cons_of_pos happened, List.foldl_cons, Sprite.told, if_pos own]
    exact (h (sprite.withPose pose) own).pose
  · exact reflects_of_first (Bool.eq_false_iff.mpr happened) ordered

theorem Reflects.bubble (h : Reflects id time home log) (kind : BubbleKind) (text : String)
    {shown cleared asked : Duration}
    (ordered : Ordered (.messageShown id kind text shown asked :: .messageCleared id cleared :: log)) :
    Reflects id time home
      (.messageShown id kind text shown asked :: .messageCleared id cleared :: log) := by
  obtain ⟨least, rest⟩ := List.pairwise_cons.mp ordered
  by_cases begun : (Event.messageShown id kind text shown asked).isBy time = true
  · intro sprite own
    by_cases gone : (Event.messageCleared id cleared).isBy time = true
    · have ownShown : (sprite.withBubble (some ⟨kind, text⟩)).id = id := own
      rw [List.filter_cons_of_pos begun, List.filter_cons_of_pos gone, List.foldl_cons,
        List.foldl_cons, Sprite.told, if_pos own, Sprite.told, if_pos ownShown]
      have before : shown.nanos ≤ cleared.nanos := least _ List.mem_cons_self
      have after := h ((sprite.withBubble (some ⟨kind, text⟩)).withBubble none) own
      exact after.after before (of_decide_eq_true gone) (List.pairwise_cons.mp rest).1
    · have later := isBy_of_first (Bool.eq_false_iff.mpr gone) rest
      rw [List.filter_cons_of_pos begun,
        List.filter_eq_nil_iff.mpr fun other mem => Bool.eq_false_iff.mp (later other mem),
        List.foldl_cons, Sprite.told, if_pos own]
      exact .during (of_decide_eq_true begun)
        (Nat.lt_of_not_le (of_decide_eq_false (Bool.eq_false_iff.mpr gone)))
        (fun other mem => later other (List.mem_cons_of_mem _ mem)) (sprite.shows_withBubble _)
  · exact reflects_of_first (Bool.eq_false_iff.mpr begun) ordered

/-- A log in units says what its sprite shows at any time. -/
theorem Units.reflects (units : Units id log) (ordered : Ordered log) (time : Nat) (home : Position) :
    Reflects id time home log := by
  induction units with
  | nil => exact fun _ _ => .early (List.forall_mem_nil _)
  | pose pose moment _ ih => exact (ih (List.pairwise_cons.mp ordered).2).pose pose ordered
  | bubble kind text duration pose _ _ ih =>
    have fromCleared := (List.pairwise_cons.mp ordered).2
    have fromPose := (List.pairwise_cons.mp fromCleared).2
    have rest := ih (List.pairwise_cons.mp fromPose).2
    exact (rest.pose pose fromPose).bubble kind text ordered

end

end SpriteStage
