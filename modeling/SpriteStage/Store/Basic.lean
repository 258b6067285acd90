import SpriteStage.Fault

/-! # The sprites of a stage

The sprites stand in the order of their arrival, the roster. An id is given out once.

* `Store` — the sprites
* `add`, `remove`, `drag`, `setAngle` — what a user does; an unknown id is refused
* `commitPose`, `setBubble`, `publish` — what a performance does; an unknown id is passed over
* `Snapshot` — the positions at one moment
-/

namespace SpriteStage

set_option autoImplicit false

/-! ## Snapshots -/

/-- The positions of some sprites, each of which occurs once. -/
structure Snapshot where
  positions : List (SpriteId × Position)
deriving DecidableEq

namespace Snapshot

def empty : Snapshot :=
  ⟨[]⟩

def position? (snapshot : Snapshot) (id : SpriteId) : Option Position :=
  snapshot.positions.lookup id

/-- Puts down the position of a sprite, in place of the one that was there. -/
def insert (snapshot : Snapshot) (id : SpriteId) (position : Position) : Snapshot :=
  if (snapshot.position? id).isSome then
    ⟨snapshot.positions.map fun entry => if entry.1 = id then (id, position) else entry⟩
  else ⟨snapshot.positions ++ [(id, position)]⟩

/-- Of several positions of one sprite the last counts. -/
def ofList (entries : List (SpriteId × Position)) : Snapshot :=
  entries.foldl (fun snapshot entry => snapshot.insert entry.1 entry.2) empty

def size (snapshot : Snapshot) : Nat :=
  snapshot.positions.length

def isEmpty (snapshot : Snapshot) : Bool :=
  snapshot.positions.isEmpty

end Snapshot

/-! ## Stores -/

/-- The sprites of a stage in the order of the roster, and the last id given out. -/
structure Store where
  issued : UInt64
  sprites : List Sprite
deriving DecidableEq

namespace Store

def empty : Store :=
  ⟨0, []⟩

/-! ### Looking -/

def find? (store : Store) (id : SpriteId) : Option Sprite :=
  store.sprites.find? fun sprite => sprite.id == id

def get (store : Store) (id : SpriteId) : Except Fault Sprite :=
  match store.find? id with
  | some sprite => .ok sprite
  | none => .error (.spriteNotFound id)

def contains (store : Store) (id : SpriteId) : Bool :=
  (store.find? id).isSome

def ids (store : Store) : List SpriteId :=
  store.sprites.map Sprite.id

def size (store : Store) : Nat :=
  store.sprites.length

def isEmpty (store : Store) : Bool :=
  store.sprites.isEmpty

/-- Where every sprite is. -/
def snapshot (store : Store) : Snapshot :=
  .ofList (store.sprites.map fun sprite => (sprite.id, sprite.position))

/-! ### Coming and going -/

/-- A new sprite at the end of the roster, with the next id. -/
def add (store : Store) (name : String) (position : Position) : SpriteId × Store :=
  let id : SpriteId := ⟨store.issued + 1⟩
  (id, ⟨store.issued + 1, store.sprites ++ [.fresh id name position]⟩)

def remove (store : Store) (id : SpriteId) : Except Fault (Sprite × Store) :=
  match store.find? id with
  | some sprite => .ok (sprite, { store with sprites := store.sprites.filter fun s => s.id ≠ id })
  | none => .error (.spriteNotFound id)

/-! ### Changes to one sprite -/

/-- Changes the sprite with the given id, if there is one. -/
def modify (store : Store) (id : SpriteId) (change : Sprite → Sprite) : Store :=
  { store with sprites := store.sprites.map fun s => if s.id = id then change s else s }

def update (store : Store) (id : SpriteId) (change : Sprite → Sprite) : Except Fault Store :=
  if store.contains id then .ok (store.modify id change) else .error (.spriteNotFound id)

def drag (store : Store) (id : SpriteId) (position : Position) : Except Fault Store :=
  store.update id fun sprite => sprite.withPosition position

def setAngle (store : Store) (id : SpriteId) (angle : Float) : Except Fault Store :=
  store.update id fun sprite => sprite.withAngle angle

/-- Makes a pose known, unless the sprite has gone. -/
def commitPose (store : Store) (id : SpriteId) (pose : Pose) : Store :=
  store.modify id fun sprite => sprite.withPose pose

/-- Shows a bubble or takes it away, unless the sprite has gone. -/
def setBubble (store : Store) (id : SpriteId) (bubble : Option Bubble) : Store :=
  store.modify id fun sprite => sprite.withBubble bubble

/-- Makes several poses known, one after the other. -/
def publish (store : Store) (poses : List (SpriteId × Pose)) : Store :=
  poses.foldl (fun store entry => store.commitPose entry.1 entry.2) store

end Store

end SpriteStage
