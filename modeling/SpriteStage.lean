import SpriteStage.Block.ActionList
import SpriteStage.Block.Basic
import SpriteStage.Block.Edit
import SpriteStage.Block.Instance
import SpriteStage.Block.Kind
import SpriteStage.Block.Param
import SpriteStage.Bubble
import SpriteStage.Collision
import SpriteStage.CommandLine.Arguments
import SpriteStage.CommandLine.Printout
import SpriteStage.CommandLine.Run
import SpriteStage.Config
import SpriteStage.Event.Basic
import SpriteStage.Event.Json
import SpriteStage.Event.Log
import SpriteStage.Fault
import SpriteStage.Hero
import SpriteStage.Json.Bytes
import SpriteStage.Json.Printer
import SpriteStage.Json.Reader
import SpriteStage.Json.Record
import SpriteStage.Json.Token
import SpriteStage.Json.Value
import SpriteStage.Main
import SpriteStage.Number.Binary64
import SpriteStage.Number.Decimal
import SpriteStage.Number.Plain
import SpriteStage.Number.Scale
import SpriteStage.Performance.Ensemble
import SpriteStage.Performance.Performer
import SpriteStage.Performance.State
import SpriteStage.Performance.Step
import SpriteStage.RunId
import SpriteStage.Scene
import SpriteStage.Session
import SpriteStage.Sprite
import SpriteStage.Stage.Basic
import SpriteStage.Stage.Play
import SpriteStage.Stage.Request
import SpriteStage.Store.Basic
import SpriteStage.Store.Request
import SpriteStage.Text.Blank
import SpriteStage.Text.Digit
import SpriteStage.Text.Integer
import SpriteStage.Text.Printable
import SpriteStage.Text.Quoted
import SpriteStage.Time.Duration
import SpriteStage.Time.Timestamp
import SpriteStage.Version
import SpriteStage.Proofs.Performance.Trace
import SpriteStage.Proofs.Performance.Turns
import SpriteStage.Proofs.Performance.Ensemble
import SpriteStage.Proofs.Collision.Reconcile
import SpriteStage.Proofs.Performance.FinalPose
import SpriteStage.Proofs.Performance.Merge
import SpriteStage.Proofs.Performance.Solo
import SpriteStage.Proofs.Stage.Play
import SpriteStage.Proofs.Stage.SoloRuns
import SpriteStage.Proofs.Performance.Aspect
import SpriteStage.Proofs.Performance.Outline
import SpriteStage.Proofs.Store.Agreement
import SpriteStage.Proofs.Store.Sound
import SpriteStage.Proofs.Performance.Invariant
import SpriteStage.Proofs.Session.Visits
import SpriteStage.Proofs.Performance.Apart
import SpriteStage.Proofs.Stage.Visitors
import SpriteStage.Proofs.Collision.Pairs
import SpriteStage.Proofs.Stage.Overlaps
import SpriteStage.Proofs.Performance.Replay
import SpriteStage.Proofs.Store.Snapshot
import SpriteStage.Proofs.Collision.Posed
import SpriteStage.Proofs.Stage.Replay
import SpriteStage.Proofs.Performance.Finish
import SpriteStage.Proofs.Performance.Units
import SpriteStage.Proofs.Stage.Elapsed
import SpriteStage.Proofs.Stage.Protocol
import SpriteStage.Proofs.Hero.Act
import SpriteStage.Proofs.Hero.Course
import SpriteStage.Proofs.Store.Arena
import SpriteStage.Proofs.Store.History
import SpriteStage.Proofs.Session.View
import SpriteStage.Proofs.Performance.Alike
import SpriteStage.Proofs.Stage.Views
import SpriteStage.Proofs.Stage.Requests
import SpriteStage.Proofs.Stage.Programs
import SpriteStage.Proofs.CommandLine.Override
import SpriteStage.Proofs.Number.Exponent
import SpriteStage.Proofs.Number.Finite
import SpriteStage.Proofs.Json.Literals
import SpriteStage.Proofs.Json.Texts
import SpriteStage.Proofs.Json.Records
import SpriteStage.Proofs.Json.Blocks
import SpriteStage.Proofs.Json.Scenes
import SpriteStage.Proofs.Json.Events
import SpriteStage.Proofs.Json.RoundTrips
import SpriteStage.Proofs.Performance.Calls
import SpriteStage.Proofs.Performance.Score
import SpriteStage.Proofs.Collision.Recorded
import SpriteStage.Proofs.Collision.Rollback
import SpriteStage.Proofs.Hero.Refusal
import SpriteStage.Proofs.Hero.Approach
import SpriteStage.Proofs.Block.Parameters
import SpriteStage.Proofs.Block.Forms
import SpriteStage.Proofs.Block.Edits
import SpriteStage.Proofs.Store.Records
import SpriteStage.Proofs.Config.Saved
import SpriteStage.Proofs.Json.Fields
import SpriteStage.Proofs.Config.Partial
import SpriteStage.Proofs.Stage.Scenes
import SpriteStage.Proofs.Performance.Phrases
import SpriteStage.Proofs.Performance.StepByStep
import SpriteStage.Proofs.Session.Sights
import SpriteStage.Proofs.Performance.States
import SpriteStage.Proofs.Performance.Bubbles
import SpriteStage.Proofs.Performance.Observed
