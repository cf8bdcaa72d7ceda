import SpriteStage.Actor
import SpriteStage.Binary.Basic
import SpriteStage.Binary.Bits
import SpriteStage.Binary.Format
import SpriteStage.Block.Basic
import SpriteStage.Block.Editor
import SpriteStage.BubbleTimers
import SpriteStage.Cast
import SpriteStage.Cast.Operation
import SpriteStage.Clock
import SpriteStage.CommandLine
import SpriteStage.Contact.Box
import SpriteStage.Contact.Monitor
import SpriteStage.Contact.Pair
import SpriteStage.Costume
import SpriteStage.Decimal.Digits
import SpriteStage.Decimal.Literal
import SpriteStage.Decimal.Reading
import SpriteStage.Decimal.Shortest
import SpriteStage.Decimal.Text
import SpriteStage.Duration
import SpriteStage.FreshId
import SpriteStage.Json.Basic
import SpriteStage.Json.Decode
import SpriteStage.Json.Document
import SpriteStage.Json.Numeral
import SpriteStage.Json.Token
import SpriteStage.Log
import SpriteStage.Main
import SpriteStage.Playback
import SpriteStage.Playback.Frame
import SpriteStage.Pose
import SpriteStage.Program.Basic
import SpriteStage.Program.Events
import SpriteStage.Program.Flat
import SpriteStage.Proofs.ActorSteps
import SpriteStage.Proofs.ArmedScripts
import SpriteStage.Proofs.BatchedTicks
import SpriteStage.Proofs.BoundedDeadlines
import SpriteStage.Proofs.BoundedMagnitudes
import SpriteStage.Proofs.BubbleLifetimes
import SpriteStage.Proofs.BuiltSessions
import SpriteStage.Proofs.CastInvariants
import SpriteStage.Proofs.CastProjections
import SpriteStage.Proofs.CastUpdates
import SpriteStage.Proofs.ContactGraph
import SpriteStage.Proofs.Cutting
import SpriteStage.Proofs.Deadlines
import SpriteStage.Proofs.DecodedBlocks
import SpriteStage.Proofs.Detection
import SpriteStage.Proofs.EditorRecords
import SpriteStage.Proofs.EditsInFlight
import SpriteStage.Proofs.Encounters
import SpriteStage.Proofs.EqualCores
import SpriteStage.Proofs.ExactArithmetic
import SpriteStage.Proofs.Expansion
import SpriteStage.Proofs.FallibleResults
import SpriteStage.Proofs.FiniteBlocks
import SpriteStage.Proofs.FlatFixedPoints
import SpriteStage.Proofs.FoldedRuns
import SpriteStage.Proofs.FrameSpacing
import SpriteStage.Proofs.FreshSessions
import SpriteStage.Proofs.GreedySwaps
import SpriteStage.Proofs.HeadingResidues
import SpriteStage.Proofs.HotReload
import SpriteStage.Proofs.HushedSessions
import SpriteStage.Proofs.LingeringBubbles
import SpriteStage.Proofs.LoneSprites
import SpriteStage.Proofs.MoveSplitting
import SpriteStage.Proofs.NearestNumbers
import SpriteStage.Proofs.NextTick
import SpriteStage.Proofs.PayloadNumbers
import SpriteStage.Proofs.Places
import SpriteStage.Proofs.PlaybackParts
import SpriteStage.Proofs.RationalValue
import SpriteStage.Proofs.References
import SpriteStage.Proofs.RejectedOperations
import SpriteStage.Proofs.Reordering
import SpriteStage.Proofs.Replay
import SpriteStage.Proofs.Rounding
import SpriteStage.Proofs.SanePoses
import SpriteStage.Proofs.ScanCadence
import SpriteStage.Proofs.Scans
import SpriteStage.Proofs.ScriptExchange
import SpriteStage.Proofs.ScriptedClicks
import SpriteStage.Proofs.SelectedSprites
import SpriteStage.Proofs.SessionCore
import SpriteStage.Proofs.SessionInvariants
import SpriteStage.Proofs.SessionParts
import SpriteStage.Proofs.SharedPoints
import SpriteStage.Proofs.SwapSpacing
import SpriteStage.Proofs.SwapSymmetry
import SpriteStage.Proofs.TickAccounting
import SpriteStage.Proofs.ValidJson
import SpriteStage.Proofs.ValidScenes
import SpriteStage.Scene.Basic
import SpriteStage.Scene.File
import SpriteStage.Scene.Warnings
import SpriteStage.Session.Basic
import SpriteStage.Session.Operation
import SpriteStage.Session.Writes
import SpriteStage.Settings
import SpriteStage.Sprite
import SpriteStage.Table
import SpriteStage.Text.Blank
import SpriteStage.Text.Shown
import SpriteStage.Text.Terminal
import SpriteStage.Text.Visible
import SpriteStage.Trigger
import SpriteStage.Trigonometry
