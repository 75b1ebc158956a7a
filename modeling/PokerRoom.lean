import PokerRoom.Foundation.Machine
import PokerRoom.Foundation.Transactions
import PokerRoom.Foundation.FirstCommit
import PokerRoom.Foundation.KeyedTable
import PokerRoom.Foundation.Clockwise
import PokerRoom.Foundation.WaterFilling
import PokerRoom.Domain.Models
import PokerRoom.Domain.Auth
import PokerRoom.Domain.Engine.BlindPosting
import PokerRoom.Domain.Engine.Validator
import PokerRoom.Domain.Engine.TurnEngine
import PokerRoom.Domain.Engine.ActionPipeline
import PokerRoom.Domain.Engine.PotLevels
import PokerRoom.Domain.Ledger.HandLedger
import PokerRoom.Domain.Ledger.Readers
import PokerRoom.Domain.Reporting.SettlementExplainer
import PokerRoom.Application.CorrectionCommands
import PokerRoom.Application.Transactions
import PokerRoom.Concurrency.Bets
import PokerRoom.Concurrency.StreetChange
import PokerRoom.Concurrency.OnceOnly
import PokerRoom.Hand.BettingRun
import PokerRoom.Hand.Chips
import PokerRoom.Hand.BettingState
import PokerRoom.Hand.Turn
import PokerRoom.Hand.Closure
import PokerRoom.Hand.NextActor
import PokerRoom.Hand.Representation
import PokerRoom.Hand.Termination
import PokerRoom.Application.GameQueries
import PokerRoom.Hand.LegalActions
import PokerRoom.Hand.Raises
import PokerRoom.Hand.PotQuery
import PokerRoom.Hand.StreetHistory
import PokerRoom.Hand.RoundRun
import PokerRoom.Hand.Versions
import PokerRoom.Hand.Retries
import PokerRoom.Hand.StreetEnd
import PokerRoom.Hand.Booking
import PokerRoom.Hand.LedgerAccount
import PokerRoom.Hand.Reversal
import PokerRoom.Hand.ReversedMovement
import PokerRoom.Hand.Settlement
import PokerRoom.Hand.Explanation
import PokerRoom.Hand.Uncontested
import PokerRoom.Hand.Resettlement
import PokerRoom.Hand.Consistency
import PokerRoom.Hand.PayoutRecords
import PokerRoom.Hand.Timeline
import PokerRoom.Domain.RoomConfig
import PokerRoom.Domain.Engine.Positions
import PokerRoom.Application.HandCompletion
import PokerRoom.Application.GameCommands
import PokerRoom.Game.GameRun
import PokerRoom.Game.ChipConservation
import PokerRoom.Game.Positions
import PokerRoom.Game.ActiveRound
import PokerRoom.Game.RoomGames
import PokerRoom.Game.Platform
import PokerRoom.Game.PlatformRun
import PokerRoom.Game.FailedStart
import PokerRoom.Game.FinishedRooms
import PokerRoom.Game.HandCount
import PokerRoom.Game.BlindLevels
import PokerRoom.Game.ButtonMoves
import PokerRoom.Game.LevelCounter
import PokerRoom.Game.StackCarryOver
import PokerRoom.Application.RoomCommands
import PokerRoom.Application.AuthCommands
import PokerRoom.Auth.Sessions
import PokerRoom.Auth.SingleUse
import PokerRoom.Application.AccountCommands
import PokerRoom.Auth.Accounts
import PokerRoom.Room.Rows
import PokerRoom.Room.Seating
import PokerRoom.Room.FreeSeats
import PokerRoom.Foundation.ObjectStore
import PokerRoom.Foundation.OwnedRows
import PokerRoom.Application.RoomDatabase
import PokerRoom.Room.RoomStore
import PokerRoom.Room.RoomCodes
import PokerRoom.Room.RoomEvents
import PokerRoom.Concurrency.Joins
import PokerRoom.Concurrency.TokenUse
import PokerRoom.Messaging.Outbox
import PokerRoom.Messaging.OutboxRun
import PokerRoom.Messaging.Consumer
import PokerRoom.Messaging.Redelivery
import PokerRoom.Gateway.TableStateFanout
import PokerRoom.Gateway.SnapshotOrder
import PokerRoom.Domain.ScenarioRunner
import PokerRoom.Game.ScenarioSetUp
import PokerRoom.Game.ScenarioVerdict
import PokerRoom.Game.Tournament
import PokerRoom.Concurrency.RoundStarts
import PokerRoom.Application.GameEvents
import PokerRoom.Foundation.Projection
import PokerRoom.Game.ReadModel
import PokerRoom.Gateway.Delivery
import PokerRoom.Gateway.Notices
import PokerRoom.Gateway.LiveTables
import PokerRoom.Hand.FullSettlement
import PokerRoom.Hand.PlayedOut
import PokerRoom.Hand.PlayedByRules
