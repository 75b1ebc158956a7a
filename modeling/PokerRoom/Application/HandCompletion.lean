import PokerRoom.Domain.RoomConfig

/-!
# Counting completed hands

`application/hand_completion.py` with the blind clock of `domain/engine/table_runtime.py`: a counted
hand is recorded on the blind clock, which moves on to the next level when the time of the current
one is over.  Times are in microseconds.
-/

namespace PokerRoom

/-- The readings of the clock a command takes, in order. -/
abbrev Clock := ℕ → Int

/-- The clock of the blind levels. -/
structure BlindClock where
  /-- Number of the current level. -/
  currentLevel : Int
  /-- When the level started. -/
  levelStartedAt : Int
  /-- Hands played on the level. -/
  handsAtLevel : Int
deriving DecidableEq, Repr

/-- The time of the current level is over. -/
def BlindClock.shouldAdvance (clock : BlindClock) (secondsPerLevel : Option Int)
    (now : Int) : Bool :=
  match secondsPerLevel with
  | some seconds => decide (seconds * 1000000 ≤ now - clock.levelStartedAt)
  | none => false

/-- Move on to the next level. -/
def BlindClock.advance (clock : BlindClock) (now : Int) : BlindClock :=
  { currentLevel := clock.currentLevel + 1, levelStartedAt := now, handsAtLevel := 0 }

/-- Record a hand. -/
def BlindClock.recordHand (clock : BlindClock) : BlindClock :=
  { clock with handsAtLevel := clock.handsAtLevel + 1 }

/-- What the completion of a hand leaves. -/
structure HandCompletionResult where
  /-- Hands played. -/
  handsPlayed : Int
  /-- Hands played on the current level. -/
  handsAtCurrentLevel : Int
  /-- Number of the current level. -/
  currentBlindLevel : Int
  /-- When the level started. -/
  levelStartedAt : Int
  /-- The level has changed. -/
  blindLevelAdvanced : Bool
deriving DecidableEq, Repr

/-- The length of a blind level in seconds; a level of no minutes is not limited. -/
def BlindLevelConfig.seconds (bl : BlindLevelConfig) : Option Int :=
  (bl.durationMinutes.filter (· ≠ 0)).map (· * 60)

/-- Complete a hand. -/
def applyHandCompletion (game : Game) (roomConfig : RoomConfig) (shouldCountHand : Bool)
    (clock : Clock) : HandCompletionResult :=
  let blindClock : BlindClock :=
    ⟨game.currentBlindLevel, game.levelStartedAt, game.handsAtCurrentLevel⟩
  let counted := blindClock.recordHand
  let secondsPerLevel := (roomConfig.blindLevel game.currentBlindLevel).bind (·.seconds)
  let advanced := shouldCountHand && counted.shouldAdvance secondsPerLevel (clock 0) &&
    decide (game.currentBlindLevel < roomConfig.maxLevel)
  let final := if shouldCountHand then if advanced then counted.advance (clock 1) else counted
    else blindClock
  { handsPlayed := if shouldCountHand then game.handsPlayed + 1 else game.handsPlayed
    handsAtCurrentLevel := final.handsAtLevel
    currentBlindLevel := final.currentLevel
    levelStartedAt := final.levelStartedAt
    blindLevelAdvanced := advanced }

/-- Write what the completion of a hand leaves to the game. -/
def HandCompletionResult.write (completion : HandCompletionResult) (game : Game) : Game :=
  { game with
    handsPlayed := completion.handsPlayed
    handsAtCurrentLevel := completion.handsAtCurrentLevel
    currentBlindLevel := completion.currentBlindLevel
    levelStartedAt := completion.levelStartedAt }

end PokerRoom
