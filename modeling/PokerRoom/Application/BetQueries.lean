import PokerRoom.Application.BetCommands
import PokerRoom.Foundation.KeyedTable

/-!
# Queries on the bets

`application/queries/bet_query_service.py` with `bet_repository.py`: the recorded bets of a round,
their sum, and what each player has bet.  `find?_playerSummaries` says what the summaries hold of a
player.
-/

namespace PokerRoom

open Foundation

/-! ## Definitions -/

/-- What a client is shown of the pot; the bets are shown as they are stored. -/
structure PotResponse where
  /-- Identifier of the round. -/
  roundId : String
  /-- The chips of all bets. -/
  totalPot : Int
  /-- The bets. -/
  bets : List Bet
deriving DecidableEq, Repr

/-- What a client is shown of the bets of a player. -/
structure PlayerBetSummary where
  /-- The player. -/
  playerId : String
  /-- The chips of his bets. -/
  totalBet : Int
  /-- His last action. -/
  lastAction : BetAction
  /-- He has folded. -/
  isFolded : Bool
deriving DecidableEq, Repr

/-- The bets of a round, in the order in which they were made. -/
def getBetsForRound (r : RoundTables) : List Bet := r.bets

/-- The sum of the bets of a round. -/
def getPotTotal (r : RoundTables) : Int := (r.bets.map (·.amount)).sum

/-- The pot of a round. -/
def getPot (r : RoundTables) : PotResponse :=
  { roundId := r.round.roundId
    totalPot := getPotTotal r
    bets := getBetsForRound r }

/-- Add a bet to what its player has bet. -/
def PlayerBetSummary.add (bet : Bet) (row : PlayerBetSummary) : PlayerBetSummary :=
  { row with
    totalBet := row.totalBet + bet.amount
    lastAction := bet.action
    isFolded := if bet.action = .fold then true else row.isFolded }

/-- What each player has bet, in the order of the first bets. -/
def playerSummaries (bets : List Bet) : List PlayerBetSummary :=
  bets.foldl (fun playerData bet =>
    upsert (·.playerId) bet.playerId
      { playerId := bet.playerId, totalBet := 0, lastAction := bet.action, isFolded := false }
      (·.add bet) playerData) []

/-- What each player has bet in a round. -/
def getPlayerSummaries (r : RoundTables) : List PlayerBetSummary :=
  playerSummaries (getBetsForRound r)

/-! ## Specification -/

/-- The bets of a player. -/
def betsBy (bets : List Bet) (playerId : String) : List Bet :=
  bets.filter fun b => b.playerId = playerId

/-- The chips a player has bet. -/
def betTotal (bets : List Bet) (playerId : String) : Int :=
  ((betsBy bets playerId).map (·.amount)).sum

/-- What the summary of a player says. -/
def summaryOf (bets : List Bet) (playerId : String) : Option PlayerBetSummary :=
  (betsBy bets playerId).getLast?.map fun last =>
    { playerId := playerId
      totalBet := betTotal bets playerId
      lastAction := last.action
      isFolded := (betsBy bets playerId).any fun b => b.action = .fold }

variable {bets : List Bet} {bet : Bet} {playerId : String}

/-- A further bet is one of its player's. -/
lemma betsBy_concat :
    betsBy (bets ++ [bet]) playerId =
      betsBy bets playerId ++ if bet.playerId = playerId then [bet] else [] := by
  rw [betsBy, List.filter_append, List.filter_cons, List.filter_nil]
  simp only [decide_eq_true_eq]
  rfl

/-- A further bet adds its chips to what its player has bet. -/
lemma betTotal_concat :
    betTotal (bets ++ [bet]) playerId =
      betTotal bets playerId + if bet.playerId = playerId then bet.amount else 0 := by
  rw [betTotal, betsBy_concat, List.map_append, List.sum_append]
  split <;> simp [betTotal]

/-- The summaries hold of a player who has bet the chips of his bets, the last of his actions, and
whether he has folded. -/
theorem find?_playerSummaries (bets : List Bet) (playerId : String) :
    (playerSummaries bets).find? (fun row => row.playerId = playerId) =
      summaryOf bets playerId := by
  induction bets using List.reverseRecOn with
  | nil => rfl
  | append_singleton bets bet ih =>
    have hkey : ∀ row : PlayerBetSummary, (row.add bet).playerId = row.playerId := fun _ => rfl
    have hlook := find?_upsert hkey (l := playerSummaries bets)
      (a :=
        { playerId := bet.playerId, totalBet := 0, lastAction := bet.action, isFolded := false })
      rfl playerId
    rw [playerSummaries, List.foldl_concat]
    refine hlook.trans ?_
    rw [summaryOf, betTotal_concat, betsBy_concat]
    by_cases hid : playerId = bet.playerId
    · subst hid
      rw [if_pos rfl, ih, summaryOf, if_pos rfl, if_pos rfl, List.getLast?_concat, Option.map_some]
      cases hlast : (betsBy bets bet.playerId).getLast? with
      | none =>
        rw [List.getLast?_eq_none_iff] at hlast
        simp [hlast, PlayerBetSummary.add, betTotal]
      | some last => simp [PlayerBetSummary.add, Bool.or_comm]
    · rw [if_neg hid, ih, if_neg (Ne.symm hid), if_neg (Ne.symm hid), add_zero, List.append_nil]
      rfl

/-- There is at most one summary of a player. -/
lemma playerSummaries_nodup (bets : List Bet) :
    ((playerSummaries bets).map (·.playerId)).Nodup := by
  induction bets using List.reverseRecOn with
  | nil => exact List.nodup_nil
  | append_singleton bets bet ih =>
    rw [playerSummaries, List.foldl_concat]
    exact nodup_upsert (f := PlayerBetSummary.add bet) (fun _ => rfl) rfl ih

/-- The summaries are those of the players who have bet. -/
lemma mem_playerSummaries_iff {row : PlayerBetSummary} :
    row ∈ playerSummaries bets ↔ summaryOf bets row.playerId = some row := by
  rw [← find?_playerSummaries, find?_key_eq_some_iff (playerSummaries_nodup bets)]
  exact (and_iff_left rfl).symm

/-- A summary shows the chips its player has bet. -/
lemma totalBet_of_mem {row : PlayerBetSummary} (hrow : row ∈ playerSummaries bets) :
    row.totalBet = betTotal bets row.playerId := by
  obtain ⟨last, -, heq⟩ := Option.map_eq_some_iff.mp (mem_playerSummaries_iff.mp hrow)
  exact (congrArg PlayerBetSummary.totalBet heq).symm

end PokerRoom
