import PokerRoom.Domain.Ledger.HandLedger

/-!
# The timeline of a hand

`build_hand_timeline` of `domain/ledger/hand_history.py`: the entries of a ledger are filed under
the streets, the payouts and the corrections of the hand.  A new street begins where the ledger
holds a marker.

`buildHandTimeline_streets` says which streets a timeline has, `buildHandTimeline_files` under which
of them an action is filed.
-/

namespace PokerRoom

/-! ## Definitions -/

/-- A filed action. -/
structure ActionEntry where
  /-- The ledger entry. -/
  entryId : String
  /-- The player who acted, if any. -/
  playerId : Option String
  /-- Kind of the entry. -/
  actionType : LedgerEntryType
  /-- The chips it moved. -/
  amount : Int
  /-- The pot after it. -/
  potRunningTotal : Int
deriving DecidableEq, Repr

/-- The actions of one street. -/
structure StreetSummary where
  /-- Name of the street. -/
  street : String
  /-- Its actions. -/
  actions : List ActionEntry := []
  /-- The pot when it began. -/
  potAtStart : Int := 0
  /-- The pot when it ended. -/
  potAtEnd : Int := 0
deriving DecidableEq, Repr

/-- A filed payout. -/
structure PayoutEntry where
  /-- The ledger entry. -/
  entryId : String
  /-- The winner. -/
  playerId : String
  /-- The chips awarded. -/
  amount : Int
deriving DecidableEq, Repr

/-- A filed correction. -/
structure CorrectionEntry where
  /-- The ledger entry. -/
  entryId : String
  /-- Kind of the correction. -/
  correctionType : LedgerEntryType
  /-- The player it is about, if any. -/
  playerId : Option String
  /-- The chips it is about, if any. -/
  amount : Option Int
  /-- The corrected entry, if any. -/
  originalEntryId : Option String
  /-- Further data. -/
  detail : Option LedgerDetail
deriving DecidableEq, Repr

/-- The timeline of a hand. -/
structure HandTimeline where
  /-- Identifier of the round. -/
  roundId : String := ""
  /-- The streets. -/
  streets : List StreetSummary := []
  /-- The payouts. -/
  payouts : List PayoutEntry := []
  /-- The corrections. -/
  corrections : List CorrectionEntry := []
  /-- The hand is completed. -/
  isCompleted : Bool := false
  /-- The hand was reopened. -/
  isReopened : Bool := false
  /-- Number of entries. -/
  totalEntries : ℕ := 0
deriving DecidableEq, Repr

/-- A timeline being built, with the street that is still open and the pot. -/
structure OpenTimeline where
  /-- What is filed so far, the open street aside. -/
  timeline : HandTimeline
  /-- The open street. -/
  currentStreet : StreetSummary := { street := "PRE_FLOP" }
  /-- Chips in the pot. -/
  pot : Int := 0

/-- The name of the street a marker begins. -/
def LedgerRow.newStreetName (e : LedgerRow) : String :=
  match e.detail with
  | some detail => detail.street.getD "UNKNOWN"
  | none => "UNKNOWN"

/-- The correction of a ledger entry. -/
def LedgerRow.correction (e : LedgerRow) : CorrectionEntry :=
  { entryId := e.entryId
    correctionType := e.entryType
    playerId := e.playerId
    amount := e.amount
    originalEntryId := e.originalEntryId
    detail := e.detail }

/-- The streets filed so far, the open one last. -/
def OpenTimeline.streets (t : OpenTimeline) : List StreetSummary :=
  t.timeline.streets ++ [{ t.currentStreet with potAtEnd := t.pot }]

/-- File one ledger entry. -/
def OpenTimeline.file (t : OpenTimeline) (e : LedgerRow) : OpenTimeline :=
  let amt := e.amount.getD 0
  match e.entryType with
  | .streetDealt =>
    { t with
      timeline := { t.timeline with streets := t.streets }
      currentStreet := { street := e.newStreetName, potAtStart := t.pot } }
  | .blindPosted | .antePosted | .betPlaced =>
    let pot := t.pot + amt
    { t with
      currentStreet := { t.currentStreet with
        actions := t.currentStreet.actions ++
          [{ entryId := e.entryId
             playerId := e.playerId
             actionType := e.entryType
             amount := amt
             potRunningTotal := pot }] }
      pot := pot }
  | .payoutAwarded =>
    match truthy e.playerId with
    | some playerId =>
      { t with
        timeline := { t.timeline with
          payouts := t.timeline.payouts ++ [⟨e.entryId, playerId, amt⟩] } }
    | none => t
  | .roundCompleted => { t with timeline := { t.timeline with isCompleted := true } }
  | .actionReversed =>
    { t with
      timeline := { t.timeline with corrections := t.timeline.corrections ++ [e.correction] }
      pot := t.pot - amt }
  | .handReopened =>
    { t with
      timeline := { t.timeline with
        isReopened := true
        isCompleted := false
        corrections := t.timeline.corrections ++ [e.correction] } }
  | .stackAdjusted | .payoutCorrected =>
    { t with timeline := { t.timeline with corrections := t.timeline.corrections ++
      [e.correction] } }
  | .unknown _ _ => t

/-- Build the timeline of a hand from its ledger. -/
def buildHandTimeline (roundId : String) (entries : List LedgerRow) : HandTimeline :=
  let t := entries.foldl OpenTimeline.file
    { timeline := { roundId := roundId, totalEntries := entries.length } }
  { t.timeline with streets := t.streets }

/-- The entry is an action: a blind, an ante or a bet. -/
def LedgerRow.IsAction (e : LedgerRow) : Prop :=
  e.entryType = .blindPosted ∨ e.entryType = .antePosted ∨ e.entryType = .betPlaced

/-- The entry is filed as this action. -/
def ActionEntry.Records (a : ActionEntry) (e : LedgerRow) : Prop :=
  a.entryId = e.entryId ∧ a.playerId = e.playerId ∧ a.actionType = e.entryType ∧
    a.amount = e.amount.getD 0

/-- The markers of a ledger. -/
def streetMarkers (entries : List LedgerRow) : List LedgerRow :=
  entries.filter fun e => e.entryType = .streetDealt

variable {t : OpenTimeline} {e : LedgerRow} {k : ℕ}

/-! ## The streets of a timeline -/

/-- Filing an entry begins a street where it is a marker, and keeps the names of the others. -/
lemma file_streets_map (t : OpenTimeline) (e : LedgerRow) :
    (t.file e).streets.map (·.street) =
      t.streets.map (·.street) ++ (streetMarkers [e]).map (·.newStreetName) := by
  unfold OpenTimeline.file OpenTimeline.streets streetMarkers
  cases hk : e.entryType with
  | payoutAwarded =>
    cases truthy e.playerId with
    | some playerId => simp [hk]
    | none => simp [hk]
  | streetDealt | blindPosted | antePosted | betPlaced | roundCompleted | actionReversed
    | stackAdjusted | handReopened | payoutCorrected | unknown => simp [hk]

/-- Filing entries begins the streets of their markers. -/
lemma foldl_file_streets_map (t : OpenTimeline) (entries : List LedgerRow) :
    (entries.foldl OpenTimeline.file t).streets.map (·.street) =
      t.streets.map (·.street) ++ (streetMarkers entries).map (·.newStreetName) := by
  induction entries generalizing t with
  | nil => simp [streetMarkers]
  | cons e es ih =>
    have hsplit : streetMarkers (e :: es) = streetMarkers [e] ++ streetMarkers es := by
      rw [streetMarkers, ← List.singleton_append, List.filter_append]
      rfl
    rw [List.foldl_cons, ih, file_streets_map, hsplit, List.map_append, List.append_assoc]

/-- **The streets of a timeline.**  These are `PRE_FLOP` and the streets named by the markers. -/
theorem buildHandTimeline_streets (roundId : String) (entries : List LedgerRow) :
    (buildHandTimeline roundId entries).streets.map (·.street) =
      "PRE_FLOP" :: (streetMarkers entries).map (·.newStreetName) :=
  foldl_file_streets_map _ entries

/-! ## Where an action is filed -/

/-- The street of the given index holds the action of an entry. -/
def OpenTimeline.Files (t : OpenTimeline) (k : ℕ) (e : LedgerRow) : Prop :=
  ∃ s, t.streets[k]? = some s ∧ ∃ a ∈ s.actions, a.Records e

/-- An action is filed under the open street. -/
lemma files_file (haction : e.IsAction) : (t.file e).Files t.timeline.streets.length e := by
  unfold OpenTimeline.Files OpenTimeline.file OpenTimeline.streets
  rcases haction with hk | hk | hk <;> rw [hk] <;>
    exact ⟨_, List.getElem?_concat_length, _, List.mem_append_right _ List.mem_cons_self,
      rfl, rfl, hk.symm, rfl⟩

/-- What is filed under a street stays there while the streets before the open one stay and the open
one only grows. -/
lemma OpenTimeline.Files.grow {t' : OpenTimeline} (h : t.Files k e)
    (hstreets : t'.timeline.streets = t.timeline.streets)
    (hactions : t.currentStreet.actions ⊆ t'.currentStreet.actions) : t'.Files k e := by
  obtain ⟨s, hs, a, ha, hrec⟩ := h
  unfold OpenTimeline.Files OpenTimeline.streets at *
  rw [hstreets]
  by_cases hk : k < t.timeline.streets.length
  · rw [List.getElem?_append_left hk] at hs ⊢
    exact ⟨s, hs, a, ha, hrec⟩
  · rw [List.getElem?_append_right (not_lt.mp hk), List.getElem?_singleton] at hs ⊢
    split at hs
    · next hzero =>
      rw [if_pos hzero]
      obtain rfl := Option.some.inj hs
      exact ⟨_, rfl, a, hactions ha, hrec⟩
    · cases hs

/-- Filing an entry leaves the filed actions where they are. -/
lemma OpenTimeline.Files.file (h : t.Files k e) (e' : LedgerRow) : (t.file e').Files k e := by
  unfold OpenTimeline.file
  cases hk : e'.entryType with
  | streetDealt =>
    obtain ⟨s, hs, hrec⟩ := h
    refine ⟨s, ?_, hrec⟩
    have hlt := (List.getElem?_eq_some_iff.mp hs).1
    rw [OpenTimeline.streets, List.getElem?_append_left hlt]
    exact hs
  | blindPosted | antePosted | betPlaced => exact h.grow rfl (List.subset_append_left _ _)
  | payoutAwarded =>
    dsimp only
    cases truthy e'.playerId with
    | some playerId => exact h.grow rfl (List.Subset.refl _)
    | none => exact h
  | roundCompleted | actionReversed | stackAdjusted | handReopened | payoutCorrected | unknown =>
    exact h.grow rfl (List.Subset.refl _)

/-- Filing entries leaves the filed actions where they are. -/
lemma OpenTimeline.Files.foldl (h : t.Files k e) (entries : List LedgerRow) :
    (entries.foldl OpenTimeline.file t).Files k e := by
  induction entries generalizing t with
  | nil => exact h
  | cons e' es ih => exact ih (h.file e')

/-- **Where an action is filed.** An action is filed under the street that as many markers precede
as streets. -/
theorem buildHandTimeline_files (roundId : String) (pre post : List LedgerRow)
    (haction : e.IsAction) :
    ∃ s, (buildHandTimeline roundId (pre ++ e :: post)).streets[(streetMarkers pre).length]? =
      some s ∧
      ∃ a ∈ s.actions, a.Records e := by
  set t₀ : OpenTimeline :=
    { timeline := { roundId := roundId, totalEntries := (pre ++ e :: post).length } }
  have hlength : (pre.foldl OpenTimeline.file t₀).timeline.streets.length =
      (streetMarkers pre).length := by
    have hmap := congrArg List.length (foldl_file_streets_map t₀ pre)
    simpa [OpenTimeline.streets, t₀] using hmap
  have hfiles : ((pre ++ e :: post).foldl OpenTimeline.file t₀).Files
      (streetMarkers pre).length e := by
    rw [List.foldl_append, List.foldl_cons, ← hlength]
    exact (files_file haction).foldl post
  exact hfiles

end PokerRoom
