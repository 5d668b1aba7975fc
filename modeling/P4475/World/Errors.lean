import P4475.MyRoom.Projection
import P4475.World.Wire

/-!
# Errors of the world

One constructor for each variant that a modelled function returns. A variant that
wraps the error of a serializer carries its text. `WorldOperationError.panicked`
is not a Rust value: it stands for an `expect` of the source that did not hold.
-/

namespace P4475

inductive LobbyError
  | worldQuiescing
  | notInRoom
  | notLobby (actual : RoomPhase)
  | humanRacerRequired
  | observerStateServerOwned
  | preparingStateServerOwned
  | notRoomMaster
  | invalidMasterTarget (nickname : Text)
  | invalidKickTarget (playerId : Int)
  | teamModeRequired
  | teamFull (team : RoomTeam)
  | noRacers
  | aiParticipantsUnsupported
  | racerNotReady (userNo : Nat)
  | raceEpochExhausted
  | missingTrackCandidates
  | inactiveRosterMember (userNo : Nat)
  | rewardLaneOccupied (userNo roomId raceEpoch : Nat)
  | outboundUnavailable (session : SessionId)
  | protocol (error : Text)
  | panicked (message : String)
  deriving DecidableEq

inductive RaceError
  | notInRoom
  | wrongPhase (actual : RoomPhase)
  | notFrozenParticipant
  | unsupportedGameControlState (state : Int)
  | notRunning (actual : RoomPhase)
  | humanRacerRequired
  | noFrozenAiParticipant (playerId : Int)
  | invalidFrozenTeam (team : Nat)
  | outboundUnavailable (session : SessionId)
  | raceDeadlineOverflow
  | settlementDeadlineOverflow
  | settlementClosed
  | pendingRaceFanoutFull
  | invalidSettlementRoster (racers : Nat)
  | rewardSampling (playerId : Int)
  | rewardsNotDurable
  | settlementInvariant (detail : String)
  | protocol (error : Text)
  | panicked (message : String)
  deriving DecidableEq

/-- Failures that stop the actor. -/
inductive MyRoomLifecycleError
  | hub (operation : String) (source : MyRoom.MyRoomHubError)
  | commit (error : MyRoom.MyRoomCommitError)
  | wireProjection (error : MyRoom.MyRoomWireProjectionError)
  | serialization (error : Text)
  | audienceIdentityMismatch (userNo : UserNo)
  | outboundUnavailable (session : SessionId)
  | shutdownStateRetained
  | panicked (message : String)
  deriving DecidableEq

inductive RoomError
  | notFound (room : Nat)
  | full (room : Nat)
  | alreadyJoined (identity : Text)
  | notJoined (identity : Text)
  deriving DecidableEq

inductive WorldError
  | identity (error : IdentityError)
  | lobby (error : LobbyError)
  | race (error : RaceError)
  | room (error : RoomError)
  | roomProtocol (error : Text)
  | unknownSession (session : SessionId)
  | sessionRegistrationClosed
  | outboundProductionClosed
  | outboundProducerDrainRequiresQuiesce
  | sessionDrainRequiresQuiesce
  | identityOperationShutdownBlocked (active : Nat)
  | identityLimitReached (maximum : Nat)
  | myRoomProfileSubjectMismatch
  | myRoomEntryIdentityStale (session : SessionId)
  | myRoomEntrySelfInfoMismatch (session : SessionId) (expected actual : Bool)
  | myRoomEntrySelfInfoInvalid (session : SessionId) (source : MyRoom.MyRoomProtocolError)
  | myRoomRandomChoiceOutOfRange (index count : Nat)
  | myRoomWirePlanStale (session : SessionId)
  | myRoomOwnerItemPlanMismatch (session : SessionId)
  | myRoomCommandOutboundUnavailable (session : SessionId)
  | clientStageOutboundUnavailable (session : SessionId)
  | migrationAcknowledgementUnavailable (session : SessionId)
  | migrationPublicationUnavailable (session : SessionId)
  | migrationCommitCapacityUnavailable
  | protocolRoomTransitionInconsistent (userNo : Nat)
  | rewardSchedulerInvariant (roomId userNo : Nat)
  | rewardAttemptIdExhausted
  | rewardAttemptLeaseDeadlineOverflow
  | rewardAttemptLeaseFailuresExhausted
  | rewardRetryDeadlineOverflow
  | staleRewardDeadLetter
  | rewardDeadLetterNotRetryable (reason : RewardTerminalReason)
  | riderEquipmentAlreadyPending
  | unknownTicket
  deriving DecidableEq

inductive WorldOperationError
  | command (error : WorldError)
  | myroom (error : MyRoomLifecycleError)
  deriving DecidableEq

end P4475
