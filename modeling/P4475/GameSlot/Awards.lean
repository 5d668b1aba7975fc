import P4475.GameSlot.Acceptance

/-!
# Awards are no requests

An award is a pickup request with its item and status replaced, so a client that sends one back
sends all that a request has but its status. The parser drops it for that.
-/

namespace P4475.GameSlot

open Lib
open MyRoom (checkedAdd)

variable {packet : Bytes} {packetType playerId : Nat}

/-! ## Steps that succeed -/

theorem readU32_eq {offset value : Nat} {context : String} (hoffset : offset ≤ 1024)
    (h : u32At packet offset = some value) : readU32 packet offset context = .ok value := by
  have hadd : checkedAdd offset 4 = some (offset + 4) := by
    unfold checkedAdd usizeMax u64Max
    exact if_pos (by omega)
  have hnumber : numberAt packet ⟨offset, 4⟩ = some value := h
  unfold readU32 readArray
  rw [hadd, hnumber]

theorem index_eq {offset value : Nat} (h : byte packet offset = some value) :
    index packet offset = .ok value := by
  unfold index
  rw [h]

theorem require_eq {c : Prop} [Decidable c] {reason : GameSlotDropReason} (h : c) :
    require c reason = .ok () := check_eq_ok.mpr h

/-! ## The envelope of a pickup -/

/-- All that the parser checks of a pickup before the state of its request. -/
structure PickupEnvelope (packet : Bytes) (packetType playerId : Nat) : Prop where
  length_eq : packet.length = 73
  hash : u32At packet 0 = some gameSlotPacketHash
  player : u32At packet 4 = some playerId
  player_le : playerId ≤ maxGameSlotPlayerId
  mask : u32At packet 8 = some u32Max
  type_eq : byte packet 12 = some packetType
  type_mem : packetType = 1 ∨ packetType = 2
  declared : u32At packet 45 = some pickupBlobLength
  operation : u32At packet 49 = some gopCubeHash
  base : u32At packet 53 = some goItemCubeHash

theorem playerIdOf_small (h : playerId ≤ maxGameSlotPlayerId) :
    playerIdOf (signedOf 4 playerId) = some playerId := by
  unfold maxGameSlotPlayerId at h
  have hsigned : signedOf 4 playerId = playerId := by
    unfold signedOf
    exact if_pos (by omega)
  unfold playerIdOf maxGameSlotPlayerId
  rw [hsigned, if_pos ⟨Int.natCast_nonneg _, by omega⟩, Int.toNat_natCast]

namespace PickupEnvelope

theorem length_le (h : PickupEnvelope packet packetType playerId) :
    packet.length ≤ maxGameSlotLogicalLength := by
  rw [h.length_eq]
  decide

theorem readPlayer (h : PickupEnvelope packet packetType playerId) (context : String) :
    readI32 packet 4 context = .ok (signedOf 4 playerId) := by
  have hread : readU32 packet 4 context = .ok playerId := readU32_eq (by decide) h.player
  unfold readU32 at hread
  unfold readI32
  rw [hread]
  rfl

theorem blob (h : PickupEnvelope packet packetType playerId) :
    validateBlob packet packetType 49 pickupBlobLength = .ok ⟨49, pickupBlobLength⟩ := by
  unfold validateBlob
  rw [h.length_eq]
  rfl

/-- In this envelope a status of 1 is dropped. -/
theorem token_drops (h : PickupEnvelope packet packetType playerId) {itemId : Nat}
    (hstatus : byte packet 40 = some 1) (hitem : u32At packet 41 = some itemId) :
    parseItemPickupToken packet packetType playerId =
      .error (.drop (.invalidPickupRequestState packetType 1 itemId)) := by
  unfold parseItemPickupToken
  rw [index_eq hstatus, ok_bind, readU32_eq (by decide) hitem, ok_bind]
  have hrefuse {c : Prop} [Decidable c] (hc : ¬ c) (reason : GameSlotDropReason) :
      require c reason = .error (.drop reason) := if_neg hc
  rw [hrefuse, error_bind]
  rcases h.type_mem with rfl | rfl
  · rw [if_pos rfl]
    intro hstate
    exact absurd hstate.1 (by decide)
  · rw [if_neg (by decide)]
    intro hstate
    exact absurd hstate.1 (by decide)

theorem minimum_le (h : PickupEnvelope packet packetType playerId) (context : String)
    {minimum : Nat} (hle : minimum ≤ 73) : ensureMinimum packet context minimum = .ok () := by
  refine check_eq_ok.mpr ?_
  rw [h.length_eq]
  exact hle

theorem body_drops (h : PickupEnvelope packet packetType playerId) {itemId : Nat}
    (hstatus : byte packet 40 = some 1) (hitem : u32At packet 41 = some itemId) :
    parseBody packet packetType playerId u32Max =
      .error (.drop (.invalidPickupRequestState packetType 1 itemId)) := by
  have hbody : parseBody packet packetType playerId u32Max =
      parseItemPickup packet packetType playerId u32Max := by
    rcases h.type_mem with rfl | rfl <;> rfl
  have hmask : validateMask packetType u32Max 0 .allBitsSet = .ok () := rfl
  rw [hbody, parseItemPickup, h.minimum_le _ (by decide), ok_bind, hmask, ok_bind,
    readU32_eq (by decide) h.declared, ok_bind, h.blob, ok_bind, require_eq rfl, ok_bind,
    readU32_eq (by decide) h.operation, ok_bind, readU32_eq (by decide) h.base, ok_bind,
    require_eq ⟨rfl, rfl⟩, ok_bind, h.token_drops hstatus hitem]
  rfl

theorem drops (h : PickupEnvelope packet packetType playerId) {itemId : Nat}
    (hstatus : byte packet 40 = some 1) (hitem : u32At packet 41 = some itemId) :
    parseGameSlotPacket packet =
      .error (.drop (.invalidPickupRequestState packetType 1 itemId)) := by
  unfold parseGameSlotPacket
  rw [h.minimum_le _ (by decide), ok_bind, require_eq h.length_le, ok_bind,
    readU32_eq (by decide) h.hash, ok_bind, require_eq rfl, ok_bind, h.readPlayer, ok_bind,
    playerIdOf_small h.player_le, okOr_some, ok_bind, readU32_eq (by decide) h.mask, ok_bind,
    index_eq h.type_eq, ok_bind, h.body_drops hstatus hitem]
  rfl

/-- The envelope is the same where these fields are. -/
theorem transfer {packet' : Bytes} (h : PickupEnvelope packet packetType playerId)
    (hlength : packet'.length = packet.length)
    (hbytes : ∀ field : ByteField, field.offset + field.width ≤ 38 ∨ 41 ≤ field.offset →
      bytesAt packet' field = bytesAt packet field) :
    PickupEnvelope packet' packetType playerId where
  length_eq := hlength.trans h.length_eq
  hash := (numberAt_congr (hbytes _ (.inl (by decide)))).trans h.hash
  player := (numberAt_congr (hbytes _ (.inl (by decide)))).trans h.player
  player_le := h.player_le
  mask := (numberAt_congr (hbytes _ (.inl (by decide)))).trans h.mask
  type_eq := (numberAt_congr (hbytes _ (.inl (by decide)))).trans h.type_eq
  type_mem := h.type_mem
  declared := (numberAt_congr (hbytes _ (.inr (by decide)))).trans h.declared
  operation := (numberAt_congr (hbytes _ (.inr (by decide)))).trans h.operation
  base := (numberAt_congr (hbytes _ (.inr (by decide)))).trans h.base

end PickupEnvelope

/-- An accepted pickup has the envelope, and an id behind its status. -/
theorem envelope_of_accepted {parsed : ParsedGameSlotPacket}
    (h : parseGameSlotPacket packet = .ok parsed) (hpickup : parsed.body.isItemPickup = true) :
    PickupEnvelope packet parsed.body.packetType parsed.playerId ∧
      parsed.action = .synthesizeItemPickup := by
  have haccepted := (parseGameSlotPacket_accepts packet).of_ok h
  have hmem : parsed.body.packetType = 1 ∨ parsed.body.packetType = 2 := by
    cases hbody : parsed.body with
    | itemPickup pickup =>
      obtain ⟨kind, token, liveRank, position, blob⟩ := pickup
      cases kind with
      | type1 => exact .inl rfl
      | type2 => exact .inr rfl
    | _ =>
      rw [hbody] at hpickup
      cases hpickup
  unfold parseGameSlotPacket at h
  obtain ⟨_, -, h⟩ := bind_eq_ok h
  obtain ⟨_, -, h⟩ := bind_eq_ok h
  obtain ⟨actualHash, hhash, h⟩ := bind_eq_ok h
  obtain ⟨_, hhashEq, h⟩ := bind_eq_ok h
  obtain ⟨claimed, -, h⟩ := bind_eq_ok h
  obtain ⟨playerId, hplayer, h⟩ := bind_eq_ok h
  obtain ⟨mask, hmask, h⟩ := bind_eq_ok h
  obtain ⟨packetType, htype, h⟩ := bind_eq_ok h
  obtain ⟨⟨body, action⟩, hdecoded, h⟩ := bind_eq_ok h
  cases h
  dsimp only at hmem haccepted hpickup ⊢
  have htypeEq : packetType = body.packetType := by
    have hbyte := haccepted.type_eq
    rw [show byte packet 12 = some packetType from by
      unfold index at htype
      split at htype <;> cases htype
      assumption] at hbyte
    exact Option.some_inj.mp hbyte
  subst htypeEq
  have hbody : parseBody packet body.packetType playerId mask =
      parseItemPickup packet body.packetType playerId mask := by
    rcases hmem with hone | htwo
    · rw [hone]
      rfl
    · rw [htwo]
      rfl
  rw [hbody] at hdecoded
  unfold parseItemPickup at hdecoded
  obtain ⟨_, -, hd⟩ := bind_eq_ok hdecoded
  obtain ⟨_, hrule, hd⟩ := bind_eq_ok hd
  obtain ⟨declared, hdeclared, hd⟩ := bind_eq_ok hd
  obtain ⟨blob, hblob, hd⟩ := bind_eq_ok hd
  obtain ⟨_, hlength, hd⟩ := bind_eq_ok hd
  obtain ⟨operationHash, hoperation, hd⟩ := bind_eq_ok hd
  obtain ⟨operationBaseHash, hbase, hd⟩ := bind_eq_ok hd
  obtain ⟨_, hpair, hd⟩ := bind_eq_ok hd
  obtain ⟨⟨kind, token⟩, -, hd⟩ := bind_eq_ok hd
  obtain ⟨position, -, hd⟩ := bind_eq_ok hd
  obtain ⟨liveRank, -, hd⟩ := bind_eq_ok hd
  cases hd
  have hread {offset value : Nat} {context : String}
      (hr : readU32 packet offset context = .ok value) : u32At packet offset = some value :=
    (readU32_outcome packet offset context).of_ok hr
  obtain ⟨hblobEq, -, hend⟩ := (validateBlob_outcome packet _ _ _).of_ok hblob
  obtain ⟨rfl, rfl⟩ := check_eq_ok.mp hpair
  have hdeclaredEq : declared = pickupBlobLength := by
    rw [hblobEq] at hlength
    exact check_eq_ok.mp hlength
  rw [hdeclaredEq] at hend hdeclared
  have hhashRead := hread hhash
  rw [check_eq_ok.mp hhashEq] at hhashRead
  have hmaskRead := hread hmask
  rw [of_decide_eq_true (check_eq_ok.mp hrule)] at hmaskRead
  exact ⟨⟨hend.symm, hhashRead, haccepted.playerId_eq, haccepted.playerId_le, hmaskRead,
    haccepted.type_eq, hmem, hread hdeclared, hread hoperation, hread hbase⟩, rfl⟩

/-! ## Awards that answer a request -/

/-- What an award makes of a request. -/
def awarded (packet : Bytes) (itemId : Int) : Bytes :=
  packet.take 38 ++ i16LeBytes itemId ++ [1] ++ packet.drop 41

section

variable (itemId : Int)

theorem length_i16LeBytes : (i16LeBytes itemId).length = 2 := length_leBytes 2 _

theorem length_awarded (hlength : packet.length = 73) : (awarded packet itemId).length = 73 := by
  unfold awarded
  simp only [List.length_append, List.length_take, List.length_drop, length_i16LeBytes,
    List.length_cons, List.length_nil, hlength]
  omega

/-- Only the three bytes of the item and its status change. -/
theorem bytesAt_awarded (hlength : packet.length = 73) {field : ByteField}
    (houtside : field.offset + field.width ≤ 38 ∨ 41 ≤ field.offset) :
    bytesAt (awarded packet itemId) field = bytesAt packet field := by
  have hfront : (packet.take 38).length = 38 := by
    rw [List.length_take, hlength]
    rfl
  have hpiece : (i16LeBytes itemId ++ [1]).length = ((packet.drop 38).take 3).length := by
    rw [List.length_append, length_i16LeBytes, List.length_take, List.length_drop, hlength]
    rfl
  have hpacket : packet = packet.take 38 ++ (packet.drop 38).take 3 ++ packet.drop 41 := by
    have hrest : packet.drop 38 = (packet.drop 38).take 3 ++ packet.drop 41 := by
      have hdrop : packet.drop 41 = (packet.drop 38).drop 3 := by rw [List.drop_drop]
      rw [hdrop, List.take_append_drop]
    rw [List.append_assoc, ← hrest, List.take_append_drop]
  have hawarded : awarded packet itemId =
      packet.take 38 ++ (i16LeBytes itemId ++ [1]) ++ packet.drop 41 := by
    unfold awarded
    rw [List.append_assoc (packet.take 38)]
  rw [hawarded, bytesAt_replace hpiece ?_, ← hpacket]
  rw [hfront, List.length_append, length_i16LeBytes]
  exact houtside

theorem byte_awarded (hlength : packet.length = 73) :
    bytesAt (awarded packet itemId) ⟨38, 2⟩ = some (i16LeBytes itemId) ∧
      byte (awarded packet itemId) 40 = some 1 := by
  have hfront : (packet.take 38).length = 38 := by
    rw [List.length_take, hlength]
    rfl
  have hdrop : (awarded packet itemId).drop 38 = i16LeBytes itemId ++ ([1] ++ packet.drop 41) := by
    unfold awarded
    rw [List.append_assoc, List.append_assoc]
    exact List.drop_left' hfront
  have hwithin : ByteField.Within (awarded packet itemId).length ⟨38, 2⟩ := by
    rw [length_awarded itemId hlength]
    decide
  constructor
  · rw [bytesAt_within hwithin, hdrop]
    exact congrArg some (List.take_left' (length_i16LeBytes itemId))
  · have hbyte : (awarded packet itemId)[40]? = some 1 := by
      have hget : ((awarded packet itemId).drop 38)[2]? = some 1 := by
        rw [hdrop, List.getElem?_append_right (by rw [length_i16LeBytes]), length_i16LeBytes]
        rfl
      rw [List.getElem?_drop] at hget
      exact hget
    unfold byte
    rw [numberAt_byte, hbyte]
    rfl

end

/-! ## Results -/

/-- The parts of a direct award, up to where the parser looks. -/
theorem directAward_parts (playerId : Nat) (itemId : Int) (tick : Nat) :
    ∃ middle rest : Bytes, middle.length = 26 ∧ rest.length = 16 ∧
      serializeDirectItemAward playerId itemId tick =
        leBytes 4 gameSlotPacketHash ++ (leBytes 4 playerId ++ (leBytes 4 u32Max ++
          (leBytes 1 1 ++ ((0 :: middle) ++ (leBytes 1 1 ++ (leBytes 4 0x0000FFFF ++
            (leBytes 4 pickupBlobLength ++ (leBytes 4 gopCubeHash ++
              (leBytes 4 goItemCubeHash ++ rest))))))))) := by
  refine ⟨leBytes 4 syntheticCubeId ++ leBytes 4 tick ++ leBytes 4 ((tick + 1500) % 2 ^ 32) ++
    List.replicate 12 0 ++ i16LeBytes itemId,
    leBytes 4 syntheticCubeId ++ leBytes 4 1 ++ leBytes 4 playerId ++ leBytes 4 tick, ?_, ?_, ?_⟩
  · simp [i16LeBytes]
  · simp
  · simp only [serializeDirectItemAward, List.append_assoc, List.cons_append, List.nil_append]
    rfl

/-- What the parser reads of a direct award before it looks at the pickup itself. -/
structure DirectAwardReads (packet : Bytes) (playerId : Nat) : Prop where
  length_eq : packet.length = 73
  hash : u32At packet 0 = some gameSlotPacketHash
  player : u32At packet 4 = some playerId
  mask : u32At packet 8 = some u32Max
  type_eq : byte packet 12 = some 1
  status : byte packet 40 = some 1
  requested : u32At packet 41 = some 0x0000FFFF
  declared : u32At packet 45 = some pickupBlobLength
  operation : u32At packet 49 = some gopCubeHash
  base : u32At packet 53 = some goItemCubeHash

theorem directAward_reads (hbyte : playerId < 256) (itemId : Int) (tick : Nat) :
    DirectAwardReads (serializeDirectItemAward playerId itemId tick) playerId := by
  obtain ⟨middle, rest, hmiddle, hrest, heq⟩ := directAward_parts playerId itemId tick
  have hplayer : playerId % 256 ^ 4 = playerId := Nat.mod_eq_of_lt (by omega)
  rw [heq]
  constructor
  · simp [hmiddle, hrest]
  all_goals
    simp (disch := simp [hmiddle]) only [u32At, byte, numberAt_append_right, length_leBytes,
      List.length_cons, hmiddle, Nat.reduceSub, Nat.reduceAdd, numberAt_leBytes_append]
  · rfl
  · rw [hplayer]
  all_goals rfl

/-- A direct award has the envelope of a pickup, too. -/
theorem DirectAwardReads.envelope (h : DirectAwardReads packet playerId)
    (hplayer : playerId ≤ maxGameSlotPlayerId) : PickupEnvelope packet 1 playerId :=
  ⟨h.length_eq, h.hash, h.player, hplayer, h.mask, h.type_eq, .inl rfl, h.declared, h.operation,
    h.base⟩

/-- A direct award to no player of a race. -/
theorem DirectAwardReads.without_player (h : DirectAwardReads packet playerId)
    (hplayer : maxGameSlotPlayerId < playerId) (hbyte : playerId < 256) :
    parseGameSlotPacket packet = .error (.drop (.invalidPlayerId playerId)) := by
  unfold maxGameSlotPlayerId at hplayer
  have hclaimed : readI32 packet 4 "GameSlotPacket" = .ok (playerId : Int) := by
    have hread : readU32 packet 4 "GameSlotPacket" = .ok playerId :=
      readU32_eq (by decide) h.player
    unfold readU32 at hread
    unfold readI32
    rw [hread]
    show Except.ok (signedOf 4 playerId) = _
    rw [signedOf, if_pos (by omega)]
  have hnone : playerIdOf (playerId : Int) = none := by
    unfold playerIdOf maxGameSlotPlayerId
    exact if_neg (by omega)
  have hminimum : ensureMinimum packet "GameSlotPacket" commonEnvelopeLength = .ok () := by
    refine check_eq_ok.mpr ?_
    rw [h.length_eq]
    decide
  have hmaximum : packet.length ≤ maxGameSlotLogicalLength := by
    rw [h.length_eq]
    decide
  unfold parseGameSlotPacket
  rw [hminimum, ok_bind, require_eq hmaximum, ok_bind, readU32_eq (by decide) h.hash, ok_bind,
    require_eq rfl, ok_bind, hclaimed, ok_bind, hnone]
  rfl

/-- **No award is a request.** The award that answers an accepted pickup differs from it in three
bytes, its item and its status, and is dropped if a client sends it; so is every direct award. -/
theorem awards_refused :
    (∀ packet parsed, parseGameSlotPacket packet = .ok parsed → parsed.body.isItemPickup = true →
      ∀ itemId : Int, 0 < itemId →
        ∃ award, parsed.intoItemPickupAward itemId = .ok award ∧ award.length = packet.length ∧
          (∀ field : ByteField, field.offset + field.width ≤ 38 ∨ 41 ≤ field.offset →
            bytesAt award field = bytesAt packet field) ∧
          bytesAt award ⟨38, 2⟩ = some (i16LeBytes itemId) ∧ byte award 40 = some 1 ∧
          ∃ requested, parseGameSlotPacket award =
            .error (.drop (.invalidPickupRequestState parsed.body.packetType 1 requested))) ∧
      ∀ playerId < 256, ∀ (itemId : Int) tick, ∃ reason,
        parseGameSlotPacket (serializeDirectItemAward playerId itemId tick) =
          .error (.drop reason) := by
  constructor
  · intro packet parsed hparsed hpickup itemId hitem
    obtain ⟨henvelope, haction⟩ := envelope_of_accepted hparsed hpickup
    have hraw := ((parseGameSlotPacket_accepts packet).of_ok hparsed).raw_eq
    have hlength := henvelope.length_eq
    obtain ⟨hitemBytes, hstatus⟩ := byte_awarded itemId hlength
    have hsame : (awarded packet itemId).length = packet.length :=
      (length_awarded itemId hlength).trans hlength.symm
    have houtside (field : ByteField) (h : field.offset + field.width ≤ 38 ∨ 41 ≤ field.offset) :
        bytesAt (awarded packet itemId) field = bytesAt packet field :=
      bytesAt_awarded itemId hlength h
    have hrequested : ByteField.Within (awarded packet itemId).length ⟨41, 4⟩ := by
      rw [length_awarded itemId hlength]
      decide
    obtain ⟨requested, hvalue⟩ := numberAt_within hrequested
    refine ⟨awarded packet itemId, ?_, hsame, houtside, hitemBytes, hstatus,
      requested, ?_⟩
    · unfold ParsedGameSlotPacket.intoItemPickupAward
      rw [if_neg (by omega), if_neg (by simp [haction, hpickup]), hraw, if_neg (by omega)]
      rfl
    · exact (henvelope.transfer hsame houtside).drops hstatus hvalue
  · intro playerId hbyte itemId tick
    have hreads := directAward_reads hbyte itemId tick
    by_cases hplayer : playerId ≤ maxGameSlotPlayerId
    · exact ⟨_, (hreads.envelope hplayer).drops hreads.status hreads.requested⟩
    · exact ⟨_, hreads.without_player (Nat.lt_of_not_le hplayer) hbyte⟩

end P4475.GameSlot
