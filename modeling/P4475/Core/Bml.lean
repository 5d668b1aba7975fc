import P4475.Core.Packet

/-!
# The BML codec

The recursive tree of `p4475-core/src/bml.rs`, its bounded reader and its bounded
writer. `BmlNode.Fits` and `BmlNode.wire` say, once for both, which trees pass the
limits and which bytes they are: the reader and the writer follow the one format
`BmlNode.format`, so each undoes the other.
-/

namespace P4475

open Lib

structure BmlLimits where
  maxDepth : Nat
  maxNodes : Nat
  maxAttributesPerNode : Nat
  maxChildrenPerNode : Nat
  maxStringCodeUnits : Nat
  deriving DecidableEq

/-- `BmlLimits::default`. -/
def BmlLimits.default : BmlLimits := ⟨8, 64, 64, 64, 1024⟩

inductive BmlNode
  | node (name value : Text) (attributes : List (Text × Text)) (children : List BmlNode)

inductive BmlError
  | packet (error : PacketError)
  | depthExceeded (depth maximum : Nat)
  | nodeLimitExceeded (maximum : Nat)
  | invalidCount (kind : String) (count : Int) (maximum : Nat)
  | countOverflow (kind : String) (count : Nat)
  | stringLimitExceeded (field : String) (length maximum : Nat)
  deriving DecidableEq

/-- `check_node_admission`, with the node count it leaves. -/
def checkNodeAdmission (limits : BmlLimits) (depth nodeCount : Nat) : Except BmlError Nat :=
  if limits.maxDepth < depth then .error (.depthExceeded depth limits.maxDepth)
  else if usizeMax < nodeCount + 1 then .error (.nodeLimitExceeded limits.maxNodes)
  else if limits.maxNodes < nodeCount + 1 then .error (.nodeLimitExceeded limits.maxNodes)
  else .ok (nodeCount + 1)

theorem checkNodeAdmission_ok {limits : BmlLimits} {depth nodeCount next : Nat} :
    checkNodeAdmission limits depth nodeCount = .ok next ↔
      depth ≤ limits.maxDepth ∧ nodeCount + 1 ≤ usizeMax ∧ nodeCount + 1 ≤ limits.maxNodes ∧
        next = nodeCount + 1 := by
  unfold checkNodeAdmission
  by_cases hdepth : limits.maxDepth < depth
  · rw [if_pos hdepth]
    exact iff_of_false (by simp) fun h => by omega
  · rw [if_neg hdepth]
    by_cases hwide : usizeMax < nodeCount + 1
    · rw [if_pos hwide]
      exact iff_of_false (by simp) fun h => by omega
    · rw [if_neg hwide]
      by_cases hmany : limits.maxNodes < nodeCount + 1
      · rw [if_pos hmany]
        exact iff_of_false (by simp) fun h => by omega
      · rw [if_neg hmany, Except.ok.injEq]
        exact ⟨fun h => ⟨by omega, by omega, by omega, h.symm⟩, fun h => h.2.2.2.symm⟩

/-! ## Reading -/

/-- `read_count`. -/
def readCount (kind : String) (maximum : Nat) : Reading BmlError Nat := do
  let count ← orElseThrow .packet PacketReader.readI32
  if count < 0 then throw (.invalidCount kind count maximum)
  else if maximum < count.toNat then throw (.invalidCount kind count maximum)
  else return count.toNat

/-- A string of a node. -/
def readString (limits : BmlLimits) : Reading BmlError Text :=
  orElseThrow .packet (PacketReader.readUtf16Bounded limits.maxStringCodeUnits)

/-- One turn of the attribute loop of `decode_node`. -/
def readAttribute (limits : BmlLimits) : Reading BmlError (Text × Text) := do
  let name ← readString limits
  let value ← readString limits
  return (name, value)

/-- The child loop of `decode_node`; the node count goes from child to child. -/
def decodeChildren (child : Nat → Reading BmlError (BmlNode × Nat)) :
    (count nodeCount : Nat) → Reading BmlError (List BmlNode × Nat)
  | 0, nodeCount => return ([], nodeCount)
  | count + 1, nodeCount => do
    let first ← child nodeCount
    let rest ← decodeChildren child count first.2
    return (first.1 :: rest.1, rest.2)

/-- `decode_node`, with the node count it leaves. -/
def decodeNode (limits : BmlLimits) (depth nodeCount : Nat) : Reading BmlError (BmlNode × Nat) :=
  match h : checkNodeAdmission limits depth nodeCount with
  | .error e => throw e
  | .ok admitted => do
    let name ← readString limits
    let value ← readString limits
    let attributeCount ← readCount "attribute" limits.maxAttributesPerNode
    let attributes ← repeatM (readAttribute limits) attributeCount
    let childCount ← readCount "child" limits.maxChildrenPerNode
    let children ← decodeChildren (fun count => decodeNode limits (depth + 1) count) childCount
      admitted
    return (.node name value attributes children.1, children.2)
termination_by limits.maxDepth + 1 - depth
decreasing_by
  have hdepth := (checkNodeAdmission_ok.mp h).1
  omega

/-- `decode_with_limits`. -/
def decodeWithLimits (limits : BmlLimits) : Reading BmlError BmlNode := do
  let decoded ← decodeNode limits 0 0
  return decoded.1

/-! ## Writing -/

/-- `write_count`. -/
def writeCount (kind : String) (count maximum : Nat) : Writing BmlError PUnit :=
  if maximum < count then throw (.invalidCount kind (min count i32Max) maximum)
  else if i32Max < count then throw (.countOverflow kind count)
  else PacketWriter.writeI32 count

/-- `write_bounded_string`. -/
def writeBoundedString (value : Text) (field : String) (limits : BmlLimits) :
    Writing BmlError PUnit :=
  if limits.maxStringCodeUnits < (encodeUtf16 value).length then
    throw (.stringLimitExceeded field (encodeUtf16 value).length limits.maxStringCodeUnits)
  else orElseThrow .packet (PacketWriter.writeUtf16 value)

/-- One turn of the attribute loop of `encode_node`. -/
def writeAttribute (limits : BmlLimits) (entry : Text × Text) : Writing BmlError PUnit := do
  writeBoundedString entry.1 "attribute name" limits
  writeBoundedString entry.2 "attribute value" limits

mutual

/-- `encode_node`, with the node count it leaves. -/
def encodeNode (limits : BmlLimits) (depth : Nat) :
    BmlNode → (nodeCount : Nat) → Writing BmlError Nat
  | .node name value attributes children, nodeCount => do
    let admitted ← liftResult (checkNodeAdmission limits depth nodeCount)
    writeBoundedString name "node name" limits
    writeBoundedString value "node value" limits
    writeCount "attribute" attributes.length limits.maxAttributesPerNode
    attributes.forM (writeAttribute limits)
    writeCount "child" children.length limits.maxChildrenPerNode
    encodeChildren limits (depth + 1) children admitted

/-- The child loop of `encode_node`. -/
def encodeChildren (limits : BmlLimits) (depth : Nat) :
    List BmlNode → (nodeCount : Nat) → Writing BmlError Nat
  | [], nodeCount => return nodeCount
  | child :: rest, nodeCount => do
    let nodeCount ← encodeNode limits depth child nodeCount
    encodeChildren limits depth rest nodeCount

end

/-- `encode_with_limits`. -/
def encodeWithLimits (limits : BmlLimits) (node : BmlNode) : Writing BmlError PUnit := do
  let _ ← encodeNode limits 0 node 0

/-! ## The format -/

/-- A count within its limit. -/
def boundedCountFormat (maximum : Nat) : Format UInt8 Nat := fun count w =>
  count ≤ maximum ∧ countFormat count w

theorem readCount_parses (kind : String) (maximum : Nat) :
    Parses (readCount kind maximum) (boundedCountFormat maximum) := by
  refine ((PacketReader.readI32_parses.orElseThrow _).bind fun count _ _ =>
    Parses.guard (BmlError.invalidCount kind count maximum) fun _ =>
      Parses.guard (BmlError.invalidCount kind count maximum) fun _ =>
        parses_pure count.toNat).congr fun count w => ?_
  constructor
  · rintro ⟨value, u, v, ⟨hu, rfl⟩, ⟨hnonneg, hmax, rfl, rfl⟩, rfl⟩
    rw [List.append_nil]
    exact ⟨not_lt.mp hmax, (PacketReader.i32FromLeBytes_natCast hu).mp (by omega)⟩
  · rintro ⟨hmax, hle, rfl⟩
    have hvalue : i32FromLeBytes (leBytes 4 count) = count :=
      (PacketReader.i32FromLeBytes_natCast (length_leBytes 4 _)).mpr ⟨hle, rfl⟩
    refine ⟨_, leBytes 4 count, [], ⟨length_leBytes 4 _, rfl⟩, ?_, (List.append_nil _).symm⟩
    rw [hvalue]
    exact ⟨by omega, by omega, rfl, rfl⟩

theorem writeCount_emits (kind : String) (count maximum : Nat) :
    Emits (writeCount kind count maximum) fun _ w => boundedCountFormat maximum count w := by
  refine (Emits.guard (BmlError.invalidCount kind (min count i32Max) maximum) fun _ =>
    Emits.guard (BmlError.countOverflow kind count) fun hle =>
      PacketWriter.writeI32_emits (not_lt.mp hle)).congr fun _ w => ?_
  exact ⟨fun h => ⟨not_lt.mp h.1, h.2.2⟩, fun h => ⟨not_lt.mpr h.1, not_lt.mpr h.2.1, h.2⟩⟩

theorem readString_parses (limits : BmlLimits) :
    Parses (readString limits) (stringFormat limits.maxStringCodeUnits) :=
  (PacketReader.readUtf16Bounded_parses _).orElseThrow _

theorem writeBoundedString_emits (value : Text) (field : String) (limits : BmlLimits) :
    Emits (writeBoundedString value field limits) fun _ w =>
      stringFormat limits.maxStringCodeUnits value w := by
  refine (Emits.guard (BmlError.stringLimitExceeded field (encodeUtf16 value).length
    limits.maxStringCodeUnits) fun _ =>
      (PacketWriter.writeUtf16_emits value).orElseThrow _).congr fun _ w => ?_
  exact and_congr_left fun _ => not_lt

/-- A name and a value. -/
def attributeFormat (limits : BmlLimits) : Format UInt8 (Text × Text) := fun entry w =>
  ∃ u v, stringFormat limits.maxStringCodeUnits entry.1 u ∧
    stringFormat limits.maxStringCodeUnits entry.2 v ∧ w = u ++ v

theorem readAttribute_parses (limits : BmlLimits) :
    Parses (readAttribute limits) (attributeFormat limits) := by
  refine ((readString_parses limits).bind fun name _ _ =>
    (readString_parses limits).bind fun value _ _ => parses_pure (name, value)).congr
      fun entry w => ?_
  constructor
  · rintro ⟨name, u, v, hname, ⟨value, v', _, hvalue, ⟨rfl, rfl⟩, rfl⟩, rfl⟩
    exact ⟨u, v', hname, hvalue, by rw [List.append_nil]⟩
  · rintro ⟨u, v, hname, hvalue, rfl⟩
    exact ⟨entry.1, u, v, hname, ⟨entry.2, v, [], hvalue, ⟨rfl, rfl⟩, (List.append_nil v).symm⟩,
      rfl⟩

theorem writeAttribute_emits (limits : BmlLimits) (entry : Text × Text) :
    Emits (writeAttribute limits entry) fun _ w => attributeFormat limits entry w := by
  refine ((writeBoundedString_emits entry.1 _ limits).bind fun _ _ _ =>
    writeBoundedString_emits entry.2 _ limits).congr fun _ w => ?_
  exact ⟨fun ⟨_, u, v, hname, hvalue, hw⟩ => ⟨u, v, hname, hvalue, hw⟩,
    fun ⟨u, v, hname, hvalue, hw⟩ => ⟨PUnit.unit, u, v, hname, hvalue, hw⟩⟩

/-- What stands before the children: the strings, the attributes and the two counts. -/
def headFormat (limits : BmlLimits) :
    Format UInt8 (Text × Text × List (Text × Text) × Nat) := fun head w =>
  ∃ a b c d e, stringFormat limits.maxStringCodeUnits head.1 a ∧
    stringFormat limits.maxStringCodeUnits head.2.1 b ∧
    boundedCountFormat limits.maxAttributesPerNode head.2.2.1.length c ∧
    (attributeFormat limits).list head.2.2.1 d ∧
    boundedCountFormat limits.maxChildrenPerNode head.2.2.2 e ∧
    w = a ++ (b ++ (c ++ (d ++ e)))

mutual

/-- A tree at a depth, with the number of nodes before it and after it. -/
def BmlNode.format (limits : BmlLimits) (depth : Nat) :
    BmlNode → (before after : Nat) → List UInt8 → Prop
  | .node name value attributes children, before, after, w =>
    depth ≤ limits.maxDepth ∧ before + 1 ≤ usizeMax ∧ before + 1 ≤ limits.maxNodes ∧
      ∃ u v, headFormat limits (name, value, attributes, children.length) u ∧
        BmlNode.formats limits (depth + 1) children (before + 1) after v ∧ w = u ++ v

/-- Trees one after the other. -/
def BmlNode.formats (limits : BmlLimits) (depth : Nat) :
    List BmlNode → (before after : Nat) → List UInt8 → Prop
  | [], before, after, w => after = before ∧ w = []
  | child :: rest, before, after, w =>
    ∃ between u v, child.format limits depth before between u ∧
      BmlNode.formats limits depth rest between after v ∧ w = u ++ v

end

/-! ## Both directions follow it -/

variable {limits : BmlLimits}

theorem decodeChildren_parses {depth : Nat} {child : Nat → Reading BmlError (BmlNode × Nat)}
    (h : ∀ before, Parses (child before) fun r w => r.1.format limits depth before r.2 w)
    (count before : Nat) :
    Parses (decodeChildren child count before) fun r w =>
      r.1.length = count ∧ BmlNode.formats limits depth r.1 before r.2 w := by
  induction count generalizing before with
  | zero =>
    refine (parses_pure ([], before)).congr fun r w => ?_
    constructor
    · rintro ⟨rfl, rfl⟩
      exact ⟨rfl, rfl, rfl⟩
    · rintro ⟨hlen, hw⟩
      obtain ⟨nodes, after⟩ := r
      cases List.length_eq_zero_iff.mp hlen
      obtain ⟨rfl, rfl⟩ := hw
      exact ⟨rfl, rfl⟩
  | succ count ih =>
    refine ((h before).bind fun first _ _ => (ih first.2).bind fun rest _ _ =>
      parses_pure (first.1 :: rest.1, rest.2)).congr fun r w => ?_
    constructor
    · rintro ⟨first, u, v, hfirst, ⟨rest, v', _, ⟨hlen, hrest⟩, ⟨rfl, rfl⟩, rfl⟩, rfl⟩
      exact ⟨congrArg (· + 1) hlen, first.2, u, v', hfirst, hrest, by rw [List.append_nil]⟩
    · rintro ⟨hlen, hw⟩
      obtain ⟨nodes, after⟩ := r
      cases nodes with
      | nil => exact absurd hlen (by simp)
      | cons first rest =>
        obtain ⟨between, u, v, hfirst, hrest, rfl⟩ := hw
        exact ⟨(first, between), u, v, hfirst, ⟨(rest, after), v, [], ⟨Nat.succ.inj hlen, hrest⟩,
          ⟨rfl, rfl⟩, (List.append_nil v).symm⟩, rfl⟩

/-- The reader follows the format. -/
theorem decodeNode_parses (depth before : Nat) :
    Parses (decodeNode limits depth before) fun r w => r.1.format limits depth before r.2 w := by
  induction depth, before using decodeNode.induct limits with
  | case1 depth before e he =>
    have hthrow : decodeNode limits depth before = throw e := by
      rw [decodeNode]
      split
      next e' he' =>
        rw [he] at he'
        cases he'
        rfl
      next admitted hok =>
        rw [he] at hok
        exact absurd hok (by simp)
    rw [hthrow]
    refine (parses_throw e).congr fun r w => iff_of_false id fun hw => ?_
    obtain ⟨⟨name, value, attributes, children⟩, after⟩ := r
    obtain ⟨hdepth, hwide, hmany, -⟩ := hw
    have hok := checkNodeAdmission_ok.mpr ⟨hdepth, hwide, hmany, rfl⟩
    rw [he] at hok
    exact absurd hok (by simp)
  | case2 depth before admitted he ih =>
    have hrun : decodeNode limits depth before = (do
        let name ← readString limits
        let value ← readString limits
        let attributeCount ← readCount "attribute" limits.maxAttributesPerNode
        let attributes ← repeatM (readAttribute limits) attributeCount
        let childCount ← readCount "child" limits.maxChildrenPerNode
        let children ← decodeChildren (fun count => decodeNode limits (depth + 1) count) childCount
          admitted
        return (.node name value attributes children.1, children.2)) := by
      rw [decodeNode]
      split
      next e' he' =>
        rw [he] at he'
        exact absurd he' (by simp)
      next admitted' he' =>
        rw [he] at he'
        cases he'
        rfl
    obtain ⟨hdepth, hwide, hmany, rfl⟩ := checkNodeAdmission_ok.mp he
    rw [hrun]
    refine ((readString_parses limits).bind fun name _ _ =>
      (readString_parses limits).bind fun value _ _ =>
        (readCount_parses "attribute" _).bind fun attributeCount _ _ =>
          ((readAttribute_parses limits).repeatM attributeCount).bind fun attributes _ _ =>
            (readCount_parses "child" _).bind fun childCount _ _ =>
              (decodeChildren_parses ih childCount (before + 1)).bind fun children _ _ =>
                parses_pure _).congr fun r w => ?_
    obtain ⟨⟨name, value, attributes, children⟩, after⟩ := r
    constructor
    · rintro ⟨_, a, _, ha, ⟨_, b, _, hb, ⟨_, c, _, hc, ⟨_, d, _, ⟨rfl, hd⟩, ⟨_, e, _, he,
        ⟨_, f, _, ⟨rfl, hf⟩, ⟨hr, rfl⟩, rfl⟩, rfl⟩, rfl⟩, rfl⟩, rfl⟩, rfl⟩
      cases hr
      refine ⟨hdepth, hwide, hmany, a ++ (b ++ (c ++ (d ++ e))), f,
        ⟨a, b, c, d, e, ha, hb, hc, hd, he, rfl⟩, hf, ?_⟩
      simp only [List.append_assoc, List.append_nil]
    · rintro ⟨-, -, -, _, f, ⟨a, b, c, d, e, ha, hb, hc, hd, he, rfl⟩, hf, rfl⟩
      refine ⟨name, a, _, ha, ⟨value, b, _, hb, ⟨_, c, _, hc, ⟨attributes, d, _, ⟨rfl, hd⟩,
        ⟨_, e, _, he, ⟨(children, after), f, [], ⟨rfl, hf⟩, ⟨rfl, rfl⟩, rfl⟩, rfl⟩, rfl⟩, rfl⟩,
          rfl⟩, ?_⟩
      simp only [List.append_assoc, List.append_nil]

mutual

/-- The writer follows the format. -/
theorem encodeNode_emits (depth : Nat) : (node : BmlNode) → (before : Nat) →
    Emits (encodeNode limits depth node before) fun after w =>
      node.format limits depth before after w
  | .node name value attributes children, before => by
    rw [encodeNode]
    refine ((emits_liftResult (checkNodeAdmission limits depth before)).bind fun admitted _ _ =>
      (writeBoundedString_emits name "node name" limits).bind fun _ _ _ =>
        (writeBoundedString_emits value "node value" limits).bind fun _ _ _ =>
          (writeCount_emits "attribute" attributes.length _).bind fun _ _ _ =>
            (Emits.forM (writeAttribute_emits limits) attributes).bind fun _ _ _ =>
              (writeCount_emits "child" children.length _).bind fun _ _ _ =>
                encodeChildren_emits (depth + 1) children admitted).congr fun after w => ?_
    constructor
    · rintro ⟨_, _, _, ⟨hok, rfl⟩, ⟨_, a, _, ha, ⟨_, b, _, hb, ⟨_, c, _, hc, ⟨_, d, _, hd,
        ⟨_, e, f, he, hf, rfl⟩, rfl⟩, rfl⟩, rfl⟩, rfl⟩, rfl⟩
      obtain ⟨hdepth, hwide, hmany, rfl⟩ := checkNodeAdmission_ok.mp hok
      refine ⟨hdepth, hwide, hmany, a ++ (b ++ (c ++ (d ++ e))), f,
        ⟨a, b, c, d, e, ha, hb, hc, hd, he, rfl⟩, hf, ?_⟩
      simp only [List.append_assoc, List.nil_append]
    · rintro ⟨hdepth, hwide, hmany, _, f, ⟨a, b, c, d, e, ha, hb, hc, hd, he, rfl⟩, hf, rfl⟩
      refine ⟨before + 1, [], _, ⟨checkNodeAdmission_ok.mpr ⟨hdepth, hwide, hmany, rfl⟩, rfl⟩,
        ⟨⟨⟩, a, _, ha, ⟨⟨⟩, b, _, hb, ⟨⟨⟩, c, _, hc, ⟨⟨⟩, d, _, hd, ⟨⟨⟩, e, f, he, hf, rfl⟩, rfl⟩,
          rfl⟩, rfl⟩, rfl⟩, ?_⟩
      simp only [List.append_assoc, List.nil_append]

theorem encodeChildren_emits (depth : Nat) : (nodes : List BmlNode) → (before : Nat) →
    Emits (encodeChildren limits depth nodes before) fun after w =>
      BmlNode.formats limits depth nodes before after w
  | [], before => emits_pure before
  | child :: rest, before => by
    refine ((encodeNode_emits depth child before).bind fun between _ _ =>
      encodeChildren_emits depth rest between).congr fun after w => ?_
    exact Iff.rfl

end

theorem decodeWithLimits_parses :
    Parses (decodeWithLimits limits) fun node w => ∃ after, node.format limits 0 0 after w := by
  refine ((decodeNode_parses 0 0).bind fun decoded _ _ => parses_pure decoded.1).congr
    fun node w => ?_
  constructor
  · rintro ⟨decoded, u, _, hu, ⟨rfl, rfl⟩, rfl⟩
    rw [List.append_nil]
    exact ⟨decoded.2, hu⟩
  · rintro ⟨after, hw⟩
    exact ⟨(node, after), w, [], hw, ⟨rfl, rfl⟩, (List.append_nil w).symm⟩

theorem encodeWithLimits_emits (node : BmlNode) :
    Emits (encodeWithLimits limits node) fun _ w => ∃ after, node.format limits 0 0 after w := by
  refine ((encodeNode_emits 0 node 0).bind fun _ _ _ => emits_pure PUnit.unit).congr fun _ w => ?_
  constructor
  · rintro ⟨after, u, _, hu, ⟨-, rfl⟩, rfl⟩
    rw [List.append_nil]
    exact ⟨after, hu⟩
  · rintro ⟨after, hw⟩
    exact ⟨after, w, [], hw, ⟨rfl, rfl⟩, (List.append_nil w).symm⟩

/-- **The codec's two directions.** What the writer appends, the reader turns back into
the tree, and stops where the writer stopped; what the reader takes, the writer appends
again. The limits are the same on both sides. -/
theorem bml_roundTrip (limits : BmlLimits) (node : BmlNode) :
    (∀ out out', Yields (encodeWithLimits limits node) out ⟨⟩ out' →
      ∃ w, out' = out ++ w ∧ ∀ (reader : PacketReader) (suffix : List UInt8),
        reader.remaining = w ++ suffix → ∃ reader',
          Yields (decodeWithLimits limits) reader node reader' ∧ reader'.remaining = suffix) ∧
    (∀ reader reader', Yields (decodeWithLimits limits) reader node reader' →
      ∃ w, reader.remaining = w ++ reader'.remaining ∧ reader' = reader.advance w.length ∧
        ∀ out, Yields (encodeWithLimits limits node) out ⟨⟩ (out ++ w)) := by
  constructor
  · intro out out' h
    obtain ⟨w, hw, rfl⟩ := (encodeWithLimits_emits node out ⟨⟩ out').mp h
    refine ⟨w, rfl, fun reader suffix hr => ⟨_, decodeWithLimits_parses.of_emitted hw hr⟩⟩
  · intro reader reader' h
    obtain ⟨w, hw, ⟨rest, hrest⟩, rfl⟩ := (decodeWithLimits_parses reader node reader').mp h
    refine ⟨w, ?_, rfl, fun out => (encodeWithLimits_emits node out ⟨⟩ _).mpr ⟨w, hw, rfl⟩⟩
    rw [Cursor.remaining_of_append hrest.symm, hrest]

/-- A supplementary character takes two units. -/
example : (encodeWithLimits .default (.node ['A', '🏎'] [] [] [])).run.run [] =
    (.ok ⟨⟩, [3, 0, 0, 0, 0x41, 0, 0x3c, 0xd8, 0xce, 0xdf, 0, 0, 0, 0, 0, 0, 0, 0, 0, 0, 0, 0]) := by
  rfl

end P4475
