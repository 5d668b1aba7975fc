import P4475.Core.Bml
import P4475.Lib.Outcome
import P4475.Rho5.AaaIndex

/-!
# The codec of the pack-folder index

The binary form of `aaa.pk` is the form of `Core/Bml` under its own limits: the reader and
the writer follow `AaaNode.format`, so each undoes the other. The wrapper is undone by its
reader for every document that it accepts.
-/

namespace P4475

open Lib Crypto

/-- The limits on the tree. -/
def AaaLimits.bml (limits : AaaLimits) : BmlLimits where
  maxDepth := limits.maxDepth
  maxNodes := limits.maxNodes
  maxAttributesPerNode := limits.maxAttributesPerNode
  maxChildrenPerNode := limits.maxChildrenPerNode
  maxStringCodeUnits := limits.maxStringUtf16Units

mutual

/-- A tree at a depth, with the number of nodes before it and after it. -/
def AaaNode.format (limits : AaaLimits) (depth : Nat) :
    AaaNode → (before after : Nat) → List UInt8 → Prop
  | .node name text attributes children, before, after, w =>
    depth ≤ limits.maxDepth ∧ before + 1 ≤ usizeMax ∧ before + 1 ≤ limits.maxNodes ∧
      ∃ u v, headFormat limits.bml (name, text, attributes, children.length) u ∧
        AaaNode.formats limits (depth + 1) children (before + 1) after v ∧ w = u ++ v

/-- Trees one after the other. -/
def AaaNode.formats (limits : AaaLimits) (depth : Nat) :
    List AaaNode → (before after : Nat) → List UInt8 → Prop
  | [], before, after, w => after = before ∧ w = []
  | child :: rest, before, after, w =>
    ∃ between u v, child.format limits depth before between u ∧
      AaaNode.formats limits depth rest between after v ∧ w = u ++ v

end

variable {limits : AaaLimits}

theorem formats_iff_chain (depth : Nat) (nodes : List AaaNode) (before after : Nat)
    (w : List UInt8) : AaaNode.formats limits depth nodes before after w ↔
      Format.chain (fun before after n w => n.format limits depth before after w) before after
        nodes w := by
  induction nodes generalizing before w with
  | nil => exact Iff.rfl
  | cons child rest ih =>
    unfold AaaNode.formats Format.chain
    simp only [ih]

/-! ## The reader -/

namespace AaaReader

theorem take_parses (length : Nat) (context : String) :
    Parses (take length context) fun bytes w => w = bytes ∧ bytes.length = length :=
  takeElse_parses _ length

theorem u8_parses (context : String) : Parses (u8 context) fun byte w => w = [byte] := by
  refine ((take_parses 1 context).bind fun bytes _ _ => parses_pure (bytes.headD 0)).congr
    fun byte w => ?_
  constructor
  · intro ⟨bytes, u, v, ⟨hu, hlen⟩, ⟨hbyte, hv⟩, hw⟩
    obtain ⟨only, honly⟩ := List.length_eq_one_iff.mp hlen
    subst honly
    rw [hw, hv, hu, hbyte]
    rfl
  · intro hw
    exact ⟨[byte], w, [], ⟨hw, rfl⟩, ⟨rfl, rfl⟩, (List.append_nil w).symm⟩

theorem u32_parses (context : String) :
    Parses (u32 context) fun word w => w = wordBytes word := by
  refine ((take_parses 4 context).bind fun bytes _ _ => parses_pure (readWord bytes)).congr
    fun word w => ?_
  constructor
  · intro ⟨bytes, u, v, ⟨hu, hlen⟩, ⟨hword, hv⟩, hw⟩
    rw [hw, hv, hu, hword, List.append_nil, wordBytes_readWord hlen]
  · intro hw
    refine ⟨wordBytes word, w, [], ⟨hw, length_wordBytes word⟩, ⟨?_, rfl⟩,
      (List.append_nil w).symm⟩
    exact (readWord_wordBytes word).symm

theorem i32_parses (context : String) :
    Parses (i32 context) fun value w => w.length = 4 ∧ value = i32FromLeBytes w := by
  refine ((take_parses 4 context).bind fun bytes _ _ => parses_pure (i32FromLeBytes bytes)).congr
    fun value w => ?_
  constructor
  · intro ⟨bytes, u, v, ⟨hu, hlen⟩, ⟨hvalue, hv⟩, hw⟩
    rw [hw, hv, hu, List.append_nil]
    exact ⟨hlen, hvalue⟩
  · intro ⟨hlen, hvalue⟩
    exact ⟨w, w, [], ⟨rfl, hlen⟩, ⟨hvalue, rfl⟩, (List.append_nil w).symm⟩

theorem nonnegativeI32_parses (context : String) : Parses (nonnegativeI32 context) countFormat :=
  natural_parses (i32_parses context) _

theorem checkCount_ok {kind : String} {actual maximum : Nat} {u : Unit} :
    checkCount kind actual maximum = .ok u ↔ actual ≤ maximum := by
  unfold checkCount
  by_cases h : maximum < actual
  · rw [if_pos h]
    exact iff_of_false (fun he => by cases he) (by omega)
  · rw [if_neg h]
    exact iff_of_true rfl (by omega)

theorem boundedCount_parses (kind : String) (maximum : Nat) :
    Parses (boundedCount kind maximum) (boundedCountFormat maximum) := by
  refine ((nonnegativeI32_parses kind).bind fun actual _ _ =>
    (parses_liftResult (checkCount kind actual maximum)).bind fun _ _ _ =>
      parses_pure actual).congr fun count w => ?_
  constructor
  · intro ⟨actual, u, v, hu, ⟨_, v', v'', ⟨hmax, hv'⟩, ⟨hcount, hv''⟩, hv⟩, hw⟩
    subst hv' hv'' hv
    rw [hw, hcount, List.append_nil, List.append_nil]
    exact ⟨checkCount_ok.mp hmax, hu⟩
  · intro ⟨hmax, hw⟩
    exact ⟨count, w, [], hw, ⟨(), [], [], ⟨checkCount_ok.mpr hmax, rfl⟩, ⟨rfl, rfl⟩, rfl⟩,
      (List.append_nil w).symm⟩

theorem decodeText_ok {bytes : List UInt8} {text : Text} :
    decodeText bytes = .ok text ↔ decodeUtf16 (PacketReader.unitsOf bytes) = some text := by
  unfold decodeText
  cases decodeUtf16 (PacketReader.unitsOf bytes) with
  | none => exact iff_of_false (fun h => by cases h) (by simp)
  | some decoded =>
    constructor
    · intro h
      exact congrArg some (Except.ok.inj h)
    · intro h
      exact congrArg Except.ok (Option.some.inj h)

/-- Strings are read in the form in which they are written. -/
theorem utf16_parses (maximum : Nat) : Parses (utf16 maximum) (stringFormat maximum) := by
  refine ((nonnegativeI32_parses "UTF-16 string length").bind fun length _ _ =>
    Parses.guard (.stringTooLong length maximum) fun _ => Parses.guard .arithmeticOverflow fun _ =>
      (take_parses (length * 2) "UTF-16 string").bind fun bytes _ _ =>
        parses_liftResult (decodeText bytes)).congr fun text w => ?_
  unfold stringFormat stringBytes
  constructor
  · intro ⟨length, u, v, ⟨hle, hu⟩, ⟨hmax, _, bytes, b, c, ⟨hb, hlen⟩, ⟨htext, hc⟩, hv⟩, hw⟩
    obtain ⟨hcount, hbytes⟩ := (PacketReader.decode_iff hlen).mp (decodeText_ok.mp htext)
    refine ⟨by omega, by omega, ?_⟩
    rw [hw, hv, hu, hb, hc, hcount, hbytes, List.append_nil]
  · intro ⟨hmax, hle, hw⟩
    have hlen : ((encodeUtf16 text).flatMap (leBytes 2)).length = (encodeUtf16 text).length * 2 :=
      length_flatMap_leBytes 2 _
    have hwide : (encodeUtf16 text).length * 2 ≤ usizeMax := by
      unfold i32Max at hle
      unfold usizeMax u64Max
      omega
    refine ⟨(encodeUtf16 text).length, _, _, ⟨hle, rfl⟩, ⟨by omega, by omega,
      (encodeUtf16 text).flatMap (leBytes 2), _, [], ⟨rfl, hlen⟩, ⟨?_, rfl⟩, rfl⟩, ?_⟩
    · exact decodeText_ok.mpr ((PacketReader.decode_iff hlen).mpr ⟨rfl, rfl⟩)
    · rw [hw, List.append_nil]

end AaaReader

theorem decodeAttribute_parses :
    Parses (decodeAttribute limits) (attributeFormat limits.bml) := by
  refine ((AaaReader.utf16_parses _).bind fun name _ _ =>
    (AaaReader.utf16_parses _).bind fun value _ _ => parses_pure (name, value)).congr
      fun entry w => ?_
  constructor
  · intro ⟨name, u, v, hname, ⟨value, v', v'', hvalue, ⟨hentry, hv''⟩, hv⟩, hw⟩
    subst hentry
    refine ⟨u, v', hname, hvalue, ?_⟩
    rw [hw, hv, hv'', List.append_nil]
  · intro ⟨u, v, hname, hvalue, hw⟩
    exact ⟨entry.1, u, v, hname, ⟨entry.2, v, [], hvalue, ⟨rfl, rfl⟩, (List.append_nil v).symm⟩, hw⟩

/-- The loop over the children follows the format of the trees. -/
theorem children_parses {depth : Nat} {child : Nat → Reading AaaError (AaaNode × Nat)}
    (h : ∀ before, Parses (child before) fun r w => r.1.format limits depth before r.2 w)
    (count before : Nat) : Parses (repeatCounting child count before) fun r w =>
      r.1.length = count ∧ AaaNode.formats limits depth r.1 before r.2 w := by
  let F : Nat → Nat → Format UInt8 AaaNode := fun before after n w =>
    n.format limits depth before after w
  have hchain : Parses (repeatCounting child count before) fun r w =>
      r.1.length = count ∧ Format.chain F before r.2 r.1 w := Parses.repeatCounting h count before
  exact hchain.congr fun r w => and_congr_right fun _ => (formats_iff_chain depth _ _ _ w).symm

/-- What `decode_node` does with an admitted node. -/
theorem decodeAaaNode_admitted {depth before admitted : Nat}
    (h : admitNode limits depth before = .ok admitted) :
    decodeAaaNode limits depth before = (do
      let name ← AaaReader.utf16 limits.maxStringUtf16Units
      let text ← AaaReader.utf16 limits.maxStringUtf16Units
      let attributeCount ← AaaReader.boundedCount "attribute" limits.maxAttributesPerNode
      let attributes ← repeatM (decodeAttribute limits) attributeCount
      let childCount ← AaaReader.boundedCount "child" limits.maxChildrenPerNode
      let children ← repeatCounting (fun count => decodeAaaNode limits (depth + 1) count)
        childCount admitted
      return (.node name text attributes children.1, children.2)) := by
  rw [decodeAaaNode]
  split
  next e he =>
    rw [h] at he
    cases he
  next admitted' hok =>
    rw [h] at hok
    cases hok
    rfl

theorem decodeAaaNode_refused {depth before : Nat} {e : AaaError}
    (h : admitNode limits depth before = .error e) :
    decodeAaaNode limits depth before = throw e := by
  rw [decodeAaaNode]
  split
  next e' he =>
    rw [h] at he
    cases he
    rfl
  next admitted hok =>
    rw [h] at hok
    cases hok

/-- The reader follows the format. -/
theorem decodeAaaNode_parses (depth before : Nat) :
    Parses (decodeAaaNode limits depth before) fun r w =>
      r.1.format limits depth before r.2 w := by
  induction depth, before using decodeAaaNode.induct limits with
  | case1 depth before e he =>
    rw [decodeAaaNode_refused he]
    refine (parses_throw e).congr fun r w => iff_of_false id fun hw => ?_
    obtain ⟨⟨name, text, attributes, children⟩, after⟩ := r
    obtain ⟨hdepth, hwide, hmany, _⟩ := hw
    have hok := admitNode_ok.mpr ⟨hdepth, hwide, hmany, rfl⟩
    rw [he] at hok
    cases hok
  | case2 depth before admitted hok ih =>
    obtain ⟨hdepth, hwide, hmany, hadmitted⟩ := admitNode_ok.mp hok
    rw [decodeAaaNode_admitted hok]
    refine ((AaaReader.utf16_parses _).bind fun name _ _ =>
      (AaaReader.utf16_parses _).bind fun text _ _ =>
        (AaaReader.boundedCount_parses "attribute" _).bind fun attributeCount _ _ =>
          (decodeAttribute_parses.repeatM attributeCount).bind fun attributes _ _ =>
            (AaaReader.boundedCount_parses "child" _).bind fun childCount _ _ =>
              (children_parses ih childCount admitted).bind fun children _ _ =>
                parses_pure _).congr fun r w => ?_
    obtain ⟨⟨name, text, attributes, children⟩, after⟩ := r
    subst hadmitted
    constructor
    · intro ⟨_, a, _, ha, ⟨_, b, _, hb, ⟨_, c, _, hc, ⟨_, d, _, ⟨hcount, hd⟩, ⟨_, e, _, he,
        ⟨_, f, _, ⟨hlen, hf⟩, ⟨hr, hnil⟩, h₆⟩, h₅⟩, h₄⟩, h₃⟩, h₂⟩, h₁⟩
      cases hr
      subst hcount hlen hnil
      refine ⟨hdepth, hwide, hmany, a ++ (b ++ (c ++ (d ++ e))), f,
        ⟨a, b, c, d, e, ha, hb, hc, hd, he, rfl⟩, hf, ?_⟩
      rw [h₁, h₂, h₃, h₄, h₅, h₆]
      simp only [List.append_assoc, List.append_nil]
    · intro ⟨_, _, _, _, f, ⟨a, b, c, d, e, ha, hb, hc, hd, he, hhead⟩, hf, hw⟩
      refine ⟨name, a, _, ha, ⟨text, b, _, hb, ⟨_, c, _, hc, ⟨attributes, d, _, ⟨rfl, hd⟩,
        ⟨_, e, _, he, ⟨(children, after), f, [], ⟨rfl, hf⟩, ⟨rfl, rfl⟩,
          rfl⟩, rfl⟩, rfl⟩, rfl⟩, rfl⟩, ?_⟩
      rw [hw, hhead]
      simp only [List.append_assoc, List.append_nil]

/-! ## The writer -/

theorem pushI32_emits (value : Nat) : Emits (pushI32 value) fun _ w => countFormat value w := by
  refine (Emits.guard AaaError.arithmeticOverflow fun hle =>
    PacketWriter.writeI32_emits (not_lt.mp hle)).congr fun _ w => ?_
  exact and_iff_right_of_imp fun h => not_lt.mpr h.1

theorem pushUtf16_emits (value : Text) : Emits (pushUtf16 value limits) fun _ w =>
    stringFormat limits.maxStringUtf16Units value w := by
  refine (Emits.guard (AaaError.stringTooLong (encodeUtf16 value).length
    limits.maxStringUtf16Units) fun _ => (pushI32_emits (encodeUtf16 value).length).bind
      fun _ _ _ => Emits.forM (fun unit => PacketWriter.writeBytes_emits (leBytes 2 unit))
        (encodeUtf16 value)).congr fun _ w => ?_
  unfold stringFormat stringBytes
  constructor
  · intro ⟨hmax, _, u, v, ⟨hle, hu⟩, hv, hw⟩
    refine ⟨not_lt.mp hmax, hle, ?_⟩
    rw [hw, hu, (PacketWriter.list_bytes (leBytes 2) _ v).mp hv]
  · intro ⟨hmax, hle, hw⟩
    exact ⟨not_lt.mpr hmax, ⟨⟩, _, _, ⟨hle, rfl⟩, (PacketWriter.list_bytes (leBytes 2) _ _).mpr rfl,
      hw⟩

theorem encodeAttribute_emits (entry : Text × Text) :
    Emits (encodeAttribute limits entry) fun _ w => attributeFormat limits.bml entry w := by
  refine ((pushUtf16_emits entry.1).bind fun _ _ _ => pushUtf16_emits entry.2).congr fun _ w => ?_
  constructor
  · intro ⟨_, u, v, hname, hvalue, hw⟩
    exact ⟨u, v, hname, hvalue, hw⟩
  · intro ⟨u, v, hname, hvalue, hw⟩
    exact ⟨⟨⟩, u, v, hname, hvalue, hw⟩

mutual

/-- The writer follows the format. -/
theorem encodeAaaNode_emits (depth : Nat) : (n : AaaNode) → (before : Nat) →
    Emits (encodeAaaNode limits depth n before) fun after w =>
      n.format limits depth before after w
  | .node name text attributes children, before => by
    rw [encodeAaaNode]
    refine ((emits_liftResult (admitNode limits depth before)).bind fun admitted _ _ =>
      (pushUtf16_emits name).bind fun _ _ _ => (pushUtf16_emits text).bind fun _ _ _ =>
        (emits_liftResult (checkCount "attribute" attributes.length _)).bind fun _ _ _ =>
          (pushI32_emits attributes.length).bind fun _ _ _ =>
            (Emits.forM encodeAttribute_emits attributes).bind fun _ _ _ =>
              (emits_liftResult (checkCount "child" children.length _)).bind fun _ _ _ =>
                (pushI32_emits children.length).bind fun _ _ _ =>
                  encodeAaaNodes_emits (depth + 1) children admitted).congr fun after w => ?_
    constructor
    · intro ⟨_, _, _, ⟨hok, h₀⟩, ⟨_, a, _, ha, ⟨_, b, _, hb, ⟨_, _, _, ⟨hcount, hnil⟩, ⟨_, c, _, hc,
        ⟨_, d, _, hd, ⟨_, _, _, ⟨hcount', hnil'⟩, ⟨_, e, f, he, hf, h₇⟩, h₆⟩, h₅⟩, h₄⟩, h₃⟩, h₂⟩, h₁⟩,
          hw⟩
      obtain ⟨hdepth, hwide, hmany, hadmitted⟩ := admitNode_ok.mp hok
      subst hadmitted
      refine ⟨hdepth, hwide, hmany, a ++ (b ++ (c ++ (d ++ e))), f, ⟨a, b, c, d, e, ha, hb,
        ⟨AaaReader.checkCount_ok.mp hcount, hc⟩, hd, ⟨AaaReader.checkCount_ok.mp hcount', he⟩, rfl⟩,
          hf, ?_⟩
      rw [hw, h₀, h₁, h₂, h₃, hnil, h₄, h₅, h₆, hnil', h₇]
      simp only [List.append_assoc, List.nil_append]
    · intro ⟨hdepth, hwide, hmany, _, f, ⟨a, b, c, d, e, ha, hb, ⟨hcount, hc⟩, hd, ⟨hcount', he⟩,
        hhead⟩, hf, hw⟩
      refine ⟨before + 1, [], _, ⟨admitNode_ok.mpr ⟨hdepth, hwide, hmany, rfl⟩, rfl⟩,
        ⟨⟨⟩, a, _, ha, ⟨⟨⟩, b, _, hb, ⟨(), [], _, ⟨AaaReader.checkCount_ok.mpr hcount, rfl⟩,
          ⟨⟨⟩, c, _, hc, ⟨⟨⟩, d, _, hd, ⟨(), [], _, ⟨AaaReader.checkCount_ok.mpr hcount', rfl⟩,
            ⟨⟨⟩, e, f, he, hf, rfl⟩, rfl⟩, rfl⟩, rfl⟩, rfl⟩, rfl⟩, rfl⟩, ?_⟩
      rw [hw, hhead]
      simp only [List.append_assoc, List.nil_append]

theorem encodeAaaNodes_emits (depth : Nat) : (nodes : List AaaNode) → (before : Nat) →
    Emits (encodeAaaNodes limits depth nodes before) fun after w =>
      AaaNode.formats limits depth nodes before after w
  | [], before => emits_pure before
  | child :: rest, before => by
    refine ((encodeAaaNode_emits depth child before).bind fun between _ _ =>
      encodeAaaNodes_emits depth rest between).congr fun after w => ?_
    exact Iff.rfl

end

/-! ## Both directions -/

/-- The bytes of a tree under some limits. -/
def AaaNode.Encodes (n : AaaNode) (limits : AaaLimits) (bytes : List UInt8) : Prop :=
  validateLimits limits = .ok () ∧ bytes.length ≤ limits.maxPlaintextBytes ∧
    ∃ after, n.format limits 0 0 after bytes

theorem decodeBinaryXml_ok {bytes : List UInt8} {n : AaaNode} :
    AaaNode.decodeBinaryXml bytes limits = .ok n ↔ n.Encodes limits bytes := by
  unfold AaaNode.decodeBinaryXml AaaNode.Encodes
  rw [bind_eq_ok_iff]
  by_cases hlarge : limits.maxPlaintextBytes < bytes.length
  · simp only [if_pos hlarge]
    refine iff_of_false ?_ ?_
    · intro ⟨_, _, h⟩
      cases h
    · intro ⟨_, hle, _⟩
      omega
  · simp only [if_neg hlarge]
    have hparses : Parses (decodeAaaNode limits 0 0) fun r w => r.1.format limits 0 0 r.2 w :=
      decodeAaaNode_parses 0 0
    constructor
    · intro ⟨_, hlimits, h⟩
      obtain ⟨⟨n', after⟩, hformat, hn⟩ := (hparses.scan_whole .trailingBinaryXml Prod.fst).mp h
      subst hn
      exact ⟨hlimits, by omega, after, hformat⟩
    · intro ⟨hlimits, _, after, hformat⟩
      exact ⟨(), hlimits, (hparses.scan_whole .trailingBinaryXml Prod.fst).mpr
        ⟨(n, after), hformat, rfl⟩⟩

theorem encodeBinaryXml_ok {n : AaaNode} {bytes : List UInt8} :
    n.encodeBinaryXml limits = .ok bytes ↔ n.Encodes limits bytes := by
  unfold AaaNode.encodeBinaryXml AaaNode.Encodes
  simp only [bind_eq_ok_iff]
  refine ⟨fun ⟨_, hlimits, out, hout, h⟩ => ?_, fun ⟨hlimits, hle, hformat⟩ => ?_⟩
  · have hformat := (encodeAaaNode_emits 0 n 0).emit_ok.mp hout
    split at h
    next => cases h
    next hle =>
      cases h
      exact ⟨hlimits, by omega, hformat⟩
  · refine ⟨(), hlimits, bytes, (encodeAaaNode_emits 0 n 0).emit_ok.mpr hformat, ?_⟩
    rw [if_neg (by omega)]
    rfl

/-! ## The wrapper -/

/-- The payload around a compressed plaintext. -/
def krPayload (plaintext compressed : List UInt8) : List UInt8 :=
  [krDataMagic] ++ ([krDataCompressed] ++ (wordBytes (adler32 plaintext) ++
    (leBytes 4 plaintext.length ++ compressed)))

theorem length_krPayload (plaintext compressed : List UInt8) :
    (krPayload plaintext compressed).length = 10 + compressed.length := by
  unfold krPayload
  simp only [List.length_append, List.length_singleton, length_wordBytes, length_leBytes]
  omega

variable {zlib : Zlib}

/-- What `encode` writes. -/
theorem encode_ok {document : AaaDocument} {bytes : List UInt8}
    (h : document.encode zlib limits = .ok bytes) :
    ∃ plaintext compressed, validateLimits limits = .ok () ∧
      document.root.Encodes limits plaintext ∧ zlib.compress plaintext = .ok compressed ∧
      bytes.length ≤ limits.maxFileBytes ∧ plaintext.length ≤ i32Max ∧
      10 + compressed.length ≤ i32Max ∧
      bytes = leBytes 4 (10 + compressed.length) ++ krPayload plaintext compressed := by
  obtain ⟨_, hlimits, h⟩ := bind_eq_ok h
  obtain ⟨plaintext, hplain, h⟩ := bind_eq_ok h
  obtain ⟨compressed, hcompress, h⟩ := bind_eq_ok h
  have hstored : zlib.compress plaintext = .ok compressed := by
    cases hc : zlib.compress plaintext with
    | error e =>
      rw [hc] at hcompress
      cases hcompress
    | ok made =>
      rw [hc] at hcompress
      cases hcompress
      rfl
  dsimp only at h
  split at h
  next => cases h
  next =>
    split at h
    next => cases h
    next =>
      split at h
      next => cases h
      next hfile =>
        have hemits := (pushI32_emits (10 + compressed.length)).bind fun _ _ _ =>
          (PacketWriter.writeBytes_emits [krDataMagic]).bind fun _ _ _ =>
            (PacketWriter.writeBytes_emits [krDataCompressed]).bind fun _ _ _ =>
              (PacketWriter.writeBytes_emits (wordBytes (adler32 plaintext))).bind fun _ _ _ =>
                (pushI32_emits plaintext.length).bind fun _ _ _ =>
                  PacketWriter.writeBytes_emits compressed
        obtain ⟨_, _, a, _, ⟨hpayload, ha⟩, ⟨_, b, _, hb, ⟨_, c, _, hc, ⟨_, d, _, hd,
          ⟨_, e, f, ⟨hlength, he⟩, hf, h₅⟩, h₄⟩, h₃⟩, h₂⟩, h₁⟩ := hemits.emit_ok.mp h
        have hbytes : bytes = leBytes 4 (10 + compressed.length) ++
            krPayload plaintext compressed := by
          rw [h₁, h₂, h₃, h₄, h₅, ha, hb, hc, hd, he, hf]
          rfl
        refine ⟨plaintext, compressed, hlimits, encodeBinaryXml_ok.mp hplain, hstored, ?_, hlength,
          hpayload, hbytes⟩
        rw [hbytes, List.length_append, length_leBytes, length_krPayload]
        omega

theorem inflateBody_compressed (hz : zlib.Lossless) {plaintext compressed : List UInt8}
    (hstored : zlib.compress plaintext = .ok compressed)
    (hmax : plaintext.length ≤ limits.maxPlaintextBytes) (hlength : plaintext.length ≤ i32Max) :
    inflateBody zlib limits compressed plaintext.length = .ok plaintext := by
  have hlimit : plaintext.length < min (plaintext.length + 1) u64Max := by
    have hwide : plaintext.length < u64Max := lt_of_le_of_lt hlength (by decide)
    exact lt_min (Nat.lt_succ_self _) hwide
  unfold inflateBody
  rw [if_neg (by omega), hz hstored hlimit]
  refine bind_eq_ok_iff.mpr ⟨(plaintext, compressed.length), rfl, ?_⟩
  rw [if_neg (by simp), if_neg (by simp)]
  rfl

/-- The plaintext is what `decode_kr_data` reads from its payload. -/
theorem decodeKrData_reads (hz : zlib.Lossless) {plaintext compressed : List UInt8}
    (hstored : zlib.compress plaintext = .ok compressed)
    (hmax : plaintext.length ≤ limits.maxPlaintextBytes) (hlength : plaintext.length ≤ i32Max) :
    Reads (decodeKrData zlib limits) (krPayload plaintext compressed) plaintext [] := by
  have hplain : krDataPlaintext zlib limits compressed (some plaintext.length) = .ok plaintext :=
    inflateBody_compressed hz hstored hmax hlength
  have hcount := (AaaReader.nonnegativeI32_parses "KRData plaintext length").reads
    ⟨hlength, rfl⟩ compressed
  unfold decodeKrData krPayload
  refine ((AaaReader.u8_parses "KRData magic").reads rfl _).bind ?_
  rw [if_neg (by simp)]
  refine ((AaaReader.u8_parses "KRData mode").reads rfl _).bind ?_
  rw [if_neg (by decide)]
  refine ((AaaReader.u32_parses "KRData checksum").reads rfl _).bind ?_
  -- The mode of a compressed block: no key, and a length.
  have hkey : Reads (flagged krDataCompressed krDataEncrypted
      (AaaReader.u32 "KRData encryption key")) (leBytes 4 plaintext.length ++ compressed) none
        (leBytes 4 plaintext.length ++ compressed) := flagged_off (by decide) _ _
  have hcounted : Reads (flagged krDataCompressed krDataCompressed
      (AaaReader.nonnegativeI32 "KRData plaintext length"))
        (leBytes 4 plaintext.length ++ compressed) (some plaintext.length) compressed :=
    flagged_on (by decide) hcount
  refine hkey.bind (hcounted.bind (reads_get_bind fun c hc => ?_))
  rw [hc]
  refine (takeElse_reads _ compressed).bind ((reads_liftResult hplain []).bind ?_)
  rw [if_neg (by simp)]
  exact reads_pure plaintext []

/-- A document is what its encoding decodes to, under the same limits. -/
theorem decode_of_encode (hz : zlib.Lossless) {document : AaaDocument} {bytes : List UInt8}
    (h : document.encode zlib limits = .ok bytes) :
    AaaDocument.decode zlib bytes limits = .ok document := by
  obtain ⟨plaintext, compressed, hlimits, hroot, hstored, hfile, hlength, hpayload, hbytes⟩ :=
    encode_ok h
  have houter : scan (do
      let payloadLength ← AaaReader.nonnegativeI32 "KRData payload length"
      let reader ← get
      if payloadLength ≠ reader.remaining.length then
        throw (.payloadLength payloadLength reader.remaining.length)
      else AaaReader.take payloadLength "KRData payload") bytes =
        .ok (krPayload plaintext compressed) := by
    have hcount := (AaaReader.nonnegativeI32_parses "KRData payload length").reads
      ⟨hpayload, rfl⟩ (krPayload plaintext compressed)
    have hrest : Reads (AaaReader.take (10 + compressed.length) "KRData payload")
        (krPayload plaintext compressed) (krPayload plaintext compressed) [] := by
      rw [← length_krPayload plaintext compressed]
      exact takeElse_reads _ _
    rw [hbytes]
    have htail : Reads (do
        let reader ← get
        if 10 + compressed.length ≠ reader.remaining.length then
          throw (.payloadLength (10 + compressed.length) reader.remaining.length)
        else AaaReader.take (10 + compressed.length) "KRData payload")
        (krPayload plaintext compressed) (krPayload plaintext compressed) [] := by
      refine reads_get_bind fun c hc => ?_
      rw [hc, length_krPayload, if_neg (by simp)]
      exact hrest
    exact (hcount.bind htail).scan
  unfold AaaDocument.decode
  simp only [bind_eq_ok_iff]
  refine ⟨(), hlimits, ?_⟩
  rw [if_neg (by omega)]
  simp only [bind_eq_ok_iff]
  exact ⟨_, houter, plaintext, (decodeKrData_reads hz hstored hroot.2.1 hlength).scan,
    document.root, decodeBinaryXml_ok.mpr hroot, rfl⟩

end P4475
