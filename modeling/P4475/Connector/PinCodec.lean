import P4475.Connector.PinReadBack

/-!
# PIN files written and read

A document that was read, or one that is like it in `PinDocument.Readable`, comes back from
what it encodes to: in both layouts, and from a block without the magic as well, for its
encoding is the one that is written.
-/

namespace P4475

open Lib Crypto WireReader

section Payload

variable {maximum : Nat} {limits : CodecLimits}

theorem readEndpoint_back (endpoint : SocketAddrV4) :
    ReadsBack readEndpoint (writeEndpoint maximum endpoint) fun _ => endpoint := by
  obtain ⟨⟨first, second, third, fourth⟩, port⟩ := endpoint
  refine ((WireWriter.writeBytes_writes [first, second, third, fourth]).bind fun _ _ =>
    WireWriter.writeBytes_writes (leBytes 2 port.toNat)).readsBack fun _ _ rest => ?_
  show Reads readEndpoint ([first] ++ ([second] ++ ([third] ++ ([fourth] ++
    (leBytes 2 port.toNat ++ rest))))) _ rest
  exact (readU8_reads first _).bind ((readU8_reads second _).bind ((readU8_reads third _).bind
    ((readU8_reads fourth _).bind ((readU16_reads port rest).bind (reads_pure _ rest)))))

theorem readEndpoints_back (endpoints : List SocketAddrV4) :
    ReadsBack (readEndpoints endpoints.length) (endpoints.forM (writeEndpoint maximum))
      fun _ => endpoints :=
  ReadsBack.repeatM readEndpoint_back endpoints

/-- The configurations of a method are well formed. -/
def AuthMethod.WellFormed (method : AuthMethod) : Prop :=
  (∀ tree ∈ method.accountConfig, tree.WellFormed) ∧
    ∀ tree ∈ method.extraConfig, tree.WellFormed

theorem readAuthMethod_back (method : AuthMethod) (h : method.WellFormed) (nodes : Nat) :
    ReadsBack (readAuthMethod limits nodes) (writeAuthMethod maximum limits method nodes)
      fun after => (method, after) :=
  (readU8_back method.index).bind fun _ => (readString_back method.name).bind fun _ =>
    (readOptionalBml_back method.accountConfig h.1 nodes).bind fun _ =>
      (readCount_back method.loginServers.length _ _).bind fun _ =>
        (readEndpoints_back method.loginServers).bind fun _ =>
          (readOptionalBml_back method.extraConfig h.2 _).map fun read =>
            (AuthMethod.mk method.index method.name method.accountConfig method.loginServers read.1,
              read.2)

theorem readAuthMethods_back (methods : List AuthMethod) (h : ∀ method ∈ methods, method.WellFormed)
    (nodes : Nat) : ReadsBack (repeatCounting (readAuthMethod limits) methods.length nodes)
      (writeAuthMethods maximum limits methods nodes) fun after => (methods, after) := by
  induction methods generalizing nodes with
  | nil => exact readsBack_pure (fun after => ([], after)) nodes
  | cons method rest ih =>
    obtain ⟨hfirst, hrest⟩ := List.forall_mem_cons.mp h
    exact (readAuthMethod_back method hfirst nodes).bind fun between =>
      (ih hrest between).map fun read => (method :: read.1, read.2)

/-- The header without what only one of the layouts has, or has in another place. -/
def PinHeader.common (header : PinHeader) : PinHeader :=
  { header with loginType := 0, aesKey := [], url := [], patchUrl := [] }

theorem readHeader_back (header : PinHeader) :
    ReadsBack readHeader (writeHeader maximum header) fun _ => header.common :=
  (readU8_back header.objectVersion).bind fun _ => (readU16_back header.localeId).bind fun _ =>
    (readU16_back header.clientLocation).bind fun _ => (readU8_back header.localeType).bind fun _ =>
      (readU8_back header.unknown3).bind fun _ => (readU16_back header.minorVersion).bind fun _ =>
        (readU8_back header.unknown4).bind fun _ => (readU8_back header.unknown5).map fun unknown5 =>
          { header.common with unknown5 := unknown5 }

/-- A configuration that was written is there to be read. -/
theorem readTrailingBml_back (config : Option BmlObject) (h : ∀ tree ∈ config, tree.WellFormed)
    (nodes : Nat) : ReadsBack (readTrailingBml limits nodes)
      (writeOptionalBml maximum limits config nodes) fun after => (config, after) := by
  intro out after out' hy
  obtain ⟨symbols, hout, hread⟩ := readOptionalBml_back config h nodes out after out' hy
  refine ⟨symbols, hout, fun rest => ?_⟩
  have hpresent : symbols ++ rest ≠ [] := by
    intro hempty
    obtain ⟨c, hc, _⟩ := hread rest ⟨[], 0⟩ hempty.symm
    obtain ⟨present, c', hbool, _⟩ := yields_bind.mp hc
    obtain ⟨byte, c'', hbyte, _⟩ := yields_bind.mp hbool
    exact remaining_of_readU8 hbyte rfl
  refine reads_get_bind fun c hc => ?_
  rw [hc, if_neg hpresent]
  exact hread rest

end Payload

/-- What the reader can make: an encoding with a key where it enciphers, trees whose attributes
have distinct keys, and in the layout of version 1 nothing that it has no place for. -/
structure PinDocument.Readable (pin : PinDocument) : Prop where
  keyed : EncodedBlock.Keyed pin.encoding
  methods : ∀ method ∈ pin.authMethods, method.WellFormed
  storage : ∀ tree ∈ pin.storageConfig, tree.WellFormed
  extra : ∀ tree ∈ pin.extraConfig, tree.WellFormed
  legacy : pin.header.objectVersion = 1 → pin.header =
      { pin.header.common with loginType := 2, url := pin.header.url } ∧
    pin.storageConfig = none ∧ pin.extraConfig = none ∧
    ∃ loginServers, pin.authMethods = [⟨1, "Default".toList, none, loginServers, none⟩]

section Document

variable {zlib : Zlib} {limits : CodecLimits} {pin : PinDocument}

namespace PinDocument

/-- The layout of version 1 has the servers of the one method it knows. -/
theorem readLegacyBody_back {maximum : Nat} {loginServers : List SocketAddrV4}
    (h : pin.authMethods = [⟨1, "Default".toList, none, loginServers, none⟩]) :
    ReadsBack (readLegacyBody limits pin.header.common) (writeLegacyBody maximum limits pin)
      fun _ => ⟨{ pin.header.common with loginType := 2, url := pin.header.url },
        pin.authMethods, none, none⟩ := by
  have hendpoints : pin.authMethods.flatMap (·.loginServers) = loginServers := by
    rw [h]
    exact List.append_nil loginServers
  unfold writeLegacyBody
  rw [hendpoints, h]
  exact (readString_back pin.header.url).bind fun _ => ReadsBack.unless fun _ =>
    (readCount_back loginServers.length _ _).bind fun _ =>
      (readEndpoints_back loginServers).map fun servers =>
        PinBody.mk { pin.header.common with loginType := 2, url := pin.header.url }
          [⟨1, "Default".toList, none, servers, none⟩] none none

theorem readBody_back {maximum : Nat} (h : pin.Readable) :
    ReadsBack (readBody limits pin.header.common) (writeBody maximum limits pin)
      fun _ => ⟨pin.header, pin.authMethods, pin.storageConfig, pin.extraConfig⟩ := by
  refine (readU8_back pin.header.loginType).bind fun _ =>
    (readString_back pin.header.aesKey).bind fun _ => (readString_back pin.header.url).bind fun _ =>
      (readString_back pin.header.patchUrl).bind fun _ =>
        (readCount_back pin.authMethods.length _ _).bind fun _ =>
          (readAuthMethods_back pin.authMethods h.methods 0).bind fun _ =>
            (readTrailingBml_back pin.storageConfig h.storage _).bind fun _ =>
              (readTrailingBml_back pin.extraConfig h.extra _).bind fun _ => ?_
  exact readsBack_pure (fun _ =>
    PinBody.mk pin.header pin.authMethods pin.storageConfig pin.extraConfig) PUnit.unit

/-- The part of a payload that depends on the layout. -/
theorem readLayout_back {maximum : Nat} (h : pin.Readable) :
    ReadsBack (if pin.header.common.objectVersion = 1 then readLegacyBody limits pin.header.common
        else readBody limits pin.header.common)
      (if pin.header.objectVersion = 1 then writeLegacyBody maximum limits pin
        else writeBody maximum limits pin)
      fun _ => ⟨pin.header, pin.authMethods, pin.storageConfig, pin.extraConfig⟩ := by
  have hsame : pin.header.common.objectVersion = pin.header.objectVersion := rfl
  rw [hsame]
  by_cases hversion : pin.header.objectVersion = 1
  · rw [if_pos hversion, if_pos hversion]
    obtain ⟨hheader, hstorage, hextra, loginServers, hmethods⟩ := h.legacy hversion
    rw [hstorage, hextra]
    have hback : ReadsBack (readLegacyBody limits pin.header.common)
        (writeLegacyBody maximum limits pin) _ := readLegacyBody_back hmethods
    rw [← hheader] at hback
    exact hback
  · rw [if_neg hversion, if_neg hversion]
    exact readBody_back h

theorem encodePayload_eq : pin.encodePayload limits = (do
    WireWriter.writeU32 limits.maxDecodedBlockBytes p4475PinMagic
    writeHeader limits.maxDecodedBlockBytes pin.header
    (if pin.header.objectVersion = 1 then writeLegacyBody limits.maxDecodedBlockBytes limits pin
      else writeBody limits.maxDecodedBlockBytes limits pin : Writing PinCodecError PUnit) >>=
        fun _ => WireWriter.writeBytes limits.maxDecodedBlockBytes pin.trailingPayload) := by
  unfold encodePayload
  split
  next => rfl
  next => rfl

theorem readPayload_of_emit {payload : List UInt8} (h : pin.Readable)
    (hpayload : emit (pin.encodePayload limits) = .ok payload) :
    scan (readPayload limits pin.encoding pin.trailingEnvelope) payload = .ok pin := by
  obtain ⟨u, hy⟩ := emit_ok.mp hpayload
  rw [encodePayload_eq] at hy
  obtain ⟨_, _, hmagic, hy⟩ := yields_bind.mp hy
  obtain ⟨_, _, hheader, hy⟩ := yields_bind.mp hy
  obtain ⟨_, _, hlayout, htrailing⟩ := yields_bind.mp hy
  obtain ⟨magic, hout, hmagic⟩ := readU32_back _ _ _ _ hmagic
  obtain ⟨header, hout', hheader⟩ := readHeader_back _ _ _ _ hheader
  obtain ⟨layout, hout'', hlayout⟩ := readLayout_back h _ _ _ hlayout
  obtain ⟨_, hpayload⟩ := WireWriter.writeBytes_writes _ _ _ _ htrailing
  have hall : payload = magic ++ (header ++ (layout ++ pin.trailingPayload)) := by
    rw [hpayload, hout'', hout', hout]
    simp only [List.nil_append, List.append_assoc]
  have hread : Reads (readPayload limits pin.encoding pin.trailingEnvelope) payload pin
      pin.trailingPayload := by
    rw [hall]
    refine (hmagic _).bind ?_
    rw [if_neg (by simp)]
    refine (hheader _).bind ?_
    have hend : Reads (do
        let place ← get
        return ⟨pin.header, pin.authMethods, pin.storageConfig, pin.extraConfig, pin.encoding,
          place.remaining, pin.trailingEnvelope⟩ : Reading PinCodecError PinDocument)
        pin.trailingPayload pin pin.trailingPayload := by
      refine reads_get_bind fun c hc => ?_
      rw [hc]
      exact reads_pure pin _
    by_cases hversion : pin.header.common.objectVersion = 1
    · rw [if_pos hversion] at hlayout ⊢
      exact (hlayout _).bind hend
    · rw [if_neg hversion] at hlayout ⊢
      exact (hlayout _).bind hend
  exact hread.scan

/-- **What is written is read back as the same document.** -/
theorem decode_of_encode {output : List UInt8} (hz : zlib.Lossless) (h : pin.Readable)
    (hok : pin.encodeWithLimits zlib limits = .ok output) :
    decodeWithLimits zlib output limits = .ok pin := by
  obtain ⟨payload, hpayload, hok⟩ := bind_eq_ok hok
  obtain ⟨encoded, hencoded, hok⟩ := bind_eq_ok hok
  have hblock := mapError_eq_ok.mp hencoded
  obtain ⟨_, _, _, hencodedMax, _⟩ := EncodedBlock.encode_ok h.keyed hblock
  dsimp only at hok
  split at hok
  next => cases hok
  next hwide =>
    split at hok
    next => cases hok
    next =>
      obtain ⟨_, hfile, hok⟩ := bind_eq_ok hok
      have hlength := enforceLimit_ok.mp hfile
      have houtput : Writes (writeEnvelope limits.maxPinFileBytes encoded pin.trailingEnvelope)
          (fun _ => True) (leBytes 4 encoded.length ++ (encoded ++ pin.trailingEnvelope)) := by
        unfold writeEnvelope WireWriter.writeI32
        rw [PacketWriter.twosComplement_natCast (by omega)]
        exact (WireWriter.writeBytes_writes _).bind fun _ _ =>
          (WireWriter.writeBytes_writes _).bind fun _ _ => WireWriter.writeBytes_writes _
      obtain ⟨hbytes, _⟩ := houtput.emit hok
      -- the envelope
      have henvelope : Reads (readEnvelope limits) output (encoded, pin.trailingEnvelope)
          pin.trailingEnvelope := by
        rw [hbytes]
        refine (readCount_reads (by omega) hencodedMax _ _).bind ((take_reads rfl _).bind ?_)
        refine reads_get_bind fun c hc => ?_
        rw [hc]
        exact reads_pure _ _
      refine bind_eq_ok_iff.mpr ⟨(), enforceLimit_ok.mpr ?_, ?_⟩
      · rw [hbytes]
        simp only [List.length_append, length_leBytes]
        omega
      · refine bind_eq_ok_iff.mpr ⟨_, henvelope.scan, ?_⟩
        -- the block in it, then the payload
        have hdecoded := EncodedBlock.decode_of_encode hz h.keyed hblock
        refine bind_eq_ok_iff.mpr ⟨_, mapError_eq_ok.mpr hdecoded, ?_⟩
        exact readPayload_of_emit h hpayload

/-! ## What the reader makes -/

theorem readHeader_common : Ensures readHeader fun header => header.common = header := by
  iterate 7 refine (ensures_true _).bind fun _ _ => ?_
  exact (ensures_true _).bind fun _ _ => ensures_pure rfl

theorem readAuthMethod_wellFormed (nodes : Nat) :
    Ensures (readAuthMethod limits nodes) fun read => read.1.WellFormed := by
  refine (ensures_true _).bind fun _ _ => (ensures_true _).bind fun _ _ =>
    (readOptionalBml_wellFormed nodes).bind fun account haccount =>
      (ensures_true _).bind fun _ _ => (ensures_true _).bind fun _ _ =>
        (readOptionalBml_wellFormed account.2).bind fun extra hextra => ?_
  exact ensures_pure ⟨haccount, hextra⟩

theorem readTrailingBml_wellFormed (nodes : Nat) :
    Ensures (readTrailingBml limits nodes) fun read => ∀ tree ∈ read.1, tree.WellFormed := by
  refine (ensures_true _).bind fun payload _ => ?_
  split
  next =>
    refine ensures_pure fun tree htree => ?_
    cases htree
  next => exact readOptionalBml_wellFormed nodes

/-- What a body is, in the layout of its header. -/
structure BodyOk (header : PinHeader) (body : PinBody) : Prop where
  version : body.header.objectVersion = header.objectVersion
  methods : ∀ method ∈ body.authMethods, method.WellFormed
  storage : ∀ tree ∈ body.storageConfig, tree.WellFormed
  extra : ∀ tree ∈ body.extraConfig, tree.WellFormed
  legacy : header.objectVersion = 1 → body.header =
      { body.header.common with loginType := 2, url := body.header.url } ∧
    body.storageConfig = none ∧ body.extraConfig = none ∧
    ∃ loginServers, body.authMethods = [⟨1, "Default".toList, none, loginServers, none⟩]

theorem readLegacyBody_ok {header : PinHeader} (h : header.common = header) :
    Ensures (readLegacyBody limits header) (BodyOk header) := by
  refine (ensures_true _).bind fun url _ => (ensures_true _).bind fun _ _ =>
    (ensures_true _).bind fun loginServers _ => ensures_pure ?_
  refine ⟨rfl, fun method hmethod => ?_, fun tree htree => ?_, fun tree htree => ?_, fun _ => ?_⟩
  · rw [List.mem_singleton.mp hmethod]
    constructor
    · intro tree htree
      cases htree
    · intro tree htree
      cases htree
  · cases htree
  · cases htree
  · rw [← h]
    exact ⟨rfl, rfl, rfl, loginServers, rfl⟩

theorem readBody_ok {header : PinHeader} (h : header.objectVersion ≠ 1) :
    Ensures (readBody limits header) (BodyOk header) := by
  iterate 5 refine (ensures_true _).bind fun _ _ => ?_
  refine (Ensures.repeatCounting (fun nodes => readAuthMethod_wellFormed nodes) _ _).bind
    fun methods hmethods => (readTrailingBml_wellFormed _).bind fun storage hstorage =>
      (readTrailingBml_wellFormed _).bind fun extra hextra => ensures_pure ?_
  exact ⟨rfl, hmethods, hstorage, hextra, fun hversion => absurd hversion h⟩

/-- **Every document that is read is one that comes back.** -/
theorem decode_readable {input : List UInt8} (h : decodeWithLimits zlib input limits = .ok pin) :
    pin.Readable := by
  obtain ⟨_, _, h⟩ := bind_eq_ok h
  obtain ⟨envelope, _, h⟩ := bind_eq_ok h
  obtain ⟨decoded, hdecoded, h⟩ := bind_eq_ok h
  have hkeyed := EncodedBlock.decode_keyed (mapError_eq_ok.mp hdecoded)
  have hpayload : Ensures (readPayload limits decoded.encoding envelope.2) Readable := by
    refine (ensures_true _).bind fun magic _ => Ensures.unless fun _ =>
      readHeader_common.bind fun header hheader => ?_
    have hend : ∀ body, BodyOk header body → Ensures (do
        let place ← get
        return ⟨body.header, body.authMethods, body.storageConfig, body.extraConfig,
          decoded.encoding, place.remaining, envelope.2⟩ : Reading PinCodecError PinDocument)
        Readable := by
      intro body hbody
      refine (ensures_true _).bind fun place _ => ensures_pure ?_
      refine ⟨hkeyed, hbody.methods, hbody.storage, hbody.extra, fun hversion => ?_⟩
      exact hbody.legacy (hbody.version.symm.trans hversion)
    by_cases hversion : header.objectVersion = 1
    · rw [if_pos hversion]
      exact (readLegacyBody_ok hheader).bind hend
    · rw [if_neg hversion]
      exact (readBody_ok hversion).bind hend
  exact hpayload.scan h

end PinDocument

end Document

end P4475
