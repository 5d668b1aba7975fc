import P4475.Connector.EncodedBlock

/-!
# PIN documents

`p4475-connector/src/pin.rs`: the reader and the writer of the payload in both of its
layouts, the envelope around the block, and the patch with its verification.
-/

namespace P4475

open Lib Crypto WireReader

/-- `P4475_PIN_MAGIC`. -/
def p4475PinMagic : UInt32 := 0x10EF037E

/-- `P4475_MINOR_VERSION`. -/
def p4475MinorVersion : UInt16 := 4475

structure PinHeader where
  objectVersion : UInt8 := 0
  localeId : UInt16 := 0
  clientLocation : UInt16 := 0
  localeType : UInt8 := 0
  unknown3 : UInt8 := 0
  minorVersion : UInt16 := 0
  unknown4 : UInt8 := 0
  unknown5 : UInt8 := 0
  loginType : UInt8 := 0
  aesKey : Text := []
  url : Text := []
  patchUrl : Text := []
  deriving DecidableEq

/-- `std::net::SocketAddrV4`. -/
structure SocketAddrV4 where
  octets : UInt8 × UInt8 × UInt8 × UInt8
  port : UInt16
  deriving DecidableEq

structure AuthMethod where
  index : UInt8
  name : Text
  accountConfig : Option BmlObject
  loginServers : List SocketAddrV4
  extraConfig : Option BmlObject
  deriving DecidableEq

structure PinDocument where
  header : PinHeader
  authMethods : List AuthMethod
  storageConfig : Option BmlObject
  extraConfig : Option BmlObject
  encoding : BlockEncoding
  trailingPayload : List UInt8
  trailingEnvelope : List UInt8
  deriving DecidableEq

structure PinPatchOptions where
  removeNgsOn : Bool
  overrideStorage : Bool
  deriving DecidableEq

structure PinPatchReport where
  authenticationMethods : Nat
  removedNgsOnEntries : Nat
  storageOverridden : Bool
  deriving DecidableEq

/-! ## Reading -/

/-- One turn of `read_endpoints`. -/
def readEndpoint : Reading PinCodecError SocketAddrV4 := do
  let first ← readU8
  let second ← readU8
  let third ← readU8
  let fourth ← readU8
  let port ← readU16
  return ⟨(first, second, third, fourth), port⟩

/-- `read_endpoints`. -/
def readEndpoints (count : Nat) : Reading PinCodecError (List SocketAddrV4) :=
  repeatM readEndpoint count

/-- One turn of the loop over the authentication methods, with the node count it leaves. -/
def readAuthMethod (limits : CodecLimits) (nodes : Nat) :
    Reading PinCodecError (AuthMethod × Nat) := do
  let index ← readU8
  let name ← WireReader.readString limits
  let accountConfig ← readOptionalBml limits nodes
  let endpointCount ← WireReader.readCount "login server count" limits.maxCollectionItems
  let loginServers ← readEndpoints endpointCount
  let extraConfig ← readOptionalBml limits accountConfig.2
  return (⟨index, name, accountConfig.1, loginServers, extraConfig.1⟩, extraConfig.2)

/-- A top-level configuration, which is absent where the payload ends. -/
def readTrailingBml (limits : CodecLimits) (nodes : Nat) :
    Reading PinCodecError (Option BmlObject × Nat) := do
  let payload ← get
  if payload.remaining = [] then return (none, nodes) else readOptionalBml limits nodes

/-- What a payload holds behind the fields that both layouts have. -/
structure PinBody where
  header : PinHeader
  authMethods : List AuthMethod
  storageConfig : Option BmlObject
  extraConfig : Option BmlObject

/-- The payload of an object of version 1. -/
def readLegacyBody (limits : CodecLimits) (header : PinHeader) :
    Reading PinCodecError PinBody := do
  let url ← WireReader.readString limits
  let endpointCount ← WireReader.readCount "legacy login server count" limits.maxCollectionItems
  let loginServers ← readEndpoints endpointCount
  return ⟨{ header with loginType := 2, url := url },
    [⟨1, "Default".toList, none, loginServers, none⟩], none, none⟩

/-- The payload of any other object. -/
def readBody (limits : CodecLimits) (header : PinHeader) : Reading PinCodecError PinBody := do
  let loginType ← readU8
  let aesKey ← WireReader.readString limits
  let url ← WireReader.readString limits
  let patchUrl ← WireReader.readString limits
  let authCount ← WireReader.readCount "authentication method count" limits.maxCollectionItems
  let authMethods ← repeatCounting (readAuthMethod limits) authCount 0
  let storageConfig ← readTrailingBml limits authMethods.2
  let extraConfig ← readTrailingBml limits storageConfig.2
  return ⟨{ header with
      loginType := loginType, aesKey := aesKey, url := url, patchUrl := patchUrl },
    authMethods.1, storageConfig.1, extraConfig.1⟩

/-- The header fields that both layouts have. -/
def readHeader : Reading PinCodecError PinHeader := do
  let objectVersion ← readU8
  let localeId ← readU16
  let clientLocation ← readU16
  let localeType ← readU8
  let unknown3 ← readU8
  let minorVersion ← readU16
  let unknown4 ← readU8
  let unknown5 ← readU8
  return { objectVersion, localeId, clientLocation, localeType, unknown3, minorVersion, unknown4,
           unknown5 }

/-- The payload of `decode_with_limits`. -/
def readPayload (limits : CodecLimits) (encoding : BlockEncoding)
    (trailingEnvelope : List UInt8) : Reading PinCodecError PinDocument := do
  let magic ← readU32
  if magic ≠ p4475PinMagic then throw (.invalidPinMagic p4475PinMagic magic)
  else
    let header ← readHeader
    let body ← if header.objectVersion = 1 then readLegacyBody limits header
      else readBody limits header
    let payload ← get
    return ⟨body.header, body.authMethods, body.storageConfig, body.extraConfig, encoding,
      payload.remaining, trailingEnvelope⟩

/-- The envelope of `decode_with_limits`: the block, and what is behind it. -/
def readEnvelope (limits : CodecLimits) :
    Reading PinCodecError (List UInt8 × List UInt8) := do
  let encodedLength ← WireReader.readCount "encoded block" limits.maxEncodedBlockBytes
  let encoded ← take encodedLength
  let envelope ← get
  return (encoded, envelope.remaining)

namespace PinDocument

/-- `decode_with_limits`. -/
def decodeWithLimits (zlib : Zlib) (input : List UInt8) (limits : CodecLimits) :
    Except PinCodecError PinDocument := do
  enforceLimit "PIN file" input.length limits.maxPinFileBytes
  let envelope ← scan (readEnvelope limits) input
  let decoded ← (EncodedBlock.decode zlib envelope.1 limits).mapError .encodedBlock
  scan (readPayload limits decoded.encoding envelope.2) decoded.bytes

end PinDocument

/-! ## Writing -/

section Writing

variable (maximum : Nat) (limits : CodecLimits)

/-- `write_endpoint`. -/
def writeEndpoint (endpoint : SocketAddrV4) : Writing PinCodecError PUnit := do
  let (first, second, third, fourth) := endpoint.octets
  WireWriter.writeBytes maximum [first, second, third, fourth]
  WireWriter.writeU16 maximum endpoint.port

/-- One turn of the loop over the authentication methods, with the node count it leaves. -/
def writeAuthMethod (authMethod : AuthMethod) (nodes : Nat) : Writing PinCodecError Nat := do
  WireWriter.writeU8 maximum authMethod.index
  WireWriter.writeString maximum authMethod.name limits
  let nodes ← writeOptionalBml maximum limits authMethod.accountConfig nodes
  WireWriter.writeCount maximum authMethod.loginServers.length "login server count"
    limits.maxCollectionItems
  authMethod.loginServers.forM (writeEndpoint maximum)
  writeOptionalBml maximum limits authMethod.extraConfig nodes

/-- The loop over the authentication methods. -/
def writeAuthMethods : List AuthMethod → (nodes : Nat) → Writing PinCodecError Nat
  | [], nodes => return nodes
  | authMethod :: rest, nodes => do
    let nodes ← writeAuthMethod maximum limits authMethod nodes
    writeAuthMethods rest nodes

/-- The header fields that both layouts have. -/
def writeHeader (header : PinHeader) : Writing PinCodecError PUnit := do
  WireWriter.writeU8 maximum header.objectVersion
  WireWriter.writeU16 maximum header.localeId
  WireWriter.writeU16 maximum header.clientLocation
  WireWriter.writeU8 maximum header.localeType
  WireWriter.writeU8 maximum header.unknown3
  WireWriter.writeU16 maximum header.minorVersion
  WireWriter.writeU8 maximum header.unknown4
  WireWriter.writeU8 maximum header.unknown5

/-- The payload of an object of version 1. -/
def writeLegacyBody (pin : PinDocument) : Writing PinCodecError PUnit := do
  WireWriter.writeString maximum pin.header.url limits
  let endpoints := pin.authMethods.flatMap (·.loginServers)
  if usizeMax < endpoints.length then throw (.lengthOverflow "legacy login server count")
  else
    WireWriter.writeCount maximum endpoints.length "legacy login server count"
      limits.maxCollectionItems
    endpoints.forM (writeEndpoint maximum)

/-- The payload of any other object. -/
def writeBody (pin : PinDocument) : Writing PinCodecError PUnit := do
  WireWriter.writeU8 maximum pin.header.loginType
  WireWriter.writeString maximum pin.header.aesKey limits
  WireWriter.writeString maximum pin.header.url limits
  WireWriter.writeString maximum pin.header.patchUrl limits
  WireWriter.writeCount maximum pin.authMethods.length "authentication method count"
    limits.maxCollectionItems
  let nodes ← writeAuthMethods maximum limits pin.authMethods 0
  let nodes ← writeOptionalBml maximum limits pin.storageConfig nodes
  let _ ← writeOptionalBml maximum limits pin.extraConfig nodes

end Writing

namespace PinDocument

/-- `encode_payload`. -/
def encodePayload (pin : PinDocument) (limits : CodecLimits) : Writing PinCodecError PUnit := do
  WireWriter.writeU32 limits.maxDecodedBlockBytes p4475PinMagic
  writeHeader limits.maxDecodedBlockBytes pin.header
  if pin.header.objectVersion = 1 then writeLegacyBody limits.maxDecodedBlockBytes limits pin
  else writeBody limits.maxDecodedBlockBytes limits pin
  WireWriter.writeBytes limits.maxDecodedBlockBytes pin.trailingPayload

/-- The envelope of `encode_with_limits`. -/
def writeEnvelope (maximum : Nat) (encoded trailingEnvelope : List UInt8) :
    Writing PinCodecError PUnit := do
  WireWriter.writeI32 maximum encoded.length
  WireWriter.writeBytes maximum encoded
  WireWriter.writeBytes maximum trailingEnvelope

/-- `encode_with_limits`. -/
def encodeWithLimits (zlib : Zlib) (pin : PinDocument) (limits : CodecLimits) :
    Except PinCodecError (List UInt8) := do
  let payload ← emit (pin.encodePayload limits)
  let encoded ← (EncodedBlock.encode zlib payload pin.encoding limits).mapError .encodedBlock
  let totalLength := 4 + encoded.length + pin.trailingEnvelope.length
  if i32Max < encoded.length then throw (.lengthOverflow "encoded block")
  else if usizeMax < totalLength then throw (.lengthOverflow "PIN file")
  else do
    enforceLimit "PIN file" totalLength limits.maxPinFileBytes
    emit (writeEnvelope limits.maxPinFileBytes encoded pin.trailingEnvelope)

/-! ## Patching -/

/-- `p4475_storage_config`. -/
def p4475StorageConfig : BmlObject :=
  .object "storage".toList [] [] [.object "document".toList []
    [("root".toList, "카트라이더_4475".toList), ("screenShot".toList, "스크린샷".toList),
      ("riderData".toList, "라이더데이터".toList)] []]

/-- What `patch_p4475_endpoint` removes from a top-level configuration, and how much. -/
def removeNgsOn (config : BmlObject) : BmlObject × Nat :=
  if BmlObject.eqIgnoreAsciiCase config.name "extra".toList then
    config.removeDirectChildrenNamed "NgsOn".toList
  else (config, 0)

/-- `patch_p4475_endpoint`. -/
def patchP4475Endpoint (pin : PinDocument) (endpoint : SocketAddrV4) (options : PinPatchOptions) :
    Except PinCodecError (PinDocument × PinPatchReport) :=
  if pin.header.minorVersion ≠ p4475MinorVersion then
    throw (.wrongProtocol p4475MinorVersion pin.header.minorVersion)
  else if pin.authMethods = [] then throw .missingAuthenticationMethods
  else
    let authMethods := pin.authMethods.map fun method => { method with loginServers := [endpoint] }
    let storageConfig := if options.overrideStorage then some p4475StorageConfig
      else pin.storageConfig
    let cleaned := fun (config : Option BmlObject) =>
      if options.removeNgsOn then config.map removeNgsOn else config.map fun config => (config, 0)
    let removed := fun (config : Option BmlObject) => ((cleaned config).map Prod.snd).getD 0
    return ({ pin with
        authMethods := authMethods
        storageConfig := (cleaned storageConfig).map Prod.fst
        extraConfig := (cleaned pin.extraConfig).map Prod.fst },
      ⟨authMethods.length, removed storageConfig + removed pin.extraConfig,
        options.overrideStorage⟩)

/-- `patch_p4475_pin_with_limits`. -/
def patchP4475PinWithLimits (zlib : Zlib) (input : List UInt8) (endpoint : SocketAddrV4)
    (options : PinPatchOptions) (limits : CodecLimits) :
    Except PinCodecError (List UInt8 × PinPatchReport) := do
  let pin ← decodeWithLimits zlib input limits
  let patched ← pin.patchP4475Endpoint endpoint options
  let output ← patched.1.encodeWithLimits zlib limits
  let verified ← decodeWithLimits zlib output limits
  if verified.header.minorVersion ≠ p4475MinorVersion ∨
      verified.authMethods.length ≠ patched.2.authenticationMethods ∨
      verified.authMethods.any fun auth => auth.loginServers ≠ [endpoint] then
    throw .endpointVerificationFailed
  else if patched.2.storageOverridden ∧ verified.storageConfig ≠ some p4475StorageConfig then
    throw .storageVerificationFailed
  else return (output, patched.2)

end PinDocument

end P4475
