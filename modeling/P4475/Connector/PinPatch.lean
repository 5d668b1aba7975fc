import P4475.Connector.PinCodec

/-!
# Patched PIN files

What `patch_p4475_pin_with_limits` makes of a file. The code checks its own output; here the
output is shown to be the whole input but for the named changes, and a file of version 1,
which has no place for a storage configuration, to be refused when one is to be put there.
-/

namespace P4475

open Lib

/-- A top-level configuration after the patch: one that is called `extra` loses its `NgsOn`
children when the options say so. -/
def PinPatchOptions.kept (options : PinPatchOptions) (config : BmlObject) : BmlObject :=
  if options.removeNgsOn = true ∧ BmlObject.eqIgnoreAsciiCase config.name "extra".toList = true then
    .object config.name config.value config.attributes
      (config.children.filter fun child =>
        !BmlObject.eqIgnoreAsciiCase child.name "NgsOn".toList)
  else config

/-- The second document is the first with the changes of the patch and no others. -/
structure PinDocument.Patched (endpoint : SocketAddrV4) (options : PinPatchOptions)
    (pin pin' : PinDocument) : Prop where
  header : pin'.header = pin.header
  methods : pin'.authMethods =
    pin.authMethods.map fun method => { method with loginServers := [endpoint] }
  storage : pin'.storageConfig = if options.overrideStorage = true then
    some PinDocument.p4475StorageConfig else pin.storageConfig.map options.kept
  extra : pin'.extraConfig = pin.extraConfig.map options.kept
  encoding : pin'.encoding = pin.encoding
  trailingPayload : pin'.trailingPayload = pin.trailingPayload
  trailingEnvelope : pin'.trailingEnvelope = pin.trailingEnvelope

namespace PinDocument

variable {zlib : Zlib} {limits : CodecLimits} {endpoint : SocketAddrV4} {options : PinPatchOptions}
  {pin : PinDocument}

theorem kept_eq (config : BmlObject) :
    options.kept config = if options.removeNgsOn = true then (removeNgsOn config).1 else config := by
  unfold PinPatchOptions.kept removeNgsOn
  by_cases hremove : options.removeNgsOn = true
  · rw [if_pos hremove]
    by_cases hextra : BmlObject.eqIgnoreAsciiCase config.name "extra".toList = true
    · rw [if_pos ⟨hremove, hextra⟩, if_pos hextra]
      cases config
      rfl
    · rw [if_neg fun h => hextra h.2, if_neg hextra]
  · rw [if_neg fun h => hremove h.1, if_neg hremove]

/-- The tree for the storage has no top-level name that the patch cleans. -/
theorem kept_storage : options.kept p4475StorageConfig = p4475StorageConfig := by
  have hname : ¬ BmlObject.eqIgnoreAsciiCase "storage".toList "extra".toList = true := by decide
  exact if_neg fun h => hname h.2

/-- What the patch does to a document it accepts. -/
theorem patchP4475Endpoint_ok {result : PinDocument × PinPatchReport}
    (h : pin.patchP4475Endpoint endpoint options = .ok result) :
    pin.header.minorVersion = p4475MinorVersion ∧ pin.authMethods ≠ [] ∧
      Patched endpoint options pin result.1 ∧
      result.2.storageOverridden = options.overrideStorage := by
  unfold patchP4475Endpoint at h
  by_cases hminor : pin.header.minorVersion ≠ p4475MinorVersion
  · rw [if_pos hminor] at h
    cases h
  · rw [if_neg hminor] at h
    by_cases hmethods : pin.authMethods = []
    · rw [if_pos hmethods] at h
      cases h
    · rw [if_neg hmethods] at h
      -- either way, a configuration is cleaned as the options say
      have hcleaned : ∀ config : Option BmlObject,
          (if options.removeNgsOn = true then config.map removeNgsOn
            else config.map fun config => (config, 0)).map Prod.fst = config.map options.kept := by
        intro config
        cases config with
        | none => split <;> rfl
        | some config =>
          show _ = some (options.kept config)
          rw [kept_eq]
          split <;> rfl
      cases h
      refine ⟨not_not.mp hminor, hmethods, ?_, rfl⟩
      refine ⟨rfl, rfl, (hcleaned _).trans ?_, hcleaned _, rfl, rfl, rfl⟩
      split
      next => exact congrArg some kept_storage
      next => rfl

theorem allWellFormed_filter {children : List BmlObject} (p : BmlObject → Bool)
    (h : BmlObject.AllWellFormed children) : BmlObject.AllWellFormed (children.filter p) := by
  refine BmlObject.allWellFormed_iff.mpr fun tree htree => ?_
  exact BmlObject.allWellFormed_iff.mp h tree (List.mem_filter.mp htree).1

theorem kept_wellFormed {config : BmlObject} (h : config.WellFormed) :
    (options.kept config).WellFormed := by
  unfold PinPatchOptions.kept
  split
  next =>
    cases config
    exact ⟨h.1, allWellFormed_filter _ h.2⟩
  next => exact h

theorem kept_all {config : Option BmlObject} (h : ∀ tree ∈ config, tree.WellFormed) :
    ∀ tree ∈ config.map options.kept, tree.WellFormed := by
  intro tree htree
  obtain ⟨config', hconfig, htree⟩ := Option.mem_map.mp htree
  rw [← htree]
  exact kept_wellFormed (h config' hconfig)

theorem p4475StorageConfig_wellFormed : p4475StorageConfig.WellFormed := by
  refine ⟨List.nodup_nil, ⟨?_, trivial⟩, trivial⟩
  decide

/-- A patched document still comes back, unless its layout has no place for the storage. -/
theorem Patched.readable {pin' : PinDocument} (hpatch : Patched endpoint options pin pin')
    (h : pin.Readable)
    (hplace : ¬ (pin.header.objectVersion = 1 ∧ options.overrideStorage = true)) :
    pin'.Readable where
  keyed := by
    rw [hpatch.encoding]
    exact h.keyed
  methods := by
    rw [hpatch.methods]
    intro method hmethod
    obtain ⟨method', hmem, hmethod⟩ := List.mem_map.mp hmethod
    rw [← hmethod]
    exact h.methods method' hmem
  storage := by
    rw [hpatch.storage]
    split
    next =>
      intro tree htree
      cases htree
      exact p4475StorageConfig_wellFormed
    next => exact kept_all h.storage
  extra := by
    rw [hpatch.extra]
    exact kept_all h.extra
  legacy := by
    intro hversion
    rw [hpatch.header] at hversion ⊢
    obtain ⟨hheader, hstorage, hextra, loginServers, hmethods⟩ := h.legacy hversion
    have hkeep : ¬ options.overrideStorage = true := fun hover => hplace ⟨hversion, hover⟩
    refine ⟨hheader, ?_, ?_, [endpoint], ?_⟩
    · rw [hpatch.storage, if_neg hkeep, hstorage]
      rfl
    · rw [hpatch.extra, hextra]
      rfl
    · rw [hpatch.methods, hmethods]
      rfl

/-- In the layout of version 1 the storage configuration is not written. -/
theorem encode_legacy (storage : Option BmlObject) (h : pin.header.objectVersion = 1) :
    pin.encodeWithLimits zlib limits =
      { pin with storageConfig := storage }.encodeWithLimits zlib limits := by
  have hpayload : pin.encodePayload limits =
      { pin with storageConfig := storage }.encodePayload limits := by
    rw [encodePayload_eq, encodePayload_eq, if_pos h, if_pos h]
    rfl
  unfold encodeWithLimits
  rw [hpayload]

/-- A file of version 1 is refused when it is to have a storage configuration. -/
theorem Patched.not_overridden {pin' verified : PinDocument} {output : List UInt8}
    (hz : zlib.Lossless) (hpatch : Patched endpoint options pin pin') (h : pin.Readable)
    (hversion : pin.header.objectVersion = 1)
    (hencoded : pin'.encodeWithLimits zlib limits = .ok output)
    (hverified : decodeWithLimits zlib output limits = .ok verified) :
    verified.storageConfig = none := by
  have hversion' : pin'.header.objectVersion = 1 := by
    rw [hpatch.header]
    exact hversion
  rw [encode_legacy none hversion'] at hencoded
  obtain ⟨hheader, hstorage, hextra, loginServers, hmethods⟩ := h.legacy hversion
  -- without the storage it is the document patched under other options
  have hplain : Patched endpoint { options with overrideStorage := false } pin
      { pin' with storageConfig := none } := by
    refine ⟨hpatch.header, hpatch.methods, ?_, hpatch.extra, hpatch.encoding,
      hpatch.trailingPayload, hpatch.trailingEnvelope⟩
    rw [hstorage]
    rfl
  have hback := decode_of_encode hz (hplain.readable h fun hboth => by cases hboth.2) hencoded
  rw [hverified] at hback
  cases hback
  rfl

/-- **A patched file is the input with the changes of the patch.** -/
theorem patched_of_ok {input output : List UInt8} {report : PinPatchReport} (hz : zlib.Lossless)
    (h : patchP4475PinWithLimits zlib input endpoint options limits = .ok (output, report)) :
    ∃ pin pin', decodeWithLimits zlib input limits = .ok pin ∧
      decodeWithLimits zlib output limits = .ok pin' ∧ Patched endpoint options pin pin' ∧
      pin.header.minorVersion = p4475MinorVersion ∧ pin.authMethods ≠ [] ∧
      ¬ (pin.header.objectVersion = 1 ∧ options.overrideStorage = true) := by
  obtain ⟨pin, hpin, h⟩ := bind_eq_ok h
  obtain ⟨patched, hpatched, h⟩ := bind_eq_ok h
  obtain ⟨output', houtput, h⟩ := bind_eq_ok h
  obtain ⟨verified, hverified, h⟩ := bind_eq_ok h
  obtain ⟨hminor, hmethods, hpatch, hreport⟩ := patchP4475Endpoint_ok hpatched
  have hreadable := decode_readable hpin
  split at h
  next => cases h
  next =>
    split at h
    next => cases h
    next hstorage =>
      cases h
      have hplace : ¬ (pin.header.objectVersion = 1 ∧ options.overrideStorage = true) := by
        intro ⟨hversion, hover⟩
        have hnone := hpatch.not_overridden hz hreadable hversion houtput hverified
        refine hstorage ⟨hreport.trans hover, ?_⟩
        rw [hnone]
        simp
      have hback := decode_of_encode hz (hpatch.readable hreadable hplace) houtput
      exact ⟨pin, patched.1, hpin, hback, hpatch, hminor, hmethods, hplace⟩

end PinDocument

/-- **A document that was read survives being written, and a patched file is the input with
the named changes.** It is refused where that cannot be: under another protocol, without a
method, and in version 1 with a storage configuration. -/
theorem pin_roundTrip (zlib : Zlib) (hz : zlib.Lossless) (limits : CodecLimits) :
    (∀ input pin output, PinDocument.decodeWithLimits zlib input limits = .ok pin →
      pin.encodeWithLimits zlib limits = .ok output →
        PinDocument.decodeWithLimits zlib output limits = .ok pin) ∧
    (∀ input endpoint options output report,
      PinDocument.patchP4475PinWithLimits zlib input endpoint options limits =
          .ok (output, report) →
        ∃ pin pin', PinDocument.decodeWithLimits zlib input limits = .ok pin ∧
          PinDocument.decodeWithLimits zlib output limits = .ok pin' ∧
          PinDocument.Patched endpoint options pin pin') ∧
    ∀ input endpoint options pin, PinDocument.decodeWithLimits zlib input limits = .ok pin →
      pin.header.minorVersion ≠ p4475MinorVersion ∨ pin.authMethods = [] ∨
        (pin.header.objectVersion = 1 ∧ options.overrideStorage = true) →
      ∃ e, PinDocument.patchP4475PinWithLimits zlib input endpoint options limits = .error e := by
  refine ⟨fun input pin output hpin houtput => ?_, fun input endpoint options output report h => ?_,
    fun input endpoint options pin hpin hbad => ?_⟩
  · exact PinDocument.decode_of_encode hz (PinDocument.decode_readable hpin) houtput
  · obtain ⟨pin, pin', hpin, hpin', hpatch, _⟩ := PinDocument.patched_of_ok hz h
    exact ⟨pin, pin', hpin, hpin', hpatch⟩
  · cases hresult : PinDocument.patchP4475PinWithLimits zlib input endpoint options limits with
    | error e => exact ⟨e, rfl⟩
    | ok result =>
      obtain ⟨pin₁, _, hpin₁, _, _, hminor, hmethods, hplace⟩ :=
        PinDocument.patched_of_ok hz hresult
      cases hpin.symm.trans hpin₁
      rcases hbad with hbad | hbad | hbad
      · exact absurd hminor hbad
      · exact absurd hbad hmethods
      · exact absurd hbad hplace

/-! ## A file of version 1 -/

/-- A file whose block has no magic, with something behind the payload and behind the block. -/
def samplePin : List UInt8 :=
  [32, 0, 0, 0, 126, 3, 239, 16, 1, 2, 16, 7, 0, 3, 0, 123, 17, 5, 6, 1, 0, 0, 0, 107, 0, 1, 0, 0, 0,
    1, 2, 3, 4, 5, 0, 9, 8]

/-- The payload of the file once it is patched. -/
def samplePinPayload : List UInt8 :=
  [126, 3, 239, 16, 1, 2, 16, 7, 0, 3, 0, 123, 17, 5, 6, 1, 0, 0, 0, 107, 0, 1, 0, 0, 0, 127, 0, 0, 1,
    144, 153, 9]

/-- That payload as a zlib stream. -/
def samplePinStream : List UInt8 :=
  [120, 218, 171, 99, 126, 47, 192, 200, 36, 192, 206, 192, 204, 80, 45, 200, 202, 198, 200,
    192, 192, 144, 205, 0, 34, 235, 25, 24, 24, 39, 204, 228, 4, 0, 73, 30, 4, 84]

def samplePinZlib : Zlib := .known samplePinPayload samplePinStream

theorem samplePinZlib_lossless : samplePinZlib.Lossless := Zlib.known_lossless (by decide)

def samplePinOutput : List UInt8 :=
  [52, 0, 0, 0, 83, 3, 83, 4, 254, 72, 51, 150, 105, 51, 32, 0, 0, 0, 138, 183, 177, 212, 205,
    70, 78, 243, 80, 165, 204, 0, 249, 49, 91, 140, 60, 154, 34, 8, 119, 200, 147, 77, 90,
    191, 203, 201, 33, 119, 138, 178, 254, 75, 243, 196, 191, 19, 8]

def samplePinEndpoint : SocketAddrV4 := ⟨(127, 0, 0, 1), 39312⟩

/-- What the file holds, with its servers. -/
def samplePinDocument (servers : List SocketAddrV4) : PinDocument where
  header := ⟨1, 0x1002, 7, 3, 0, 4475, 5, 6, 2, [], ['k'], []⟩
  authMethods := [⟨1, "Default".toList, none, servers, none⟩]
  storageConfig := none
  extraConfig := none
  encoding := .default
  trailingPayload := [9]
  trailingEnvelope := [8]

theorem samplePin_decodes : PinDocument.decodeWithLimits samplePinZlib samplePin .default =
    .ok (samplePinDocument [⟨(1, 2, 3, 4), 5⟩]) := by
  decide +kernel

theorem samplePinPayload_decodes : PinDocument.decodeWithLimits samplePinZlib
    ([32, 0, 0, 0] ++ samplePinPayload ++ [8]) .default =
      .ok (samplePinDocument [samplePinEndpoint]) := by
  decide +kernel

theorem samplePinDocument_encodes :
    (samplePinDocument [samplePinEndpoint]).encodeWithLimits samplePinZlib .default =
      .ok samplePinOutput := by
  decide +kernel

theorem samplePin_patches : PinDocument.patchP4475PinWithLimits samplePinZlib samplePin
    samplePinEndpoint ⟨true, false⟩ .default = .ok (samplePinOutput, ⟨1, 0, false⟩) := by
  decide +kernel

/-- The file is patched and read again, and refused with a storage. -/
theorem samplePin_roundTrip :
    PinDocument.decodeWithLimits samplePinZlib samplePinOutput .default =
        .ok (samplePinDocument [samplePinEndpoint]) ∧
      (∃ pin pin', PinDocument.decodeWithLimits samplePinZlib samplePin .default = .ok pin ∧
        PinDocument.decodeWithLimits samplePinZlib samplePinOutput .default = .ok pin' ∧
        PinDocument.Patched samplePinEndpoint ⟨true, false⟩ pin pin') ∧
      ∃ e, PinDocument.patchP4475PinWithLimits samplePinZlib samplePin samplePinEndpoint
        ⟨true, true⟩ .default = .error e := by
  obtain ⟨hround, hpatch, hrefused⟩ := pin_roundTrip samplePinZlib samplePinZlib_lossless .default
  refine ⟨?_, hpatch _ _ _ _ _ samplePin_patches, ?_⟩
  · exact hround _ _ _ samplePinPayload_decodes samplePinDocument_encodes
  · exact hrefused _ _ _ _ samplePin_decodes (Or.inr (Or.inr ⟨rfl, rfl⟩))

end P4475
