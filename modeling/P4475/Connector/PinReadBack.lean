import P4475.Connector.PinDocument

/-!
# PIN payloads read back

What the writers of `wire.rs`, `bml.rs` and `pin.rs` put into a payload, the readers take
out of it again, for trees whose attributes have distinct keys. Both count the nodes of all
trees of a payload in one budget.
-/

namespace P4475

open Lib Crypto

/-! ## Wire forms -/

section Wire

variable {maximum : Nat} {limits : CodecLimits}

namespace WireWriter

theorem reserve_writes (additional : Nat) (kind : String) :
    Writes (reserve maximum additional kind) (fun _ => True) [] := by
  intro out u out' hy
  unfold reserve at hy
  rw [yields_get_bind] at hy
  split at hy
  next => exact absurd hy yields_throw
  next =>
    split at hy
    next => exact absurd hy yields_throw
    next => exact ⟨trivial, by rw [(yields_pure.mp hy).2, List.append_nil]⟩

theorem appended_writes (bytes : List UInt8) :
    Writes (PacketWriter.writeBytes bytes : Writing PinCodecError PUnit) (fun _ => True)
      bytes := by
  intro out u out' hy
  obtain ⟨w, hw, hout⟩ := (PacketWriter.writeBytes_emits bytes out u out').mp hy
  rw [hw] at hout
  exact ⟨trivial, hout⟩

theorem writeBytes_writes (bytes : List UInt8) :
    Writes (writeBytes maximum bytes) (fun _ => True) bytes :=
  (reserve_writes bytes.length "PIN payload").bind fun _ _ => appended_writes bytes

theorem enforceLimit_writes (kind : String) (actual limit : Nat) :
    Writes (liftResult (enforceLimit kind actual limit) : Writing PinCodecError Unit)
      (fun _ => actual ≤ limit) [] :=
  (writes_liftResult _).mono fun _ h => enforceLimit_ok.mp h

theorem writeCount_writes (value : Nat) (field : String) (limit : Nat) :
    Writes (writeCount maximum value field limit) (fun _ => value ≤ limit ∧ value ≤ i32Max)
      (leBytes 4 value) := by
  refine (enforceLimit_writes field value limit).bind fun _ hlimit => Writes.unless fun hwide => ?_
  unfold writeI32
  rw [PacketWriter.twosComplement_natCast (by omega)]
  exact (writeBytes_writes _).mono fun _ _ => ⟨hlimit, by omega⟩

theorem writeString_writes (text : Text) :
    Writes (writeString maximum text limits) (fun _ =>
      (encodeUtf16 text).length ≤ limits.maxStringCodeUnits ∧
        (encodeUtf16 text).length ≤ i32Max ∧ (encodeUtf16 text).length * 2 ≤ usizeMax)
      (stringBytes text) := by
  refine (enforceLimit_writes _ _ _).bind fun _ _ =>
    (writeCount_writes _ _ _).bind fun _ hcount => Writes.unless fun hwide =>
      (reserve_writes _ _).bind fun _ _ => ?_
  refine (Writes.forM (fun unit => appended_writes (leBytes 2 unit)) _).mono fun _ _ => ?_
  exact ⟨hcount.1, hcount.2, by omega⟩

end WireWriter

namespace WireReader

theorem take_reads {bytes : List UInt8} {length : Nat} (h : bytes.length = length)
    (rest : List UInt8) : Reads (take length) (bytes ++ rest) bytes rest :=
  takeElse_front _ h rest

theorem readU8_reads (byte : UInt8) (rest : List UInt8) :
    Reads readU8 ([byte] ++ rest) byte rest :=
  (take_reads rfl rest).bind (reads_pure byte rest)

theorem readI32_parses :
    Parses readI32 fun value w => w.length = 4 ∧ value = i32FromLeBytes w := by
  refine ((takeElse_parses _ 4).bind fun bytes _ _ => parses_pure (i32FromLeBytes bytes)).congr
    fun value w => ?_
  constructor
  · intro ⟨bytes, u, v, ⟨hu, hlen⟩, ⟨hvalue, hv⟩, hw⟩
    rw [hw, hv, List.append_nil, hu]
    exact ⟨hlen, hvalue⟩
  · intro ⟨hlen, hvalue⟩
    exact ⟨w, w, [], ⟨rfl, hlen⟩, ⟨hvalue, rfl⟩, (List.append_nil w).symm⟩

theorem readLength_reads {count : Nat} (h : count ≤ i32Max) (field : String) (rest : List UInt8) :
    Reads (readLength field) (leBytes 4 count ++ rest) count rest :=
  (natural_parses readI32_parses (PinCodecError.negativeLength field)).reads ⟨h, rfl⟩ rest

theorem readCount_reads {count limit : Nat} (h : count ≤ i32Max) (hlimit : count ≤ limit)
    (field : String) (rest : List UInt8) :
    Reads (readCount field limit) (leBytes 4 count ++ rest) count rest := by
  have hfits : enforceLimit field count limit = .ok () := enforceLimit_ok.mpr hlimit
  exact (readLength_reads h field rest).bind
    ((reads_liftResult hfits rest).bind (reads_pure count rest))

theorem readString_reads {text : Text}
    (hlimit : (encodeUtf16 text).length ≤ limits.maxStringCodeUnits)
    (hcount : (encodeUtf16 text).length ≤ i32Max)
    (hwide : (encodeUtf16 text).length * 2 ≤ usizeMax) (rest : List UInt8) :
    Reads (readString limits) (stringBytes text ++ rest) text rest := by
  unfold stringBytes
  rw [List.append_assoc]
  refine (readCount_reads hcount hlimit _ _).bind ?_
  rw [if_neg (by omega)]
  refine (take_reads (length_flatMap_leBytes 2 _) rest).bind ?_
  -- what was encoded has no unpaired surrogates
  rw [PacketReader.unitsOf_flatMap fun _ => encodeUtf16_lt,
    decodeUtf16Lossy_of_decode (decodeUtf16_encodeUtf16 text)]
  exact reads_pure text rest

theorem readU8_back (byte : UInt8) :
    ReadsBack readU8 (WireWriter.writeU8 maximum byte) fun _ => byte :=
  (WireWriter.writeBytes_writes [byte]).readsBack fun _ _ => readU8_reads byte

/-- There is no byte to read at the end. -/
theorem remaining_of_readU8 {c c' : PacketReader} {byte : UInt8} (h : Yields readU8 c byte c') :
    c.remaining ≠ [] := by
  intro hempty
  obtain ⟨bytes, c'', htake, _⟩ := yields_bind.mp h
  obtain ⟨w, ⟨hw, hlen⟩, hprefix, _⟩ := (takeElse_parses _ 1 _ _ _).mp htake
  have hle := hprefix.length_le
  rw [hw, hlen, hempty] at hle
  exact absurd hle (by decide)

theorem readBool_back (value : Bool) :
    ReadsBack readBool (WireWriter.writeBool maximum value) fun _ => value := by
  have hback : ReadsBack readBool (WireWriter.writeBool maximum value)
      fun _ => decide ((if value then 1 else 0 : UInt8) = 1) :=
    (readU8_back _).map fun byte => decide (byte = 1)
  cases value with
  | false => exact hback
  | true => exact hback

theorem readU16_reads (value : UInt16) (rest : List UInt8) :
    Reads readU16 (leBytes 2 value.toNat ++ rest) value rest := by
  refine (take_reads (length_leBytes 2 _) rest).bind ?_
  have hvalue : UInt16.ofNat (leValue (leBytes 2 value.toNat)) = value := by
    have hlt : value.toNat < 256 ^ 2 := value.toNat_lt
    rw [leValue_leBytes, Nat.mod_eq_of_lt hlt]
    exact UInt16.ofNat_toNat
  rw [hvalue]
  exact reads_pure value rest

theorem readU16_back (value : UInt16) :
    ReadsBack readU16 (WireWriter.writeU16 maximum value) fun _ => value :=
  (WireWriter.writeBytes_writes _).readsBack fun _ _ => readU16_reads value

theorem readU32_back (value : UInt32) :
    ReadsBack readU32 (WireWriter.writeU32 maximum value) fun _ => value := by
  refine (WireWriter.writeBytes_writes _).readsBack fun _ _ rest => ?_
  refine (take_reads (length_wordBytes value) rest).bind ?_
  rw [readWord_wordBytes]
  exact reads_pure value rest

theorem readCount_back (value : Nat) (field : String) (limit : Nat) :
    ReadsBack (readCount field limit) (WireWriter.writeCount maximum value field limit)
      fun _ => value :=
  (WireWriter.writeCount_writes value field limit).readsBack fun _ h =>
    readCount_reads h.2 h.1 field

theorem readString_back (text : Text) :
    ReadsBack (readString limits) (WireWriter.writeString maximum text limits) fun _ => text :=
  (WireWriter.writeString_writes text).readsBack fun _ h => readString_reads h.1 h.2.1 h.2.2

end WireReader

end Wire

/-! ## Configuration trees -/

mutual

/-- The attributes have distinct keys, at every node. -/
def BmlObject.WellFormed : BmlObject → Prop
  | .object _ _ attributes children => (attributes.map Prod.fst).Nodup ∧ AllWellFormed children

def BmlObject.AllWellFormed : List BmlObject → Prop
  | [] => True
  | child :: rest => WellFormed child ∧ AllWellFormed rest

end

theorem BmlObject.allWellFormed_iff {trees : List BmlObject} :
    AllWellFormed trees ↔ ∀ tree ∈ trees, tree.WellFormed := by
  induction trees with
  | nil => exact iff_of_true trivial fun tree h => absurd h List.not_mem_nil
  | cons tree rest ih => rw [AllWellFormed, ih, List.forall_mem_cons]

section Trees

variable {maximum : Nat} {limits : CodecLimits}

/-- Attributes are read behind those already read, as long as no key comes twice. -/
theorem readAttributes_back (attributes before : List (Text × Text))
    (h : ((before ++ attributes).map Prod.fst).Nodup) :
    ReadsBack (readAttributes limits attributes.length before)
      (attributes.forM (writeBmlAttribute maximum limits)) fun _ => before ++ attributes := by
  induction attributes generalizing before with
  | nil =>
    rw [List.append_nil]
    exact readsBack_pure (fun _ => before) PUnit.unit
  | cons entry rest ih =>
    have hsplit : before ++ entry :: rest = before ++ [entry] ++ rest := List.append_cons ..
    have hnew : ¬ (before.any fun existing => existing.1 = entry.1) = true := by
      intro hany
      obtain ⟨existing, hmem, hsame⟩ := List.any_eq_true.mp hany
      rw [List.map_append, List.nodup_append] at h
      exact h.2.2 existing.1 (List.mem_map_of_mem hmem) entry.1
        (List.mem_map_of_mem List.mem_cons_self) (of_decide_eq_true hsame)
    rw [hsplit] at h ⊢
    show ReadsBack _ ((WireWriter.writeString maximum entry.1 limits >>= fun _ =>
      WireWriter.writeString maximum entry.2 limits) >>= fun _ =>
        rest.forM (writeBmlAttribute maximum limits)) _
    rw [bind_assoc]
    refine (WireReader.readString_back entry.1).bind fun _ => ?_
    rw [if_neg hnew]
    exact (WireReader.readString_back entry.2).bind fun _ => ih (before ++ [entry]) h

mutual

/-- A written tree is read back, and both have counted the same nodes. -/
theorem readBml_back : (tree : BmlObject) → tree.WellFormed → (depth nodes : Nat) →
    ReadsBack (readBml limits depth nodes) (writeBml maximum limits depth tree nodes)
      fun after => (tree, after)
  | .object name value attributes children, hwell, depth, nodes => by
    rw [readBml, writeBml]
    refine ReadsBack.after (writes_liftResult _) fun entered henter => ?_
    split
    next e herror =>
      rw [herror] at henter
      cases henter
    next entered' hok =>
      cases henter.symm.trans hok
      refine (WireReader.readString_back name).bind fun _ =>
        (WireReader.readString_back value).bind fun _ =>
          (WireReader.readCount_back attributes.length _ _).bind fun _ =>
            (readAttributes_back attributes [] hwell.1).bind fun _ =>
              (WireReader.readCount_back children.length _ _).bind fun _ =>
                ReadsBack.unless fun hdepth => ?_
      rw [if_neg hdepth]
      exact (readBmls_back children hwell.2 (depth + 1) entered).map fun read =>
        (BmlObject.object name value attributes read.1, read.2)

theorem readBmls_back : (trees : List BmlObject) → BmlObject.AllWellFormed trees →
    (depth nodes : Nat) → ReadsBack
      (repeatCounting (fun nodes => readBml limits depth nodes) trees.length nodes)
      (writeBmls maximum limits depth trees nodes) fun after => (trees, after)
  | [], _, depth, nodes => readsBack_pure (fun after => ([], after)) nodes
  | tree :: rest, hwell, depth, nodes => by
    rw [writeBmls]
    exact (readBml_back tree hwell.1 depth nodes).bind fun between =>
      (readBmls_back rest hwell.2 depth between).map fun read => (tree :: read.1, read.2)

end

theorem readOptionalBml_back (config : Option BmlObject) (h : ∀ tree ∈ config, tree.WellFormed)
    (nodes : Nat) : ReadsBack (readOptionalBml limits nodes)
      (writeOptionalBml maximum limits config nodes) fun after => (config, after) := by
  cases config with
  | none =>
    exact (WireReader.readBool_back false).bind fun _ =>
      readsBack_pure (fun after => (none, after)) nodes
  | some tree =>
    exact (WireReader.readBool_back true).bind fun _ =>
      (readBml_back tree (h tree rfl) 0 nodes).map fun read => (some read.1, read.2)

/-- The attributes that are read have distinct keys. -/
theorem readAttributes_nodup (count : Nat) (before : List (Text × Text))
    (h : (before.map Prod.fst).Nodup) :
    Ensures (readAttributes limits count before) fun attributes =>
      (attributes.map Prod.fst).Nodup := by
  induction count generalizing before with
  | zero => exact ensures_pure h
  | succ count ih =>
    refine (ensures_true _).bind fun key _ => Ensures.unless fun hnew =>
      (ensures_true _).bind fun value _ => ih (before ++ [(key, value)]) ?_
    rw [List.map_append, List.nodup_append]
    refine ⟨h, List.nodup_singleton key, fun existing hexisting key' hkey' hsame => hnew ?_⟩
    obtain ⟨entry, hmem, hentry⟩ := List.mem_map.mp hexisting
    have hkey : key' = key := List.mem_singleton.mp hkey'
    exact List.any_eq_true.mpr ⟨entry, hmem, decide_eq_true (hentry.trans (hsame.trans hkey))⟩

/-- Every tree that is read is well formed. -/
theorem readBml_wellFormed (depth nodes : Nat) :
    Ensures (readBml limits depth nodes) fun read => read.1.WellFormed := by
  rw [readBml]
  split
  next e _ => exact fun _ _ _ h => absurd h yields_throw
  next entered hok =>
    have hdepth := (enterBml_ok.mp hok).1
    refine (ensures_true _).bind fun name _ => (ensures_true _).bind fun value _ =>
      (ensures_true _).bind fun _ _ => (readAttributes_nodup _ [] List.nodup_nil).bind
        fun attributes hkeys => (ensures_true _).bind fun _ _ => Ensures.unless fun _ => ?_
    refine (Ensures.repeatCounting (fun nodes => readBml_wellFormed (depth + 1) nodes) _ _).bind
      fun children hchildren => ensures_pure ⟨hkeys, BmlObject.allWellFormed_iff.mpr hchildren⟩
termination_by limits.maxBmlDepth + 1 - depth

theorem readOptionalBml_wellFormed (nodes : Nat) :
    Ensures (readOptionalBml limits nodes) fun read => ∀ tree ∈ read.1, tree.WellFormed := by
  refine (ensures_true _).bind fun present _ => ?_
  split
  next =>
    refine (readBml_wellFormed 0 nodes).bind fun read hread => ensures_pure fun tree htree => ?_
    cases htree
    exact hread
  next =>
    refine ensures_pure fun tree htree => ?_
    cases htree

end Trees

end P4475
