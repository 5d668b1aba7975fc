import P4475.Rho5.AaaCodec
import P4475.Rho5.AaaMounts

/-!
# One mount for one upsert

The mounts of an index before and after an upsert: the archive's mount takes the place of
the entry that was rewritten, or stands where the new entry does, and all others are as
before. With the codec this is the contract of the index.
-/

namespace P4475

open Lib AaaNode

/-- A mount's folder has the archive's file name, or its name when that is not empty. -/
def AaaRhoFolder.Claims (rho folder : AaaRhoFolder) : Prop :=
  folder.fileName = rho.fileName ∨ (rho.name ≠ [] ∧ folder.name = rho.name)

instance (rho folder : AaaRhoFolder) : Decidable (rho.Claims folder) :=
  inferInstanceAs (Decidable (_ ∨ _))

variable {rho : AaaRhoFolder}

/-! ## The mount of an entry -/

/-- A number is read back from its decimal digits. -/
theorem parseUnsigned_toDigits {value maximum : Nat} (h : value ≤ maximum) :
    parseUnsigned maximum (Nat.toDigits 10 value) = some value := by
  have hdigit : ∀ c ∈ Nat.toDigits 10 value, c.isDigit = true := fun c hc =>
    Nat.isDigit_of_mem_toDigits (by decide) (by decide) hc
  have hsign : (Nat.toDigits 10 value).head? ≠ some '+' := by
    intro hhead
    have hplus := hdigit '+' (List.mem_of_mem_head? (by rw [hhead]; rfl))
    exact absurd hplus (by decide)
  have hall : (Nat.toDigits 10 value).all Char.isDigit = true := List.all_eq_true.mpr hdigit
  unfold parseUnsigned
  rw [if_neg hsign]
  dsimp only
  rw [if_neg Nat.toDigits_ne_nil, if_pos hall, Nat.ofDigitChars_ten_toDigits, if_pos h]

theorem parseAttribute_ok {n : AaaNode} {name value : Text} {maximum parsed : Nat}
    (h : n.attributeValue name = some value) (hvalue : parseUnsigned maximum value = some parsed) :
    n.parseAttribute name maximum = .ok parsed := by
  unfold parseAttribute
  refine bind_eq_ok_iff.mpr ⟨value, requiredAttribute_ok.mpr h, ?_⟩
  rw [hvalue]
  rfl

/-- The rewritten entry is mounted as the archive. -/
theorem mount_assign (entry : AaaNode) (packPath : List Text) :
    (rho.assign entry).mount packPath = .ok ⟨packPath, rho⟩ := by
  have hvalues := rho.attributeValue_assign entry
  simp only [AaaRhoFolder.fields, List.forall_mem_cons] at hvalues
  obtain ⟨hname, hfileName, hkey, hdataHash, hmediaSize, _⟩ := hvalues
  have hkey32 : rho.key.toNat ≤ u32Max := Nat.le_of_lt_succ rho.key.toNat_lt
  have hhash32 : rho.dataHash.toNat ≤ u32Max := Nat.le_of_lt_succ rho.dataHash.toNat_lt
  have hsize64 : rho.mediaSize.toNat ≤ u64Max := Nat.le_of_lt_succ rho.mediaSize.toNat_lt
  unfold mount
  simp only [bind_eq_ok_iff]
  refine ⟨_, requiredAttribute_ok.mpr hname, _, requiredAttribute_ok.mpr hfileName,
    _, parseAttribute_ok hkey (parseUnsigned_toDigits hkey32),
    _, parseAttribute_ok hdataHash (parseUnsigned_toDigits hhash32),
    _, parseAttribute_ok hmediaSize (parseUnsigned_toDigits hsize64), ?_⟩
  rw [UInt32.ofNat_toNat, UInt32.ofNat_toNat, UInt64.ofNat_toNat]
  rfl

/-- An entry is a match exactly when its mount claims a name of the archive. -/
theorem claims_iff {entry : AaaNode} (h : entry.name = rhoFolder) {packPath : List Text}
    {mount : AaaRhoMount} (hmount : entry.mount packPath = .ok mount) :
    rho.Claims mount.folder ↔ rho.isEntry entry = true := by
  obtain ⟨_, hname, hfileName⟩ := mount_ok hmount
  unfold AaaRhoFolder.Claims AaaRhoFolder.isEntry
  rw [hname, hfileName, decide_eq_true_eq, and_iff_right h, Option.some.injEq, Option.some.injEq]

theorem collectChild_assign {entry : AaaNode} (h : entry.name = rhoFolder)
    (packPath : List Text) : (rho.assign entry).collectChild packPath = .ok [⟨packPath, rho⟩] := by
  rw [collectChild_entry ((rho.name_assign entry).trans h), mount_assign]
  rfl

/-! ## The list of mounts -/

/-- One mount of the archive at the path, in the place of at most one that claimed a name of
it there; the others are as they were. -/
structure Remounted (rho : AaaRhoFolder) (packPath : List Text) (alone : Prop)
    (before replaced after : List AaaRhoMount) : Prop where
  length : replaced.length ≤ 1
  claimed : ∀ mount ∈ replaced, mount.packPath = packPath ∧ rho.Claims mount.folder
  alone : alone → ∀ mount ∈ before ++ after, mount.packPath = packPath →
    ¬ rho.Claims mount.folder

/-- No mount of a folder's other children claims a name of the archive at the folder's path. -/
theorem not_claims_of_none {children : List AaaNode} {packPath : List Text}
    {mounts : List AaaRhoMount} (hmounts : collectChildren children packPath = .ok mounts)
    (hnone : ∀ child ∈ children, rho.isEntry child = false) :
    ∀ mount ∈ mounts, mount.packPath = packPath → ¬ rho.Claims mount.folder := by
  induction children generalizing mounts with
  | nil =>
    cases hmounts
    exact fun mount hmount => absurd hmount List.not_mem_nil
  | cons child rest ih =>
    obtain ⟨own, others, hown, hothers, hsplit⟩ := collectChildren_cons_ok.mp hmounts
    obtain ⟨hchild, hrest⟩ := List.forall_mem_cons.mp hnone
    rw [hsplit]
    refine List.forall_mem_append.mpr ⟨fun mount hmount hpath hclaims => ?_, ih hothers hrest⟩
    by_cases hpack : child.name = packFolder
    · -- below another folder, so at a longer path
      rw [collectChild_folder hpack] at hown
      obtain ⟨name, _, hown⟩ := bind_eq_ok hown
      have hbelow := (collectChildren_below _ _ _ hown mount hmount).length_le
      rw [hpath, List.length_append, List.length_singleton] at hbelow
      omega
    · by_cases hrho : child.name = rhoFolder
      · rw [collectChild_entry hrho] at hown
        obtain ⟨made, hmade, hown⟩ := bind_eq_ok hown
        cases hown
        rw [List.mem_singleton.mp hmount] at hclaims
        rw [(claims_iff hrho hmade).mp hclaims] at hchild
        cases hchild
      · rw [collectChild_other hpack hrho] at hown
        cases hown
        exact absurd hmount List.not_mem_nil

/-- No mount of other children lies below the path of a folder whose name they lack. -/
theorem not_below_of_none {children : List AaaNode} {packPath rest : List Text}
    {component : Text} {mounts : List AaaRhoMount}
    (hmounts : collectChildren children packPath = .ok mounts)
    (hnone : ∀ child ∈ children, isFolder component child = false) :
    ∀ mount ∈ mounts, mount.packPath ≠ packPath ++ component :: rest := by
  induction children generalizing mounts with
  | nil =>
    cases hmounts
    exact fun mount hmount => absurd hmount List.not_mem_nil
  | cons child others ih =>
    obtain ⟨own, mounts', hown, hothers, hsplit⟩ := collectChildren_cons_ok.mp hmounts
    obtain ⟨hchild, hrest⟩ := List.forall_mem_cons.mp hnone
    rw [hsplit]
    refine List.forall_mem_append.mpr ⟨fun mount hmount hpath => ?_, ih hothers hrest⟩
    by_cases hpack : child.name = packFolder
    · have hfolder := hown
      rw [collectChild_folder hpack] at hfolder
      obtain ⟨name, hname, _⟩ := bind_eq_ok hfolder
      have hvalue := requiredAttribute_ok.mp hname
      obtain ⟨tail, htail⟩ := collectChild_folder_below hpack hvalue hown mount hmount
      rw [hpath, List.append_assoc] at htail
      have hcomponent : name = component :=
        (List.cons.inj (List.append_cancel_left htail)).1
      rw [isFolder, hpack, hvalue, hcomponent] at hchild
      simp at hchild
    · by_cases hrho : child.name = rhoFolder
      · rw [collectChild_entry hrho] at hown
        obtain ⟨made, hmade, hown⟩ := bind_eq_ok hown
        cases hown
        rw [List.mem_singleton.mp hmount, (mount_ok hmade).1] at hpath
        have hlength := congrArg List.length hpath
        rw [List.length_append, List.length_cons] at hlength
        omega
      · rw [collectChild_other hpack hrho] at hown
        cases hown
        exact absurd hmount List.not_mem_nil

theorem collectChild_of_isFolder {component : Text} {child : AaaNode}
    (h : isFolder component child = true) (here : List Text) :
    child.collectChild here = collectChildren child.children (here ++ [component]) := by
  obtain ⟨hname, hvalue⟩ := of_decide_eq_true h
  rw [collectChild_folder hname, requiredAttribute_ok.mpr hvalue]
  rfl

/-- At the end of the path: the entry's mount makes room for the archive's. -/
theorem collect_entry (rho : AaaRhoFolder) {folder : AaaNode} {here : List Text}
    {mounts : List AaaRhoMount}
    (h : collectChildren folder.children here = .ok mounts) :
    ∃ before replaced after, mounts = before ++ (replaced ++ after) ∧
      collectChildren (folder.upsert rho []).children here =
        .ok (before ++ ⟨here, rho⟩ :: after) ∧
      Remounted rho here ((folder.children.filter rho.isEntry).length ≤ 1) before replaced
        after := by
  unfold AaaNode.upsert
  rw [children_withChildren]
  rcases first_match rho.isEntry folder.children with
    ⟨pre, entry, post, hchildren, hentry, hpre⟩ | hnone
  · have hname : entry.name = rhoFolder := (of_decide_eq_true hentry).1
    rw [hchildren] at h
    obtain ⟨before, others, hbefore, hothers, hmounts⟩ := collectChildren_append_ok.mp h
    obtain ⟨replaced, after, hreplaced, hafter, hsplit⟩ := collectChildren_cons_ok.mp hothers
    refine ⟨before, replaced, after, by rw [hmounts, hsplit], ?_, ?_, ?_, ?_⟩
    · rw [hchildren, editFirst_split hentry hpre]
      exact collectChildren_append_ok.mpr ⟨before, _, hbefore, collectChildren_cons_ok.mpr
        ⟨_, after, collectChild_assign hname here, hafter, rfl⟩, rfl⟩
    · rw [collectChild_entry hname] at hreplaced
      obtain ⟨mount, _, hreplaced⟩ := bind_eq_ok hreplaced
      cases hreplaced
      exact le_refl 1
    · rw [collectChild_entry hname] at hreplaced
      obtain ⟨mount, hmount, hreplaced⟩ := bind_eq_ok hreplaced
      cases hreplaced
      exact List.forall_mem_singleton.mpr ⟨(mount_ok hmount).1, (claims_iff hname hmount).mpr hentry⟩
    · -- the rewritten entry was the only match, so there is none behind it
      intro hsingle
      rw [hchildren, List.filter_append, List.filter_cons_of_pos hentry, List.length_append,
        List.length_cons] at hsingle
      have hpost : post.filter rho.isEntry = [] := List.length_eq_zero_iff.mp (by omega)
      refine List.forall_mem_append.mpr ⟨not_claims_of_none hbefore hpre,
        not_claims_of_none hafter fun child hchild => ?_⟩
      exact Bool.not_eq_true _ ▸ List.filter_eq_nil_iff.mp hpost child hchild
  · refine ⟨mounts, [], [], by simp, ?_, Nat.zero_le 1, ?_, fun _ => ?_⟩
    · rw [editFirst_none hnone]
      exact collectChildren_append_ok.mpr ⟨mounts, _, h, collectChildren_cons_ok.mpr
        ⟨_, [], collectChild_assign rfl here, rfl, rfl⟩, rfl⟩
    · exact fun mount hmount => absurd hmount List.not_mem_nil
    · rw [List.append_nil]
      exact not_claims_of_none h hnone

/-- Behind a folder no other has its name, when no two share one. -/
theorem isFolder_after {component : Text} {before after : List AaaNode} {child : AaaNode}
    (h : FoldersDistinct (before ++ child :: after)) (hchild : isFolder component child = true) :
    ∀ other ∈ after, isFolder component other = false := by
  intro other hother
  obtain ⟨hname, hvalue⟩ := of_decide_eq_true hchild
  unfold FoldersDistinct at h
  rw [List.filter_append, List.filter_cons_of_pos (by simpa using hname)] at h
  have hpairs := (List.pairwise_cons.mp (List.pairwise_append.mp h).2.1).1
  by_contra hfolder
  obtain ⟨hname', hvalue'⟩ := of_decide_eq_true (Bool.not_eq_false _ ▸ hfolder)
  exact hpairs other (List.mem_filter.mpr ⟨hother, by simpa using hname'⟩)
    ⟨component, hvalue, hvalue'⟩

/-- An upsert changes one mount, or adds one. -/
theorem collect_upsert (packPath : List Text) {folder : AaaNode} (hfolder : folder.name = packFolder)
    {here : List Text} {mounts : List AaaRhoMount}
    (h : collectChildren folder.children here = .ok mounts) :
    ∃ before replaced after, mounts = before ++ (replaced ++ after) ∧
      collectChildren (folder.upsert rho packPath).children here =
        .ok (before ++ ⟨here ++ packPath, rho⟩ :: after) ∧
      Remounted rho (here ++ packPath)
        (folder.Unambiguous ∧ (entriesAt rho packPath folder).length ≤ 1) before replaced after := by
  induction packPath generalizing folder here mounts with
  | nil =>
    obtain ⟨before, replaced, after, hmounts, hafter, hremounted⟩ := collect_entry rho h
    rw [List.append_nil]
    exact ⟨before, replaced, after, hmounts, hafter, hremounted.length, hremounted.claimed,
      fun halone => hremounted.alone halone.2⟩
  | cons component rest ih =>
    have hpath : here ++ component :: rest = (here ++ [component]) ++ rest := by simp
    unfold AaaNode.upsert entriesAt
    rw [children_withChildren]
    rcases first_match (isFolder component) folder.children with
      ⟨pre, child, post, hchildren, hchild, hpre⟩ | hnone
    · rw [hchildren] at h
      obtain ⟨front, others, hfront, hothers, hmounts⟩ := collectChildren_append_ok.mp h
      obtain ⟨own, back, hown, hback, hsplit⟩ := collectChildren_cons_ok.mp hothers
      rw [collectChild_of_isFolder hchild] at hown
      obtain ⟨before, replaced, after, hwithin, hnew, hremounted⟩ :=
        ih (of_decide_eq_true hchild).1 hown
      refine ⟨front ++ before, replaced, after ++ back, ?_, ?_, hremounted.length, ?_, ?_⟩
      · rw [hmounts, hsplit, hwithin]
        simp only [List.append_assoc]
      · rw [hchildren, editFirst_split hchild hpre, hpath]
        have hnew' := collectChild_of_isFolder (isFolder_upsert rest hchild) here ▸ hnew
        refine collectChildren_append_ok.mpr ⟨front, _, hfront, collectChildren_cons_ok.mpr
          ⟨_, back, hnew', hback, rfl⟩, ?_⟩
        simp only [List.append_assoc, List.cons_append]
      · rw [hpath]
        exact hremounted.claimed
      · intro halone mount hmount hat
        obtain ⟨hdistinct, hsingle⟩ := halone
        obtain ⟨hfolders, hbelow⟩ := everywhere_iff.mp hdistinct
        have hpost := isFolder_after (hchildren ▸ hfolders hfolder) hchild
        rw [hchildren, find_split hchild hpre] at hsingle
        have hinside := hremounted.alone
          ⟨hbelow child (by rw [hchildren]; simp), hsingle⟩ mount
        simp only [List.mem_append] at hmount hinside
        rcases hmount with (hmem | hmem) | hmem | hmem
        · exact absurd hat (not_below_of_none hfront hpre mount hmem)
        · exact hinside (.inl hmem) (hat.trans hpath)
        · exact hinside (.inr hmem) (hat.trans hpath)
        · exact absurd hat (not_below_of_none hback hpost mount hmem)
    · -- the path goes on in a new folder, which has no mounts yet
      have hfresh : isFolder component (newFolder component) = true := isFolder_newFolder component
      have hempty : collectChildren (newFolder component).children (here ++ [component]) =
        .ok [] := rfl
      obtain ⟨before, replaced, after, hwithin, hnew, _⟩ :=
        ih (of_decide_eq_true hfresh).1 hempty
      obtain ⟨hbefore, hrest⟩ := List.append_eq_nil_iff.mp hwithin.symm
      have hafter := (List.append_eq_nil_iff.mp hrest).2
      subst hbefore hafter
      have hnew' := collectChild_of_isFolder (isFolder_upsert rest hfresh) here ▸ hnew
      refine ⟨mounts, [], [], by simp, ?_, Nat.zero_le 1, ?_, fun _ => ?_⟩
      · rw [editFirst_none hnone, hpath]
        exact collectChildren_append_ok.mpr ⟨mounts, _, h, collectChildren_cons_ok.mpr
          ⟨_, [], hnew', rfl, rfl⟩, rfl⟩
      · exact fun mount hmount => absurd hmount List.not_mem_nil
      · rw [List.append_nil]
        exact fun mount hmount hat => absurd hat (not_below_of_none h hnone mount hmount)

/-! ## The contract -/

theorem upsertRhoFolder_ok {document : AaaDocument} (h : document.root.name = packFolder)
    (packPath : List Text) :
    document.upsertRhoFolder packPath rho = .ok ⟨document.root.upsert rho packPath⟩ :=
  if_neg (not_not.mpr h)

theorem rhoMounts_eq {document : AaaDocument} (h : document.root.name = packFolder) :
    document.rhoMounts = collectChildren document.root.children [] := by
  obtain ⟨root⟩ := document
  cases root
  exact if_neg (not_not.mpr h)

theorem name_upsert (packPath : List Text) (folder : AaaNode) :
    (folder.upsert rho packPath).name = folder.name := by
  cases packPath <;> exact name_withChildren _ _

/-- **The pack-folder index.** Decoding undoes encoding, and a tree that decodes is encoded by
the same bytes. An upsert changes its entry and what leads to it and nothing else, and is
idempotent. Entries stay distinct exactly when at most one of the folder's entries had a name of
the archive, and one mount is made or replaced; where moreover a pack path leads to one folder, no
other mount there has a name of the archive. -/
theorem aaa_index (zlib : Zlib) (hz : zlib.Lossless) :
    (∀ (document : AaaDocument) (limits : AaaLimits) (bytes : List UInt8),
      document.encode zlib limits = .ok bytes →
        AaaDocument.decode zlib bytes limits = .ok document) ∧
    (∀ (n : AaaNode) (limits : AaaLimits) (bytes : List UInt8),
      AaaNode.decodeBinaryXml bytes limits = .ok n → n.encodeBinaryXml limits = .ok bytes) ∧
    ∀ (document : AaaDocument) (packPath : List Text) (rho : AaaRhoFolder),
      document.root.name = packFolder → ∃ document' : AaaDocument,
        document.upsertRhoFolder packPath rho = .ok document' ∧
        Upserted rho packPath document.root document'.root ∧
        document'.upsertRhoFolder packPath rho = .ok document' ∧
        (document.root.Distinct → (document'.root.Distinct ↔
          (entriesAt rho packPath document.root).length ≤ 1)) ∧
        ∀ mounts, document.rhoMounts = .ok mounts → ∃ before replaced after,
          mounts = before ++ (replaced ++ after) ∧
          document'.rhoMounts = .ok (before ++ ⟨packPath, rho⟩ :: after) ∧
          Remounted rho packPath (document.root.Unambiguous ∧
            (entriesAt rho packPath document.root).length ≤ 1) before replaced after := by
  refine ⟨fun document limits bytes h => decode_of_encode hz h, fun n limits bytes h =>
    encodeBinaryXml_ok.mpr (decodeBinaryXml_ok.mp h), fun document packPath rho hroot => ?_⟩
  have hroot' : (document.root.upsert rho packPath).name = packFolder :=
    (name_upsert packPath document.root).trans hroot
  refine ⟨_, upsertRhoFolder_ok hroot packPath, upsert_upserted packPath document.root, ?_,
    distinct_upsert packPath hroot, fun mounts hmounts => ?_⟩
  · rw [upsertRhoFolder_ok hroot', upsert_upsert]
  · rw [rhoMounts_eq hroot] at hmounts
    rw [rhoMounts_eq hroot']
    exact collect_upsert packPath hroot hmounts

/-! ## Samples -/

/-- The index of an installation without archives, in plain and compressed. -/
def sampleIndex : AaaDocument := ⟨AaaNode.new packFolder⟩

def samplePlaintext : List UInt8 :=
  [10, 0, 0, 0, 80, 0, 97, 0, 99, 0, 107, 0, 70, 0, 111, 0, 108, 0, 100, 0, 101, 0, 114, 0,
    0, 0, 0, 0, 0, 0, 0, 0, 0, 0, 0, 0]

def sampleCompressed : List UInt8 :=
  [120, 156, 227, 98, 96, 96, 8, 96, 72, 100, 72, 102, 200, 102, 112, 99, 200, 103, 200, 97,
    72, 97, 72, 101, 40, 98, 64, 6, 0, 88, 186, 3, 230]

/-- Zlib on the sample; any other block is kept as it is behind a byte that starts no stream. -/
def sampleZlib : Zlib where
  compress plain := if plain = samplePlaintext then .ok sampleCompressed else .ok (0 :: plain)
  decompress stored limit :=
    if stored = sampleCompressed then .ok (samplePlaintext.take limit, stored.length)
    else if stored.head? = some 0 then .ok (stored.tail.take limit, stored.length)
    else .error "corrupt deflate stream"

theorem sampleZlib_lossless : sampleZlib.Lossless :=
  Zlib.known_lossless (by decide)

def sampleFile : List UInt8 :=
  [43, 0, 0, 0, 0x53, 1, 229, 3, 150, 88, 36, 0, 0, 0] ++ sampleCompressed

theorem sampleIndex_encodes : sampleIndex.encode sampleZlib .default = .ok sampleFile := by
  decide +kernel

def sampleArchive : AaaRhoFolder := ⟨['y'], "f1".toList, 7, 8, 9⟩

/-- The sample, and the sample with an archive in a new folder. -/
theorem sampleIndex_contract :
    AaaDocument.decode sampleZlib sampleFile .default = .ok sampleIndex ∧
      ∃ document' before replaced after, sampleIndex.upsertRhoFolder [['p']] sampleArchive =
          .ok document' ∧ document'.root.Distinct ∧
        document'.rhoMounts = .ok (before ++ ⟨[['p']], sampleArchive⟩ :: after) ∧
        [] = before ++ (replaced ++ after) := by
  obtain ⟨hcodec, _, hupsert⟩ := aaa_index sampleZlib sampleZlib_lossless
  obtain ⟨document', hok, _, _, hdistinct, hmounts⟩ :=
    hupsert sampleIndex [['p']] sampleArchive rfl
  obtain ⟨before, replaced, after, hbefore, hafter, _⟩ := hmounts [] rfl
  exact ⟨hcodec _ _ _ sampleIndex_encodes, document', before, replaced, after, hok,
    (hdistinct (distinct_of_childless rfl)).mpr (by decide), hafter, hbefore⟩

/-- An entry. -/
def sampleEntry (name fileName : Text) : AaaNode :=
  .node rhoFolder [] [("name".toList, name), ("fileName".toList, fileName),
    ("key".toList, ['1']), ("dataHash".toList, ['2']), ("mediaSize".toList, ['3'])] []

/-- Two entries, of which the archive has the file name of one and the name of the other. -/
def sampleEntries : AaaDocument :=
  ⟨.node packFolder [] [] [sampleEntry ['x'] "f1".toList, sampleEntry ['y'] "f2".toList]⟩

/-- Two folders of one name, of which the second has the archive. -/
def sampleTwins : AaaDocument :=
  ⟨.node packFolder [] [] [newFolder ['p'], (newFolder ['p']).upsert sampleArchive []]⟩

theorem sampleEntries_distinct : sampleEntries.root.Distinct := by
  refine everywhere_iff.mpr ⟨fun _ => ?_, fun child hchild => ?_⟩
  · refine List.pairwise_pair.mpr fun hshare => ?_
    rcases hshare with ⟨fileName, hfirst, hsecond⟩ | ⟨name, _, hfirst, hsecond⟩
    · exact absurd (hfirst.trans hsecond.symm) (by decide)
    · exact absurd (hfirst.trans hsecond.symm) (by decide)
  · rcases List.mem_pair.mp hchild with h | h <;> exact distinct_of_childless (h ▸ rfl)

theorem sampleTwins_distinct : sampleTwins.root.Distinct := by
  have hsecond : ((newFolder ['p']).upsert sampleArchive []).Distinct :=
    (distinct_upsert [] (by decide) (distinct_of_childless rfl)).mpr (by decide)
  refine everywhere_iff.mpr ⟨fun _ => ?_, fun child hchild => ?_⟩
  · exact List.Pairwise.nil
  · rcases List.mem_pair.mp hchild with h | h
    · exact distinct_of_childless (h ▸ rfl)
    · exact h ▸ hsecond

/-- What an upsert does not look at: a second entry with a name of the archive keeps it, and a
second folder of the path's name keeps the archive. -/
theorem upsert_clashes :
    (sampleEntries.root.Distinct ∧ ∃ document' : AaaDocument,
      sampleEntries.upsertRhoFolder [] sampleArchive = .ok document' ∧
        ¬ document'.root.Distinct) ∧
    sampleTwins.root.Distinct ∧ ∃ (document' : AaaDocument) (mounts mounts' : List AaaRhoMount),
      sampleTwins.upsertRhoFolder [['p']] sampleArchive = .ok document' ∧
        sampleTwins.rhoMounts = .ok mounts ∧ document'.rhoMounts = .ok mounts' ∧
        mounts'.count ⟨[['p']], sampleArchive⟩ = 2 := by
  refine ⟨⟨sampleEntries_distinct, _, upsertRhoFolder_ok rfl [], fun hdistinct => ?_⟩,
    sampleTwins_distinct, _, [⟨[['p']], sampleArchive⟩],
    [⟨[['p']], sampleArchive⟩, ⟨[['p']], sampleArchive⟩], upsertRhoFolder_ok rfl [['p']], ?_, ?_,
    by decide⟩
  · exact absurd ((distinct_upsert [] rfl sampleEntries_distinct).mp hdistinct) (by decide)
  · decide +kernel
  · decide +kernel

end P4475
