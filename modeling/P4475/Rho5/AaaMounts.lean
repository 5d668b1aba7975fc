import P4475.Lib.Outcome
import P4475.Rho5.AaaUpsert

/-!
# Mounts after an upsert

The list of mounts follows the tree, so an upsert changes one mount of it or puts one into
it. Whether two entries of a folder can get one name or one file name, and whether a pack
path names one folder, are conditions on the tree before: an upsert looks at the first
match of either name only.
-/

namespace P4475

open Lib

namespace AaaNode

/-- The nodes of a tree. -/
inductive Contains : AaaNode → AaaNode → Prop
  | self (n : AaaNode) : Contains n n
  | under {n child m : AaaNode} (mem : child ∈ n.children) (within : Contains child m) :
    Contains n m

def Everywhere (P : AaaNode → Prop) (n : AaaNode) : Prop := ∀ m, n.Contains m → P m

theorem everywhere_iff {P : AaaNode → Prop} {n : AaaNode} :
    n.Everywhere P ↔ P n ∧ ∀ child ∈ n.children, child.Everywhere P := by
  constructor
  · intro h
    exact ⟨h n (.self n), fun child hchild m hm => h m (.under hchild hm)⟩
  · intro ⟨hn, hchildren⟩ m hm
    cases hm with
    | self => exact hn
    | under mem within => exact hchildren _ mem m within

/-- Two entries share a file name, or a name that is not empty. -/
def Share (a b : AaaNode) : Prop :=
  (∃ fileName, a.attributeValue "fileName".toList = some fileName ∧
    b.attributeValue "fileName".toList = some fileName) ∨
  ∃ name, name ≠ [] ∧ a.attributeValue "name".toList = some name ∧
    b.attributeValue "name".toList = some name

theorem Share.symm {a b : AaaNode} (h : a.Share b) : b.Share a := by
  rcases h with ⟨fileName, ha, hb⟩ | ⟨name, hname, ha, hb⟩
  · exact .inl ⟨fileName, hb, ha⟩
  · exact .inr ⟨name, hname, hb, ha⟩

/-- No two `RhoFolder` children share a name of theirs. -/
def EntriesDistinct (children : List AaaNode) : Prop :=
  (children.filter fun child => child.name = rhoFolder).Pairwise fun a b => ¬ a.Share b

/-- No two `PackFolder` children share a name. -/
def FoldersDistinct (children : List AaaNode) : Prop :=
  (children.filter fun child => child.name = packFolder).Pairwise fun a b =>
    ¬ ∃ name, a.attributeValue "name".toList = some name ∧
      b.attributeValue "name".toList = some name

/-- In every pack folder no two entries share a file name or a name that is not empty. -/
def Distinct (root : AaaNode) : Prop :=
  root.Everywhere fun n => n.name = packFolder → EntriesDistinct n.children

/-- A pack path leads to one folder. -/
def Unambiguous (root : AaaNode) : Prop :=
  root.Everywhere fun n => n.name = packFolder → FoldersDistinct n.children

/-- The entries that an upsert finds at the end of a path. -/
def entriesAt (rho : AaaRhoFolder) : (packPath : List Text) → AaaNode → List AaaNode
  | [], folder => folder.children.filter rho.isEntry
  | component :: rest, folder =>
    ((folder.children.find? (isFolder component)).map (entriesAt rho rest)).getD []

theorem entriesAt_childless (rho : AaaRhoFolder) (packPath : List Text) {folder : AaaNode}
    (h : folder.children = []) : entriesAt rho packPath folder = [] := by
  cases packPath <;> simp [entriesAt, h]

theorem find_split {found : AaaNode → Bool} {before after : List AaaNode} {child : AaaNode}
    (hchild : found child = true) (hbefore : ∀ other ∈ before, found other = false) :
    (before ++ child :: after).find? found = some child := by
  rw [List.find?_append, List.find?_eq_none.mpr fun other hother => by simp [hbefore other hother],
    List.find?_cons_of_pos hchild]
  rfl

theorem packFolder_ne_rhoFolder : packFolder ≠ rhoFolder := by decide

/-- Replacing a folder by a folder leaves the entries as they are. -/
theorem entriesDistinct_folder {before after : List AaaNode} {child child' : AaaNode}
    (h : child.name = packFolder) (h' : child'.name = packFolder) :
    EntriesDistinct (before ++ child' :: after) ↔ EntriesDistinct (before ++ child :: after) := by
  unfold EntriesDistinct
  rw [List.filter_append, List.filter_append, List.filter_cons_of_neg, List.filter_cons_of_neg]
  · simpa [h] using packFolder_ne_rhoFolder
  · simpa [h'] using packFolder_ne_rhoFolder

/-- An entry among the others. -/
theorem entriesDistinct_entry {before after : List AaaNode} {entry : AaaNode}
    (h : entry.name = rhoFolder) : EntriesDistinct (before ++ entry :: after) ↔
      (∀ other ∈ before ++ after, other.name = rhoFolder → ¬ entry.Share other) ∧
        EntriesDistinct (before ++ after) := by
  unfold EntriesDistinct
  rw [List.filter_append, List.filter_cons_of_pos (by simpa using h),
    List.pairwise_middle fun hne hshare => hne hshare.symm, List.pairwise_cons,
    ← List.filter_append]
  refine and_congr_left fun _ => ?_
  simp only [List.mem_filter, decide_eq_true_eq, and_imp]

end AaaNode

open AaaNode

variable {rho : AaaRhoFolder}

/-- The rewritten entry shares a name with the entries an upsert looks for. -/
theorem share_assign {entry other : AaaNode} (h : other.name = rhoFolder) :
    (rho.assign entry).Share other ↔ rho.isEntry other = true := by
  have hname : (rho.assign entry).attributeValue "name".toList = some rho.name :=
    rho.attributeValue_assign entry ("name".toList, rho.name) (by simp [AaaRhoFolder.fields])
  unfold Share AaaRhoFolder.isEntry
  rw [rho.fileName_assign, hname, decide_eq_true_eq, and_iff_right h]
  constructor
  · intro hshare
    rcases hshare with ⟨fileName, hsame, hother⟩ | ⟨name, hne, hsame, hother⟩
    · exact .inl (hsame ▸ hother)
    · exact .inr ⟨Option.some.inj hsame ▸ hne, hsame ▸ hother⟩
  · intro hentry
    rcases hentry with hother | ⟨hne, hother⟩
    · exact .inl ⟨_, rfl, hother⟩
    · exact .inr ⟨_, hne, rfl, hother⟩

/-- Beside the rewritten entry no other may be a match. -/
theorem entriesDistinct_assign {before after : List AaaNode} {entry : AaaNode}
    (hentry : entry.name = rhoFolder) (h : EntriesDistinct (before ++ after)) :
    EntriesDistinct (before ++ rho.assign entry :: after) ↔
      (before ++ after).filter rho.isEntry = [] := by
  rw [entriesDistinct_entry ((rho.name_assign entry).trans hentry), and_iff_left h,
    List.filter_eq_nil_iff]
  refine forall_congr' fun other => forall_congr' fun _ => ?_
  constructor
  · intro hshare hmatch
    have hother : other.name = rhoFolder := (of_decide_eq_true hmatch).1
    exact hshare hother ((share_assign hother).mpr hmatch)
  · intro hmatch hother hshare
    exact hmatch ((share_assign hother).mp hshare)

theorem distinct_withChildren {folder : AaaNode} (h : folder.name = packFolder)
    (children : List AaaNode) : (folder.withChildren children).Distinct ↔
      EntriesDistinct children ∧ ∀ child ∈ children, child.Distinct := by
  unfold Distinct
  rw [everywhere_iff, children_withChildren, name_withChildren]
  exact and_congr_left fun _ => ⟨fun hd => hd h, fun hd _ => hd⟩

theorem distinct_of_folder {folder : AaaNode} (h : folder.name = packFolder)
    (hd : folder.Distinct) :
    EntriesDistinct folder.children ∧ ∀ child ∈ folder.children, child.Distinct :=
  ⟨(everywhere_iff.mp hd).1 h, (everywhere_iff.mp hd).2⟩

/-- An entry's own name does not matter to what is below it. -/
theorem distinct_assign {entry : AaaNode} (hentry : entry.name = rhoFolder)
    (h : entry.Distinct) : (rho.assign entry).Distinct := by
  have hname : (rho.assign entry).name = rhoFolder := (rho.name_assign entry).trans hentry
  refine everywhere_iff.mpr ⟨fun hpack => ?_, ?_⟩
  · exact absurd (hpack.symm.trans hname) packFolder_ne_rhoFolder
  · rw [(rho.assign_rewritten entry).children]
    exact (everywhere_iff.mp h).2

theorem distinct_of_childless {n : AaaNode} (h : n.children = []) : n.Distinct := by
  refine everywhere_iff.mpr ⟨fun _ => ?_, fun child hchild => ?_⟩
  · rw [h]
    exact List.Pairwise.nil
  · rw [h] at hchild
    exact absurd hchild List.not_mem_nil

/-- At the end of the path: the match keeps the entries distinct when it is the only one. -/
theorem distinct_entry {folder : AaaNode} (hfolder : folder.name = packFolder)
    (hd : folder.Distinct) : (folder.upsert rho []).Distinct ↔
      (folder.children.filter rho.isEntry).length ≤ 1 := by
  obtain ⟨hentries, hbelow⟩ := distinct_of_folder hfolder hd
  unfold AaaNode.upsert
  rw [distinct_withChildren hfolder]
  rcases first_match rho.isEntry folder.children with
    ⟨before, entry, after, hchildren, hentry, hbefore⟩ | hnone
  · have hname : entry.name = rhoFolder := (of_decide_eq_true hentry).1
    have hpre : before.filter rho.isEntry = [] :=
      List.filter_eq_nil_iff.mpr fun other hother => by simp [hbefore other hother]
    rw [hchildren] at hentries hbelow
    have hown : (rho.assign entry).Distinct := distinct_assign hname (hbelow entry (by simp))
    rw [hchildren, editFirst_split hentry hbefore, and_iff_left (forall_replaced hbelow hown),
      entriesDistinct_assign hname ((entriesDistinct_entry hname).mp hentries).2,
      List.filter_append, List.filter_append, hpre, List.nil_append, List.nil_append,
      List.filter_cons_of_pos hentry, List.length_cons, ← List.length_eq_zero_iff]
    omega
  · have hnil : folder.children.filter rho.isEntry = [] :=
      List.filter_eq_nil_iff.mpr fun other hother => by simp [hnone other hother]
    have hfresh : (AaaNode.new rhoFolder).name = rhoFolder := rfl
    rw [editFirst_none hnone, hnil]
    refine iff_of_true ⟨?_, ?_⟩ (Nat.zero_le 1)
    · rw [entriesDistinct_assign hfresh (by simpa using hentries), List.append_nil, hnil]
    · exact List.forall_mem_append.mpr ⟨hbelow, List.forall_mem_singleton.mpr
        (distinct_assign hfresh (distinct_of_childless rfl))⟩

/-- Entries stay distinct exactly when at most one of the folder's entries has a name of the
archive. -/
theorem distinct_upsert (packPath : List Text) {folder : AaaNode}
    (hfolder : folder.name = packFolder) (hd : folder.Distinct) :
    (folder.upsert rho packPath).Distinct ↔ (entriesAt rho packPath folder).length ≤ 1 := by
  induction packPath generalizing folder with
  | nil => exact distinct_entry hfolder hd
  | cons component rest ih =>
    obtain ⟨hentries, hbelow⟩ := distinct_of_folder hfolder hd
    unfold AaaNode.upsert entriesAt
    rw [distinct_withChildren hfolder]
    rcases first_match (isFolder component) folder.children with
      ⟨before, child, after, hchildren, hchild, hbefore⟩ | hnone
    · have hname : child.name = packFolder := (of_decide_eq_true hchild).1
      have hname' : (child.upsert rho rest).name = packFolder :=
        (of_decide_eq_true (isFolder_upsert rest hchild)).1
      rw [hchildren] at hentries hbelow
      rw [hchildren, editFirst_split hchild hbefore, find_split hchild hbefore,
        and_iff_right ((entriesDistinct_folder hname hname').mpr hentries)]
      exact Iff.trans ⟨fun h => h _ (by simp), fun h => forall_replaced hbelow h⟩
        (ih hname (hbelow child (by simp)))
    · -- the path goes on in a new folder, which holds nothing
      have hname : (newFolder component).name = packFolder :=
        (of_decide_eq_true (isFolder_newFolder component)).1
      have hname' : ((newFolder component).upsert rho rest).name = packFolder :=
        (of_decide_eq_true (isFolder_upsert rest (isFolder_newFolder component))).1
      have hempty : (entriesAt rho rest (newFolder component)).length ≤ 1 := by
        rw [entriesAt_childless rho rest rfl]
        exact Nat.zero_le 1
      have hfind : folder.children.find? (isFolder component) = none :=
        List.find?_eq_none.mpr fun other hother => by simp [hnone other hother]
      rw [editFirst_none hnone, hfind]
      refine iff_of_true ⟨?_, ?_⟩ (Nat.zero_le 1)
      · unfold EntriesDistinct
        rw [List.filter_append, List.filter_cons_of_neg (by
          simpa [hname'] using packFolder_ne_rhoFolder), List.filter_nil, List.append_nil]
        exact hentries
      · exact List.forall_mem_append.mpr ⟨hbelow, List.forall_mem_singleton.mpr
          ((ih hname (distinct_of_childless rfl)).mpr hempty)⟩

/-! ## Reading the mounts -/

namespace AaaNode

theorem collectChild_folder {n : AaaNode} (h : n.name = packFolder) (packPath : List Text) :
    n.collectChild packPath = (do
      let name ← n.requiredAttribute "name".toList
      collectChildren n.children (packPath ++ [name])) := by
  cases n
  unfold collectChild
  exact if_pos h

theorem collectChild_entry {n : AaaNode} (h : n.name = rhoFolder) (packPath : List Text) :
    n.collectChild packPath = (do
      let mount ← n.mount packPath
      return [mount]) := by
  cases n
  unfold collectChild
  exact (if_neg fun hpack => packFolder_ne_rhoFolder (hpack.symm.trans h)).trans (if_pos h)

theorem collectChild_other {n : AaaNode} (h : n.name ≠ packFolder) (h' : n.name ≠ rhoFolder)
    (packPath : List Text) : n.collectChild packPath = .ok [] := by
  cases n
  unfold collectChild
  exact (if_neg h).trans (if_neg h')

theorem collectChildren_cons_ok {child : AaaNode} {rest : List AaaNode} {packPath : List Text}
    {mounts : List AaaRhoMount} : collectChildren (child :: rest) packPath = .ok mounts ↔
      ∃ own others, child.collectChild packPath = .ok own ∧
        collectChildren rest packPath = .ok others ∧ mounts = own ++ others := by
  rw [collectChildren]
  simp only [bind_eq_ok_iff]
  constructor
  · intro ⟨own, hown, others, hothers, h⟩
    exact ⟨own, others, hown, hothers, (Except.ok.inj h).symm⟩
  · intro ⟨own, others, hown, hothers, h⟩
    exact ⟨own, hown, others, hothers, congrArg Except.ok h.symm⟩

theorem collectChildren_append_ok {before after : List AaaNode} {packPath : List Text}
    {mounts : List AaaRhoMount} : collectChildren (before ++ after) packPath = .ok mounts ↔
      ∃ own others, collectChildren before packPath = .ok own ∧
        collectChildren after packPath = .ok others ∧ mounts = own ++ others := by
  induction before generalizing mounts with
  | nil =>
    constructor
    · intro h
      exact ⟨[], mounts, rfl, h, rfl⟩
    · intro ⟨own, others, hown, hothers, h⟩
      cases hown
      exact h ▸ hothers
  | cons child rest ih =>
    rw [List.cons_append, collectChildren_cons_ok]
    simp only [ih, collectChildren_cons_ok]
    constructor
    · intro ⟨own, _, hown, ⟨mid, others, hmid, hothers, hrest⟩, h⟩
      refine ⟨own ++ mid, others, ⟨own, mid, hown, hmid, rfl⟩, hothers, ?_⟩
      rw [h, hrest, List.append_assoc]
    · intro ⟨_, others, ⟨own, mid, hown, hmid, hfirst⟩, hothers, h⟩
      refine ⟨own, mid ++ others, hown, ⟨mid, others, hmid, hothers, rfl⟩, ?_⟩
      rw [h, hfirst, List.append_assoc]

theorem requiredAttribute_ok {n : AaaNode} {name value : Text} :
    n.requiredAttribute name = .ok value ↔ n.attributeValue name = some value := by
  unfold requiredAttribute
  cases n.attributeValue name with
  | none => exact iff_of_false (fun h => by cases h) (by simp)
  | some found =>
    constructor
    · intro h
      exact congrArg some (Except.ok.inj h)
    · intro h
      exact congrArg Except.ok (Option.some.inj h)

/-- A mount has the path and the names of its entry. -/
theorem mount_ok {n : AaaNode} {packPath : List Text} {mount : AaaRhoMount}
    (h : n.mount packPath = .ok mount) : mount.packPath = packPath ∧
      n.attributeValue "name".toList = some mount.folder.name ∧
      n.attributeValue "fileName".toList = some mount.folder.fileName := by
  obtain ⟨name, hname, h⟩ := bind_eq_ok h
  obtain ⟨fileName, hfileName, h⟩ := bind_eq_ok h
  obtain ⟨key, _, h⟩ := bind_eq_ok h
  obtain ⟨dataHash, _, h⟩ := bind_eq_ok h
  obtain ⟨mediaSize, _, h⟩ := bind_eq_ok h
  cases h
  exact ⟨rfl, requiredAttribute_ok.mp hname, requiredAttribute_ok.mp hfileName⟩

mutual

/-- Mounts lie below the path they are collected with. -/
theorem collectChildren_below : (children : List AaaNode) → (packPath : List Text) →
    (mounts : List AaaRhoMount) → collectChildren children packPath = .ok mounts →
      ∀ mount ∈ mounts, packPath <+: mount.packPath
  | [], _, _, h, mount, hmount => by
    cases h
    exact absurd hmount List.not_mem_nil
  | child :: rest, packPath, _, h, mount, hmount => by
    obtain ⟨own, others, hown, hothers, hmounts⟩ := collectChildren_cons_ok.mp h
    rw [hmounts] at hmount
    rcases List.mem_append.mp hmount with hmem | hmem
    · exact collectChild_below child packPath own hown mount hmem
    · exact collectChildren_below rest packPath others hothers mount hmem

theorem collectChild_below : (child : AaaNode) → (packPath : List Text) →
    (mounts : List AaaRhoMount) → child.collectChild packPath = .ok mounts →
      ∀ mount ∈ mounts, packPath <+: mount.packPath
  | .node name text attributes children, packPath, mounts, h, mount, hmount => by
    by_cases hpack : (node name text attributes children).name = packFolder
    · rw [collectChild_folder hpack] at h
      obtain ⟨component, _, h⟩ := bind_eq_ok h
      have hbelow := collectChildren_below children (packPath ++ [component]) mounts h mount hmount
      exact (List.prefix_append packPath [component]).trans hbelow
    · by_cases hrho : (node name text attributes children).name = rhoFolder
      · rw [collectChild_entry hrho] at h
        obtain ⟨own, hown, h⟩ := bind_eq_ok h
        cases h
        rw [List.mem_singleton.mp hmount, (mount_ok hown).1]
      · rw [collectChild_other hpack hrho] at h
        cases h
        exact absurd hmount List.not_mem_nil

end

/-- A folder's mounts lie below its name. -/
theorem collectChild_folder_below {child : AaaNode} {packPath : List Text} {name : Text}
    {mounts : List AaaRhoMount} (h : child.name = packFolder)
    (hname : child.attributeValue "name".toList = some name)
    (hmounts : child.collectChild packPath = .ok mounts) :
    ∀ mount ∈ mounts, packPath ++ [name] <+: mount.packPath := by
  rw [collectChild_folder h] at hmounts
  obtain ⟨component, hcomponent, hmounts⟩ := bind_eq_ok hmounts
  rw [requiredAttribute_ok.mp hcomponent] at hname
  cases hname
  exact collectChildren_below _ _ _ hmounts

end AaaNode

end P4475
