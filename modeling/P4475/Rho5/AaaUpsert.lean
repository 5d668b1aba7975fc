import P4475.Rho5.AaaIndex

/-!
# What an upsert changes

`Upserted` says what `upsert_rho_folder` may do to a tree: along the path one child of each
folder changes, or a new one stands behind all; at its end one entry is rewritten, or a new
one stands behind all. Everything else is equal and in its place, and a second upsert of
the same archive changes nothing.
-/

namespace P4475

open Lib

namespace AaaNode

@[simp] theorem name_withChildren (n : AaaNode) (children : List AaaNode) :
    (n.withChildren children).name = n.name := by
  cases n
  rfl

@[simp] theorem children_withChildren (n : AaaNode) (children : List AaaNode) :
    (n.withChildren children).children = children := by
  cases n
  rfl

@[simp] theorem attributeValue_withChildren (n : AaaNode) (children : List AaaNode)
    (name : Text) : (n.withChildren children).attributeValue name = n.attributeValue name := by
  cases n
  rfl

@[simp] theorem withChildren_withChildren (n : AaaNode) (children children' : List AaaNode) :
    (n.withChildren children).withChildren children' = n.withChildren children' := by
  cases n
  rfl

@[simp] theorem name_setAttribute (n : AaaNode) (name value : Text) :
    (n.setAttribute name value).name = n.name := by
  cases n
  rfl

theorem attributeValue_setAttribute (n : AaaNode) (name other value : Text) :
    (n.setAttribute name value).attributeValue other =
      if name = other then some value else n.attributeValue other := by
  cases n
  exact assocGet_assocSet name other value _

/-- Setting an attribute to the value it has changes nothing. -/
theorem setAttribute_of_value {n : AaaNode} {name value : Text}
    (h : n.attributeValue name = some value) : n.setAttribute name value = n := by
  cases n
  exact congrArg (node _ _ · _) (assocSet_of_get h)

end AaaNode

namespace AaaRhoFolder

variable (rho : AaaRhoFolder)

/-- The entry has kept its name, its text and its children, and its attributes but for those
an upsert sets, which have the values of the archive. -/
structure Rewritten (entry entry' : AaaNode) : Prop where
  name : entry'.name = entry.name
  text : entry'.text = entry.text
  children : entry'.children = entry.children
  attributes : Retained (rho.fields.map Prod.fst) entry.attributes entry'.attributes
  values : ∀ field ∈ rho.fields, entry'.attributeValue field.1 = some field.2

/-- The five assignments, whatever their order, keep the rest of the node. -/
theorem assign_retained (fields : List (Text × Text)) (names : List Text)
    (hnames : ∀ field ∈ fields, field.1 ∈ names) (entry : AaaNode) :
    let entry' := fields.foldl (fun n field => n.setAttribute field.1 field.2) entry
    entry'.name = entry.name ∧ entry'.text = entry.text ∧ entry'.children = entry.children ∧
      Retained names entry.attributes entry'.attributes := by
  induction fields generalizing entry with
  | nil => exact ⟨rfl, rfl, rfl, Retained.refl names entry.attributes⟩
  | cons field rest ih =>
    obtain ⟨hname, htext, hchildren, hattributes⟩ :=
      ih (fun f hf => hnames f (List.mem_cons_of_mem _ hf)) (entry.setAttribute field.1 field.2)
    have hfield := retained_assocSet (hnames field List.mem_cons_self) field.2 entry.attributes
    cases entry
    exact ⟨hname, htext, hchildren, hfield.trans hattributes⟩

/-- An attribute that is not among the assigned ones keeps its value. -/
theorem attributeValue_foldl {fields : List (Text × Text)} {name : Text}
    (h : name ∉ fields.map Prod.fst) (entry : AaaNode) :
    (fields.foldl (fun n field => n.setAttribute field.1 field.2) entry).attributeValue name =
      entry.attributeValue name := by
  induction fields generalizing entry with
  | nil => rfl
  | cons field rest ih =>
    rw [List.map_cons, List.mem_cons, not_or] at h
    rw [List.foldl_cons, ih h.2, AaaNode.attributeValue_setAttribute,
      if_neg fun hname => h.1 hname.symm]

/-- Assigned attributes have their values, when their names differ. -/
theorem attributeValue_of_assigned {fields : List (Text × Text)}
    (h : (fields.map Prod.fst).Nodup) (entry : AaaNode) :
    ∀ field ∈ fields, (fields.foldl (fun n field => n.setAttribute field.1 field.2)
      entry).attributeValue field.1 = some field.2 := by
  induction fields generalizing entry with
  | nil => exact fun field hfield => absurd hfield List.not_mem_nil
  | cons field rest ih =>
    rw [List.map_cons, List.nodup_cons] at h
    refine List.forall_mem_cons.mpr ⟨?_, ih h.2 _⟩
    rw [List.foldl_cons, attributeValue_foldl h.1, AaaNode.attributeValue_setAttribute, if_pos rfl]

theorem fields_nodup : (rho.fields.map Prod.fst).Nodup := by
  show ["name".toList, "fileName".toList, "key".toList, "dataHash".toList,
    "mediaSize".toList].Nodup
  decide

theorem attributeValue_assign (entry : AaaNode) :
    ∀ field ∈ rho.fields, (rho.assign entry).attributeValue field.1 = some field.2 :=
  attributeValue_of_assigned rho.fields_nodup entry

theorem assign_rewritten (entry : AaaNode) : rho.Rewritten entry (rho.assign entry) := by
  obtain ⟨hname, htext, hchildren, hattributes⟩ := assign_retained rho.fields
    (rho.fields.map Prod.fst) (fun field hfield => List.mem_map_of_mem hfield) entry
  exact ⟨hname, htext, hchildren, hattributes, rho.attributeValue_assign entry⟩

theorem name_assign (entry : AaaNode) : (rho.assign entry).name = entry.name :=
  (rho.assign_rewritten entry).name

/-- An entry that has the values already is left alone. -/
theorem assign_of_values (fields : List (Text × Text)) {entry : AaaNode}
    (h : ∀ field ∈ fields, entry.attributeValue field.1 = some field.2) :
    fields.foldl (fun n field => n.setAttribute field.1 field.2) entry = entry := by
  induction fields with
  | nil => rfl
  | cons field rest ih =>
    rw [List.foldl_cons, AaaNode.setAttribute_of_value (h field List.mem_cons_self)]
    exact ih fun f hf => h f (List.mem_cons_of_mem _ hf)

theorem assign_assign (entry : AaaNode) : rho.assign (rho.assign entry) = rho.assign entry :=
  assign_of_values rho.fields (rho.attributeValue_assign entry)

theorem fileName_assign (entry : AaaNode) :
    (rho.assign entry).attributeValue "fileName".toList = some rho.fileName :=
  rho.attributeValue_assign entry ("fileName".toList, rho.fileName) (by simp [fields])

theorem isEntry_assign {entry : AaaNode} (h : entry.name = rhoFolder) :
    rho.isEntry (rho.assign entry) = true :=
  decide_eq_true ⟨(rho.name_assign entry).trans h, .inl (rho.fileName_assign entry)⟩

end AaaRhoFolder

/-- What an upsert may make of a folder. -/
inductive Upserted (rho : AaaRhoFolder) : List Text → AaaNode → AaaNode → Prop
  | replaced {folder entry entry' : AaaNode} {before after : List AaaNode}
    (children : folder.children = before ++ entry :: after) (matched : rho.isEntry entry = true)
    (first : ∀ child ∈ before, rho.isEntry child = false) (rewritten : rho.Rewritten entry entry') :
    Upserted rho [] folder (folder.withChildren (before ++ entry' :: after))
  | added {folder entry' : AaaNode} (none : ∀ child ∈ folder.children, rho.isEntry child = false)
    (rewritten : rho.Rewritten (AaaNode.new rhoFolder) entry') :
    Upserted rho [] folder (folder.withChildren (folder.children ++ [entry']))
  | within {component : Text} {rest : List Text} {folder child child' : AaaNode}
    {before after : List AaaNode} (children : folder.children = before ++ child :: after)
    (matched : isFolder component child = true)
    (first : ∀ other ∈ before, isFolder component other = false)
    (upserted : Upserted rho rest child child') :
    Upserted rho (component :: rest) folder (folder.withChildren (before ++ child' :: after))
  | created {component : Text} {rest : List Text} {folder child' : AaaNode}
    (none : ∀ child ∈ folder.children, isFolder component child = false)
    (upserted : Upserted rho rest (newFolder component) child') :
    Upserted rho (component :: rest) folder (folder.withChildren (folder.children ++ [child']))

variable {rho : AaaRhoFolder}

theorem upsert_upserted (packPath : List Text) (folder : AaaNode) :
    Upserted rho packPath folder (folder.upsert rho packPath) := by
  induction packPath generalizing folder with
  | nil =>
    unfold AaaNode.upsert
    rcases first_match rho.isEntry folder.children with
      ⟨before, entry, after, hchildren, hentry, hbefore⟩ | hnone
    · rw [hchildren, editFirst_split hentry hbefore]
      exact .replaced hchildren hentry hbefore (rho.assign_rewritten entry)
    · rw [editFirst_none hnone]
      exact .added hnone (rho.assign_rewritten _)
  | cons component rest ih =>
    unfold AaaNode.upsert
    rcases first_match (isFolder component) folder.children with
      ⟨before, child, after, hchildren, hchild, hbefore⟩ | hnone
    · rw [hchildren, editFirst_split hchild hbefore]
      exact .within hchildren hchild hbefore (ih child)
    · rw [editFirst_none hnone]
      exact .created hnone (ih (newFolder component))

theorem isFolder_upsert {component : Text} {child : AaaNode} (packPath : List Text)
    (h : isFolder component child = true) :
    isFolder component (child.upsert rho packPath) = true := by
  unfold isFolder at *
  cases packPath <;> simpa [AaaNode.upsert] using h

theorem isFolder_newFolder (component : Text) : isFolder component (newFolder component) = true := by
  refine decide_eq_true ⟨AaaNode.name_setAttribute _ _ _, ?_⟩
  exact (AaaNode.attributeValue_setAttribute _ _ _ _).trans (if_pos rfl)

/-- A second upsert of the same archive changes nothing. -/
theorem upsert_upsert (packPath : List Text) (folder : AaaNode) :
    (folder.upsert rho packPath).upsert rho packPath = folder.upsert rho packPath := by
  induction packPath generalizing folder with
  | nil =>
    simp only [AaaNode.upsert, AaaNode.children_withChildren, AaaNode.withChildren_withChildren]
    rw [editFirst_editFirst _ (rho.isEntry_assign rfl) rho.assign_assign]
    intro entry hentry
    exact rho.isEntry_assign (of_decide_eq_true hentry).1
  | cons component rest ih =>
    simp only [AaaNode.upsert, AaaNode.children_withChildren, AaaNode.withChildren_withChildren]
    have hfresh : isFolder component ((newFolder component).upsert rho rest) = true :=
      isFolder_upsert rest (isFolder_newFolder component)
    rw [editFirst_editFirst (fun child hchild => isFolder_upsert rest hchild) hfresh ih]

end P4475
