import P4475.Assets.ThemeOrder

/-!
# Themes and their rows

The themes that are asked for are a `BTreeMap`, so they come in the order of their folded names.
What a turn of the merge does to the rows: it leaves them, or puts the theme's row among those it
keeps.
-/

namespace P4475.Assets

open Lib

/-! ## Letters, paths and attributes -/

theorem eqIgnoreAsciiCase_iff {a b : Text} :
    eqIgnoreAsciiCase a b = true ↔ toAsciiLowercase a = toAsciiLowercase b := by
  unfold eqIgnoreAsciiCase toAsciiLowercase
  exact beq_iff_eq

theorem eqIgnoreAsciiCase_self (a : Text) : eqIgnoreAsciiCase a a = true :=
  eqIgnoreAsciiCase_iff.mpr rfl

theorem eqIgnoreAsciiCase_congr {a b : Text} (h : toAsciiLowercase a = toAsciiLowercase b)
    (c : Text) : eqIgnoreAsciiCase c a = eqIgnoreAsciiCase c b := by
  unfold toAsciiLowercase at h
  unfold eqIgnoreAsciiCase
  rw [h]

/-- A lower-case letter is at least `a`, so what is below comes from itself. -/
theorem eq_of_toLower {c d : Char} (h : c.toLower = d) (hd : d.toNat < 97) : c = d := by
  unfold Char.toLower at h
  split at h
  next hupper =>
    have hvalue : (c.val + ('a'.val - 'A'.val)).toNat = d.toNat := by rw [← h]; rfl
    have hlow : 65 ≤ c.val.toNat := hupper.1
    have hhigh : c.val.toNat ≤ 90 := hupper.2
    have hshift : ('a'.val - 'A'.val).toNat = 32 := by decide
    rw [UInt32.toNat_add, hshift] at hvalue
    omega
  next => exact h

/-- A text in lower-case that has no letters is spelled in one way. -/
theorem eq_of_toAsciiLowercase {a b : Text} (h : toAsciiLowercase a = b)
    (hb : ∀ c ∈ b, c.toNat < 97) : a = b := by
  unfold toAsciiLowercase at h
  induction a generalizing b with
  | nil => exact h
  | cons c a ih =>
    rw [← h, List.map_cons] at hb ⊢
    obtain ⟨hc, ha⟩ := List.forall_mem_cons.mp hb
    rw [← eq_of_toLower rfl hc, ← ih rfl ha]

theorem slashed_toLower (c : Char) :
    (if c = '\\' then '/' else c).toLower = if c.toLower = '\\' then '/' else c.toLower := by
  by_cases hc : c = '\\'
  · subst hc
    rfl
  · have hlower : ¬ c.toLower = '\\' := fun h => hc (eq_of_toLower h (by decide))
    rw [if_neg hc, if_neg hlower]

theorem toAsciiLowercase_trimSlashes (path : Text) :
    toAsciiLowercase (trimSlashes path) = trimSlashes (toAsciiLowercase path) := by
  have hslash :
      ((fun c : Char => decide (c = '/')) ∘ Char.toLower) = fun c => decide (c = '/') := by
    funext c
    show decide (c.toLower = '/') = decide (c = '/')
    congr 1
    apply propext
    constructor
    · intro h
      exact eq_of_toLower h (by decide)
    · intro h
      rw [h]
      rfl
  have hmap : ∀ l : Text, (l.map Char.toLower).dropWhile (fun c => decide (c = '/')) =
      (l.dropWhile (fun c => decide (c = '/'))).map Char.toLower := by
    intro l
    rw [List.dropWhile_map, hslash]
  unfold toAsciiLowercase trimSlashes
  rw [hmap, ← List.map_reverse, hmap, List.map_reverse]

/-- Paths that differ in the case of their letters fold to the same. -/
theorem foldPath_congr {a b : Text} (h : toAsciiLowercase a = toAsciiLowercase b) :
    foldPath a = foldPath b := by
  have key : ∀ path : Text, foldPath path = trimSlashes
      ((toAsciiLowercase path).map fun c => if c = '\\' then '/' else c) := by
    intro path
    unfold foldPath
    rw [toAsciiLowercase_trimSlashes]
    congr 1
    unfold toAsciiLowercase
    rw [List.map_map, List.map_map]
    apply List.map_congr_left
    intro c _
    exact slashed_toLower c
  rw [key, key, h]

theorem attributeOf_setAttribute (name value other : Text) (node : BmlNode) :
    attributeOf (setAttribute name value node) other =
      if eqIgnoreAsciiCase name other then some value else attributeOf node other := by
  obtain ⟨own, text, attributes, children⟩ := node
  show ((assign name value attributes).find? _).map Prod.snd = _
  unfold assign
  by_cases hsame : eqIgnoreAsciiCase name other = true
  · rw [if_pos hsame]
    have hname : ∀ entry : Text × Text,
        eqIgnoreAsciiCase entry.1 name = eqIgnoreAsciiCase entry.1 other :=
      fun entry => eqIgnoreAsciiCase_congr (eqIgnoreAsciiCase_iff.mp hsame) entry.1
    induction attributes with
    | nil => simp [editFirst, hsame]
    | cons entry rest ih =>
      rw [editFirst]
      by_cases hentry : eqIgnoreAsciiCase entry.1 name = true
      · have hhit := (hname entry).symm.trans hentry
        simp [hentry, hhit]
      · have hno : eqIgnoreAsciiCase entry.1 other = false := by
          rw [← hname]
          exact Bool.eq_false_iff.mpr hentry
        rw [if_neg hentry, List.find?_cons, hno]
        exact ih
  · rw [if_neg hsame]
    show _ = (attributes.find? _).map Prod.snd
    have hother : ∀ entry : Text × Text, eqIgnoreAsciiCase entry.1 name = true →
        ¬ eqIgnoreAsciiCase entry.1 other = true := by
      intro entry hentry hboth
      apply hsame
      rw [eqIgnoreAsciiCase_iff] at hentry hboth ⊢
      exact hentry.symm.trans hboth
    induction attributes with
    | nil => simp [editFirst, hsame]
    | cons entry rest ih =>
      rw [editFirst]
      by_cases hentry : eqIgnoreAsciiCase entry.1 name = true
      · have hno := hother entry hentry
        simp [hentry, hno]
      · rw [if_neg hentry]
        by_cases hhit : eqIgnoreAsciiCase entry.1 other = true
        · simp [hhit]
        · rw [List.find?_cons, List.find?_cons, Bool.eq_false_iff.mpr hhit]
          exact ih

theorem children_withChildren (children : List BmlNode) (node : BmlNode) :
    BmlNode.children (withChildren children node) = children := by
  cases node
  rfl

/-! ## Themes -/

def fengshenSlot : ThemeSlotAlias :=
  ⟨"xyy".toList, "17".toList, "themeFengshen".toList, "fengshen".toList, "themeXyy".toList⟩

theorem themeSlotAlias_some {theme : Text} {slot : ThemeSlotAlias}
    (h : themeSlotAlias theme = some slot) :
    slot = fengshenSlot ∧ toAsciiLowercase theme = "fengshen".toList := by
  unfold themeSlotAlias at h
  split at h
  next hname =>
    cases h
    exact ⟨rfl, eqIgnoreAsciiCase_iff.mp hname⟩
  next => cases h

theorem registrationId_alias {theme : Text} {slot : ThemeSlotAlias}
    (h : themeSlotAlias theme = some slot) : selectorRegistrationId theme = "17".toList := by
  unfold selectorRegistrationId
  rw [h, (themeSlotAlias_some h).1]
  rfl

theorem registrationId_native {theme : Text} (h : themeSlotAlias theme = none) :
    selectorRegistrationId theme = theme := by
  unfold selectorRegistrationId
  rw [h]
  rfl

/-- A name that is not one of the client's. -/
theorem native_ne {theme : Text} (h : isNativeTheme theme = true) {other : Text}
    (hother : ∀ native ∈ nativeThemes, eqIgnoreAsciiCase native other = false) :
    toAsciiLowercase theme ≠ toAsciiLowercase other := by
  obtain ⟨native, hnative, hsame⟩ := List.any_eq_true.mp h
  intro he
  have hhit := eqIgnoreAsciiCase_iff.mpr ((eqIgnoreAsciiCase_iff.mp hsame).trans he)
  rw [hother native hnative] at hhit
  cases hhit

theorem native_ne_slotId {theme : Text} (h : isNativeTheme theme = true) :
    toAsciiLowercase theme ≠ toAsciiLowercase "17".toList := native_ne h (by decide +kernel)

theorem native_ne_fengshen {theme : Text} (h : isNativeTheme theme = true) :
    toAsciiLowercase theme ≠ toAsciiLowercase "fengshen".toList := native_ne h (by decide +kernel)

/-- The themes that are asked for: a `BTreeMap` from their folded names to their names. -/
structure RequestedThemes where
  entries : List (Text × Text)
  sorted : entries.Pairwise fun earlier later => earlier.1 < later.1
  folded : ∀ entry ∈ entries, entry.1 = foldPath entry.2
  known : ∀ entry ∈ entries, isNativeTheme entry.2 = true ∨ (themeSlotAlias entry.2).isSome = true

variable {themes : RequestedThemes} {theme other : Text × Text}

theorem RequestedThemes.native (hmem : theme ∈ themes.entries)
    (h : themeSlotAlias theme.2 = none) : isNativeTheme theme.2 = true := by
  rcases themes.known theme hmem with hknown | hknown
  · exact hknown
  · rw [h] at hknown
    cases hknown

/-- Requests that differ have different registration ids. -/
theorem RequestedThemes.registrationId_ne (hmem : theme ∈ themes.entries)
    (hother : other ∈ themes.entries) (hne : theme.1 ≠ other.1) :
    toAsciiLowercase (selectorRegistrationId theme.2) ≠
      toAsciiLowercase (selectorRegistrationId other.2) := by
  have hnames : toAsciiLowercase theme.2 ≠ toAsciiLowercase other.2 := by
    intro he
    apply hne
    rw [themes.folded theme hmem, themes.folded other hother, foldPath_congr he]
  cases ht : themeSlotAlias theme.2 with
  | none =>
    rw [registrationId_native ht]
    cases ho : themeSlotAlias other.2 with
    | none =>
      rw [registrationId_native ho]
      exact hnames
    | some slot =>
      rw [registrationId_alias ho]
      exact native_ne_slotId (themes.native hmem ht)
  | some slot =>
    cases ho : themeSlotAlias other.2 with
    | none =>
      rw [registrationId_alias ht, registrationId_native ho]
      exact (native_ne_slotId (themes.native hother ho)).symm
    | some slot' =>
      exact absurd ((themeSlotAlias_some ht).2.trans (themeSlotAlias_some ho).2.symm) hnames

theorem RequestedThemes.alias_key (hmem : theme ∈ themes.entries)
    (h : (themeSlotAlias theme.2).isSome = true) : theme.1 = "fengshen".toList := by
  obtain ⟨slot, hslot⟩ := Option.isSome_iff_exists.mp h
  have hname : toAsciiLowercase theme.2 = toAsciiLowercase "fengshen".toList :=
    (themeSlotAlias_some hslot).2
  rw [themes.folded theme hmem, foldPath_congr hname]
  decide +kernel

theorem RequestedThemes.xyy_key (hmem : theme ∈ themes.entries)
    (h : toAsciiLowercase theme.2 = "xyy".toList) : theme.1 = "xyy".toList := by
  have hname : toAsciiLowercase theme.2 = toAsciiLowercase "xyy".toList := h
  rw [themes.folded theme hmem, foldPath_congr hname]
  decide +kernel

/-! ## Rows -/

theorem isRow_congr {id id' : Text} (h : toAsciiLowercase id = toAsciiLowercase id')
    (node : BmlNode) : isRow id node = isRow id' node := by
  unfold isRow
  cases rowId node with
  | none => rfl
  | some own => exact eqIgnoreAsciiCase_congr h own

/-- A row has one id. -/
theorem isRow_ne {id id' : Text} {node : BmlNode} (h : isRow id node = true)
    (hne : toAsciiLowercase id ≠ toAsciiLowercase id') : isRow id' node = false := by
  rw [Bool.eq_false_iff]
  intro h'
  unfold isRow at h h'
  cases hown : rowId node with
  | none =>
    rw [hown] at h
    cases h
  | some own =>
    rw [hown] at h h'
    exact hne ((eqIgnoreAsciiCase_iff.mp h).symm.trans (eqIgnoreAsciiCase_iff.mp h'))

/-- The rows of the aliased theme and of its slot. -/
def isSlotRow (node : BmlNode) : Bool :=
  isRow "fengshen".toList node || isRow "xyy".toList node || isRow "17".toList node

theorem isAliasRow_eq {original : Text} {slot : ThemeSlotAlias}
    (h : themeSlotAlias original = some slot) (node : BmlNode) :
    isAliasRow original slot node = isSlotRow node := by
  obtain ⟨rfl, hname⟩ := themeSlotAlias_some h
  unfold isAliasRow isSlotRow isRow
  rw [registrationId_alias h]
  cases rowId node with
  | none => rfl
  | some own =>
    show (_ || _ || _) = (_ || _ || _)
    have horiginal : toAsciiLowercase original = toAsciiLowercase "fengshen".toList := hname
    congr 1
    · rw [eqIgnoreAsciiCase_congr horiginal own]
      rfl
    · -- the slot's number is spelled in one way
      show (own == "17".toList) = eqIgnoreAsciiCase own "17".toList
      rw [Bool.eq_iff_iff, beq_iff_eq, eqIgnoreAsciiCase_iff]
      constructor
      · intro h
        rw [h]
      · intro h
        have hdigits : ∀ c ∈ ['1', '7'], c.toNat < 97 :=
          List.forall_mem_cons.mpr ⟨by decide, List.forall_mem_singleton.mpr (by decide)⟩
        exact eq_of_toAsciiLowercase h hdigits

theorem keptRows_alias {original : Text} (h : (themeSlotAlias original).isSome = true)
    (rows : List BmlNode) : keptRows original rows = rows.filter (!isSlotRow ·) := by
  obtain ⟨slot, hslot⟩ := Option.isSome_iff_exists.mp h
  unfold keptRows
  rw [hslot]
  show rows.filter (!isAliasRow original slot ·) = _
  congr 1
  funext node
  rw [isAliasRow_eq hslot]

theorem keptRows_native {original : Text} (h : themeSlotAlias original = none)
    (rows : List BmlNode) : keptRows original rows = rows := by
  unfold keptRows
  rw [h]

theorem rowId_setAttribute (name value : Text) (node : BmlNode) :
    rowId (setAttribute name value node) =
      if eqIgnoreAsciiCase name "id".toList then some value else rowId node :=
  attributeOf_setAttribute name value _ node

/-- The row of a theme has its registration id. -/
theorem rowId_themeRow (sourceOrder : List BmlNode) (folded original : Text) :
    rowId (themeRow sourceOrder folded original) = some (selectorRegistrationId original) := by
  have hid : eqIgnoreAsciiCase "id".toList "id".toList = true := eqIgnoreAsciiCase_self _
  have hkey : ¬ eqIgnoreAsciiCase "stringKey".toList "id".toList = true := by decide +kernel
  have hicon : ¬ eqIgnoreAsciiCase "icon".toList "id".toList = true := by decide +kernel
  unfold themeRow
  dsimp only
  split
  next => rw [rowId_setAttribute, if_neg hicon, rowId_setAttribute, if_neg hkey,
    rowId_setAttribute, if_pos hid]
  next => rw [rowId_setAttribute, if_pos hid]

theorem isRow_themeRow (sourceOrder : List BmlNode) (folded original id : Text) :
    isRow id (themeRow sourceOrder folded original) =
      eqIgnoreAsciiCase (selectorRegistrationId original) id := by
  unfold isRow
  rw [rowId_themeRow]
  rfl

/-! ## One turn -/

variable {sourceOrder rows : List BmlNode}

theorem mergeTheme_present (h : themeSlotAlias theme.2 = none)
    (hpresent : rows.any (isRow (selectorRegistrationId theme.2)) = true) :
    mergeTheme sourceOrder rows theme = rows := by
  unfold mergeTheme
  rw [h, hpresent]
  rfl

theorem mergeTheme_place (h : (themeSlotAlias theme.2).isSome = true ∨
      rows.any (isRow (selectorRegistrationId theme.2)) = false) :
    mergeTheme sourceOrder rows theme = (keptRows theme.2 rows).insertIdx
      (themePlace sourceOrder theme.1 (keptRows theme.2 rows))
      (themeRow sourceOrder theme.1 theme.2) := by
  unfold mergeTheme
  rw [if_neg]
  intro hboth
  obtain ⟨hnative, hpresent⟩ := Bool.and_eq_true_iff.mp hboth
  rcases h with h | h
  · rw [Option.isNone_iff_eq_none.mp hnative] at h
    cases h
  · rw [h] at hpresent
    cases hpresent

theorem themePlace_le (sourceOrder : List BmlNode) (folded : Text) (rows : List BmlNode) :
    themePlace sourceOrder folded rows ≤ rows.length := by
  unfold themePlace
  split
  next => exact placeIndex_le ..
  next => exact Nat.le_refl _

/-- A turn leaves the rows, or puts one among those that it keeps. -/
theorem mergeTheme_cases (sourceOrder rows : List BmlNode) (theme : Text × Text) :
    (themeSlotAlias theme.2 = none ∧ rows.any (isRow (selectorRegistrationId theme.2)) = true ∧
      mergeTheme sourceOrder rows theme = rows) ∨
    (((themeSlotAlias theme.2).isSome = true ∨
        rows.any (isRow (selectorRegistrationId theme.2)) = false) ∧
      Inserted (themeRow sourceOrder theme.1 theme.2) (keptRows theme.2 rows)
        (mergeTheme sourceOrder rows theme)) := by
  have hplace : ∀ h, Inserted (themeRow sourceOrder theme.1 theme.2) (keptRows theme.2 rows)
      (mergeTheme sourceOrder rows theme) := fun h => by
    rw [mergeTheme_place h]
    exact inserted_insertIdx _ (themePlace_le ..)
  cases halias : themeSlotAlias theme.2 with
  | some slot =>
    have hsome : (themeSlotAlias theme.2).isSome = true := by rw [halias]; rfl
    exact .inr ⟨.inl rfl, hplace (.inl hsome)⟩
  | none =>
    cases hpresent : rows.any (isRow (selectorRegistrationId theme.2)) with
    | true => exact .inl ⟨rfl, rfl, mergeTheme_present halias hpresent⟩
    | false => exact .inr ⟨.inr rfl, hplace (.inr hpresent)⟩

end P4475.Assets
