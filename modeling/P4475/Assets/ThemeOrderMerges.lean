import P4475.Assets.ThemeRows

/-!
# What merging the order of the themes does

The aliased theme makes room for itself among the rows that `isSlotRow` names. Of these only the
row of the slot's own native theme can belong to another request, and that one comes later in the
order, so every request ends up registered. The other rows decide where the aliased theme goes,
which is why a second merge may still move it and a third one does not.
-/

namespace P4475.Assets

open Lib

variable {themes : RequestedThemes} {theme other : Text × Text} {sourceOrder rows : List BmlNode}

/-! ## How often an id occurs -/

/-- The rows that an alias takes out have no other id. -/
theorem notSlotRow {id : Text} {node : BmlNode} (h : isRow id node = true)
    (hfengshen : toAsciiLowercase id ≠ toAsciiLowercase "fengshen".toList)
    (hxyy : toAsciiLowercase id ≠ toAsciiLowercase "xyy".toList)
    (hslot : toAsciiLowercase id ≠ toAsciiLowercase "17".toList) : isSlotRow node = false := by
  unfold isSlotRow
  rw [isRow_ne h hfengshen, isRow_ne h hxyy, isRow_ne h hslot]
  rfl

/-- A native theme other than the slot's has none of the rows that an alias takes out. -/
theorem RequestedThemes.notSlotRow (hmem : theme ∈ themes.entries)
    (halias : themeSlotAlias theme.2 = none)
    (hxyy : toAsciiLowercase theme.2 ≠ toAsciiLowercase "xyy".toList) {node : BmlNode}
    (h : isRow (selectorRegistrationId theme.2) node = true) : isSlotRow node = false := by
  have hnative := themes.native hmem halias
  rw [registrationId_native halias] at h
  exact P4475.Assets.notSlotRow h (native_ne_fengshen hnative) hxyy (native_ne_slotId hnative)

theorem RequestedThemes.themeRow_other (hmem : theme ∈ themes.entries)
    (hother : other ∈ themes.entries) (hne : theme.1 ≠ other.1) :
    isRow (selectorRegistrationId theme.2) (themeRow sourceOrder other.1 other.2) = false := by
  rw [isRow_themeRow, Bool.eq_false_iff]
  intro h
  exact themes.registrationId_ne hmem hother hne (eqIgnoreAsciiCase_iff.mp h).symm

/-- The turn of another theme adds no row with the id. -/
theorem RequestedThemes.mergeTheme_count_le (hmem : theme ∈ themes.entries)
    (hother : other ∈ themes.entries) (hne : theme.1 ≠ other.1) :
    (mergeTheme sourceOrder rows other).countP (isRow (selectorRegistrationId theme.2)) ≤
      rows.countP (isRow (selectorRegistrationId theme.2)) := by
  rcases mergeTheme_cases sourceOrder rows other with ⟨-, -, hsame⟩ | ⟨-, hinserted⟩
  · rw [hsame]
  · rw [hinserted.countP_neg (themes.themeRow_other hmem hother hne)]
    cases halias : themeSlotAlias other.2 with
    | none => rw [keptRows_native halias]
    | some slot =>
      rw [keptRows_alias (by rw [halias]; rfl)]
      exact List.filter_sublist.countP_le

/-- The turn of a later theme takes none away either. -/
theorem RequestedThemes.mergeTheme_count_eq (hmem : theme ∈ themes.entries)
    (hother : other ∈ themes.entries) (hlt : theme.1 < other.1) :
    (mergeTheme sourceOrder rows other).countP (isRow (selectorRegistrationId theme.2)) =
      rows.countP (isRow (selectorRegistrationId theme.2)) := by
  have hne : theme.1 ≠ other.1 := fun he => List.lt_irrefl other.1 (he ▸ hlt)
  rcases mergeTheme_cases sourceOrder rows other with ⟨-, -, hsame⟩ | ⟨-, hinserted⟩
  · rw [hsame]
  · rw [hinserted.countP_neg (themes.themeRow_other hmem hother hne)]
    cases halias : themeSlotAlias other.2 with
    | none => rw [keptRows_native halias]
    | some slot =>
      have hsome : (themeSlotAlias other.2).isSome = true := by rw [halias]; rfl
      have hkey := themes.alias_key hother hsome
      rw [hkey] at hlt hne
      -- the slot's own theme comes after the aliased one
      have hxyy : toAsciiLowercase theme.2 ≠ toAsciiLowercase "xyy".toList := by
        intro he
        rw [themes.xyy_key hmem he] at hlt
        revert hlt
        decide +kernel
      have hnative : themeSlotAlias theme.2 = none := by
        cases ht : themeSlotAlias theme.2 with
        | none => rfl
        | some slot' => exact absurd (themes.alias_key hmem (by rw [ht]; rfl)) hne
      rw [keptRows_alias hsome, List.countP_filter]
      apply List.countP_congr
      intro node _
      rw [Bool.and_eq_true]
      constructor
      · exact And.left
      · intro hrow
        refine ⟨hrow, ?_⟩
        rw [themes.notSlotRow hmem hnative hxyy hrow]
        rfl

/-- Its own turn registers a theme, once if it was not registered twice. -/
theorem mergeTheme_count_self (sourceOrder rows : List BmlNode) (theme : Text × Text) :
    0 < (mergeTheme sourceOrder rows theme).countP (isRow (selectorRegistrationId theme.2)) ∧
      (rows.countP (isRow (selectorRegistrationId theme.2)) ≤ 1 →
        (mergeTheme sourceOrder rows theme).countP
          (isRow (selectorRegistrationId theme.2)) = 1) := by
  rcases mergeTheme_cases sourceOrder rows theme with ⟨-, hpresent, hsame⟩ | ⟨hplace, hinserted⟩
  · rw [hsame]
    obtain ⟨node, hnode, hrow⟩ := List.any_eq_true.mp hpresent
    have hpos := List.countP_pos_iff.mpr ⟨node, hnode, hrow⟩
    exact ⟨hpos, fun hle => by omega⟩
  · have hself : isRow (selectorRegistrationId theme.2)
        (themeRow sourceOrder theme.1 theme.2) = true := by
      rw [isRow_themeRow]
      exact eqIgnoreAsciiCase_self _
    have hnone : (keptRows theme.2 rows).countP (isRow (selectorRegistrationId theme.2)) = 0 := by
      rw [List.countP_eq_zero]
      intro node hnode hrow
      cases halias : themeSlotAlias theme.2 with
      | none =>
        rw [keptRows_native halias] at hnode
        rcases hplace with hsome | habsent
        · rw [halias] at hsome
          cases hsome
        · exact List.any_eq_false.mp habsent node hnode hrow
      | some slot =>
        rw [keptRows_alias (by rw [halias]; rfl)] at hnode
        have hkept := (List.mem_filter.mp hnode).2
        rw [registrationId_alias halias] at hrow
        unfold isSlotRow at hkept
        rw [hrow] at hkept
        simp at hkept
    rw [hinserted.countP_pos hself, hnone]
    exact ⟨by omega, fun _ => rfl⟩

/-! ## The whole loop -/

/-- The rows after the loop. -/
def mergedRows (sourceOrder : List BmlNode) (themes : RequestedThemes) (rows : List BmlNode) :
    List BmlNode := themes.entries.foldl (mergeTheme sourceOrder) rows

/-- A property that every turn keeps. -/
theorem foldl_mergeTheme {P : List BmlNode → Prop} {turns : List (Text × Text)}
    (h : ∀ turn ∈ turns, ∀ rows, P rows → P (mergeTheme sourceOrder rows turn)) (hrows : P rows) :
    P (turns.foldl (mergeTheme sourceOrder) rows) := by
  induction turns generalizing rows with
  | nil => exact hrows
  | cons turn turns ih =>
    exact ih (fun turn' hturn' => h turn' (List.mem_cons_of_mem _ hturn'))
      (h turn List.mem_cons_self rows hrows)

/-- A request splits the loop into what comes before it and what comes after. -/
theorem RequestedThemes.split (hmem : theme ∈ themes.entries) :
    ∃ earlier later, themes.entries = earlier ++ theme :: later ∧
      (∀ other ∈ earlier, other ∈ themes.entries ∧ other.1 < theme.1) ∧
      ∀ other ∈ later, other ∈ themes.entries ∧ theme.1 < other.1 := by
  obtain ⟨earlier, later, hsplit⟩ := List.append_of_mem hmem
  have hsorted := themes.sorted
  rw [hsplit] at hsorted
  obtain ⟨-, hlater, hearlier⟩ := List.pairwise_append.mp hsorted
  refine ⟨earlier, later, hsplit, fun other hother => ⟨?_, ?_⟩, fun other hother => ⟨?_, ?_⟩⟩
  · rw [hsplit]
    exact List.mem_append_left _ hother
  · exact hearlier other hother theme List.mem_cons_self
  · rw [hsplit]
    exact List.mem_append_right _ (List.mem_cons_of_mem _ hother)
  · exact (List.pairwise_cons.mp hlater).1 other hother

/-- **Every request is registered**, and once if it was not registered twice. -/
theorem RequestedThemes.merged_count (hmem : theme ∈ themes.entries)
    (sourceOrder rows : List BmlNode) :
    0 < (mergedRows sourceOrder themes rows).countP (isRow (selectorRegistrationId theme.2)) ∧
      (rows.countP (isRow (selectorRegistrationId theme.2)) ≤ 1 →
        (mergedRows sourceOrder themes rows).countP
          (isRow (selectorRegistrationId theme.2)) = 1) := by
  obtain ⟨earlier, later, hsplit, hearlier, hlater⟩ := themes.split hmem
  unfold mergedRows
  rw [hsplit, List.foldl_append, List.foldl_cons]
  have hbefore : (earlier.foldl (mergeTheme sourceOrder) rows).countP
      (isRow (selectorRegistrationId theme.2)) ≤
        rows.countP (isRow (selectorRegistrationId theme.2)) := by
    refine foldl_mergeTheme (P := fun rows' => rows'.countP
      (isRow (selectorRegistrationId theme.2)) ≤ _) ?_ (Nat.le_refl _)
    intro other hother rows' hle
    obtain ⟨hin, hlt⟩ := hearlier other hother
    have hne : theme.1 ≠ other.1 := fun he => List.lt_irrefl theme.1 (he ▸ hlt)
    exact Nat.le_trans (themes.mergeTheme_count_le hmem hin hne) hle
  obtain ⟨hpos, honce⟩ := mergeTheme_count_self sourceOrder
    (earlier.foldl (mergeTheme sourceOrder) rows) theme
  have hafter : ∀ rows', (later.foldl (mergeTheme sourceOrder) rows').countP
      (isRow (selectorRegistrationId theme.2)) =
        rows'.countP (isRow (selectorRegistrationId theme.2)) := by
    intro rows'
    refine foldl_mergeTheme (P := fun rows'' => rows''.countP
      (isRow (selectorRegistrationId theme.2)) = _) ?_ rfl
    intro other hother rows'' he
    obtain ⟨hin, hlt⟩ := hlater other hother
    exact (themes.mergeTheme_count_eq hmem hin hlt).trans he
  rw [hafter]
  exact ⟨hpos, fun hle => honce (Nat.le_trans hbefore hle)⟩

/-- A row that belongs to no request: its id is no registration id, and none of the names that an
aliased theme takes over. -/
def isForeign (turns : List (Text × Text)) (node : BmlNode) : Bool :=
  turns.all fun theme => !isRow (selectorRegistrationId theme.2) node &&
    (themeSlotAlias theme.2).all fun slot =>
      !isRow theme.2 node && !isRow slot.nativeCode node

/-- **Other rows keep their content and their order.** -/
theorem mergeTheme_foreign {turns : List (Text × Text)} (hmem : theme ∈ turns) :
    (mergeTheme sourceOrder rows theme).filter (isForeign turns) =
      rows.filter (isForeign turns) := by
  rcases mergeTheme_cases sourceOrder rows theme with ⟨-, -, hsame⟩ | ⟨-, hinserted⟩
  · rw [hsame]
  · have hrow : isForeign turns (themeRow sourceOrder theme.1 theme.2) = false := by
      rw [Bool.eq_false_iff]
      intro h
      have hown := (Bool.and_eq_true_iff.mp (List.all_eq_true.mp h theme hmem)).1
      rw [isRow_themeRow, eqIgnoreAsciiCase_self] at hown
      cases hown
    rw [hinserted.filter_neg hrow]
    cases halias : themeSlotAlias theme.2 with
    | none => rw [keptRows_native halias]
    | some slot =>
      rw [keptRows_alias (by rw [halias]; rfl), List.filter_filter]
      apply List.filter_congr
      intro node _
      rw [Bool.and_eq_left_iff_imp]
      intro hforeign
      have hclear := Bool.and_eq_true_iff.mp (List.all_eq_true.mp hforeign theme hmem)
      obtain ⟨rfl, hname⟩ := themeSlotAlias_some halias
      rw [registrationId_alias halias, halias] at hclear
      obtain ⟨hslot, hnames⟩ := hclear
      obtain ⟨hfengshen, hxyy⟩ := Bool.and_eq_true_iff.mp hnames
      have hsame : isRow theme.2 node = isRow "fengshen".toList node := isRow_congr hname node
      rw [hsame] at hfengshen
      unfold isSlotRow
      rw [Bool.not_eq_true'] at hslot hfengshen hxyy ⊢
      rw [hfengshen, hslot, show isRow "xyy".toList node = false from hxyy]
      rfl

theorem merged_foreign (sourceOrder : List BmlNode) (themes : RequestedThemes)
    (rows : List BmlNode) : (mergedRows sourceOrder themes rows).filter (isForeign themes.entries) =
      rows.filter (isForeign themes.entries) := by
  refine foldl_mergeTheme (P := fun rows' => rows'.filter (isForeign themes.entries) = _) ?_ rfl
  intro turn hturn rows' he
  exact (mergeTheme_foreign hturn).trans he

/-! ## Merging again -/

/-- A native theme other than the aliased slot's own. -/
def keepsPlace (theme : Text × Text) : Bool :=
  (themeSlotAlias theme.2).isNone && !eqIgnoreAsciiCase theme.2 "xyy".toList

theorem keepsPlace_iff : keepsPlace theme = true ↔ themeSlotAlias theme.2 = none ∧
    toAsciiLowercase theme.2 ≠ toAsciiLowercase "xyy".toList := by
  unfold keepsPlace
  rw [Bool.and_eq_true_iff, Option.isNone_iff_eq_none, Bool.not_eq_true', Bool.eq_false_iff, ne_eq,
    eqIgnoreAsciiCase_iff]

/-- The requests that are never moved are all registered. -/
def Registered (themes : RequestedThemes) (rows : List BmlNode) : Prop :=
  ∀ theme ∈ themes.entries, keepsPlace theme = true →
    rows.any (isRow (selectorRegistrationId theme.2)) = true

theorem merged_any (hmem : theme ∈ themes.entries) (sourceOrder rows : List BmlNode) :
    (mergedRows sourceOrder themes rows).any (isRow (selectorRegistrationId theme.2)) = true := by
  have hpos := (themes.merged_count hmem sourceOrder rows).1
  exact List.any_eq_true.mpr (List.countP_pos_iff.mp hpos)

/-- Turns that find their themes registered change nothing. -/
theorem foldl_present {turns : List (Text × Text)}
    (h : ∀ theme ∈ turns, themeSlotAlias theme.2 = none ∧
      rows.any (isRow (selectorRegistrationId theme.2)) = true) :
    turns.foldl (mergeTheme sourceOrder) rows = rows := by
  refine foldl_mergeTheme (P := (· = rows)) ?_ rfl
  intro turn hturn rows' he
  subst he
  exact mergeTheme_present (h turn hturn).1 (h turn hturn).2

/-- Whether the unmoved requests are registered shows in the rows that no alias takes out. -/
theorem Registered.congr (h : Registered themes rows) {rows' : List BmlNode}
    (hsame : rows'.filter (!isSlotRow ·) = rows.filter (!isSlotRow ·)) :
    Registered themes rows' := by
  intro theme hmem hkeeps
  obtain ⟨hnative, hxyy⟩ := keepsPlace_iff.mp hkeeps
  obtain ⟨node, hnode, hrow⟩ := List.any_eq_true.mp (h theme hmem hkeeps)
  have hkept : node ∈ rows.filter (!isSlotRow ·) := by
    refine List.mem_filter.mpr ⟨hnode, ?_⟩
    rw [themes.notSlotRow hmem hnative hxyy hrow]
    rfl
  rw [← hsame] at hkept
  exact List.any_eq_true.mpr ⟨node, (List.mem_filter.mp hkept).1, hrow⟩

/-- Once they are registered, a turn moves only rows that an alias takes out. -/
theorem RequestedThemes.mergeTheme_kept (hmem : theme ∈ themes.entries)
    (h : Registered themes rows) :
    (mergeTheme sourceOrder rows theme).filter (!isSlotRow ·) = rows.filter (!isSlotRow ·) := by
  rcases mergeTheme_cases sourceOrder rows theme with ⟨-, -, hsame⟩ | ⟨hplace, hinserted⟩
  · rw [hsame]
  · cases halias : themeSlotAlias theme.2 with
    | none =>
      rw [keptRows_native halias] at hinserted
      have hxyy : toAsciiLowercase theme.2 = toAsciiLowercase "xyy".toList := by
        apply Classical.byContradiction
        intro hxyy
        have hpresent := h theme hmem (keepsPlace_iff.mpr ⟨halias, hxyy⟩)
        rcases hplace with hsome | habsent
        · rw [halias] at hsome
          cases hsome
        · rw [hpresent] at habsent
          cases habsent
      have hrow : isRow "xyy".toList (themeRow sourceOrder theme.1 theme.2) = true := by
        rw [isRow_themeRow, registrationId_native halias]
        exact eqIgnoreAsciiCase_iff.mpr hxyy
      apply hinserted.filter_neg
      unfold isSlotRow
      rw [hrow]
      simp
    | some slot =>
      rw [keptRows_alias (by rw [halias]; rfl)] at hinserted
      have hrow : isRow "17".toList (themeRow sourceOrder theme.1 theme.2) = true := by
        rw [isRow_themeRow, registrationId_alias halias]
        exact eqIgnoreAsciiCase_self _
      rw [hinserted.filter_neg (by unfold isSlotRow; rw [hrow]; simp), List.filter_filter]
      simp

theorem merged_kept (h : Registered themes rows) :
    (mergedRows sourceOrder themes rows).filter (!isSlotRow ·) =
      rows.filter (!isSlotRow ·) := by
  have key : Registered themes (mergedRows sourceOrder themes rows) ∧
      (mergedRows sourceOrder themes rows).filter (!isSlotRow ·) = rows.filter (!isSlotRow ·) := by
    refine foldl_mergeTheme (P := fun rows' => Registered themes rows' ∧
      rows'.filter (!isSlotRow ·) = rows.filter (!isSlotRow ·)) ?_ ⟨h, rfl⟩
    intro turn hturn rows' hboth
    have hkept : (mergeTheme sourceOrder rows' turn).filter (!isSlotRow ·) =
        rows'.filter (!isSlotRow ·) := themes.mergeTheme_kept hturn hboth.1
    exact ⟨hboth.1.congr hkept, hkept.trans hboth.2⟩
  exact key.2

/-- With an aliased theme among the requests, the rest of the rows decides the result. -/
theorem merged_congr (hmem : theme ∈ themes.entries)
    (halias : (themeSlotAlias theme.2).isSome = true) {rows' : List BmlNode}
    (h : Registered themes rows) (h' : Registered themes rows')
    (hsame : rows'.filter (!isSlotRow ·) = rows.filter (!isSlotRow ·)) :
    mergedRows sourceOrder themes rows' = mergedRows sourceOrder themes rows := by
  obtain ⟨earlier, later, hsplit, hearlier, -⟩ := themes.split hmem
  have hkey := themes.alias_key hmem halias
  -- what comes before the aliased theme is native, and is not the slot's own theme
  have hstay : ∀ other ∈ earlier, themeSlotAlias other.2 = none ∧ keepsPlace other = true := by
    intro other hother
    obtain ⟨hin, hlt⟩ := hearlier other hother
    rw [hkey] at hlt
    have hnative : themeSlotAlias other.2 = none := by
      cases ho : themeSlotAlias other.2 with
      | none => rfl
      | some slot =>
        rw [themes.alias_key hin (by rw [ho]; rfl)] at hlt
        exact absurd hlt (List.lt_irrefl _)
    refine ⟨hnative, keepsPlace_iff.mpr ⟨hnative, ?_⟩⟩
    intro he
    rw [themes.xyy_key hin he] at hlt
    revert hlt
    decide +kernel
  have hfirst : ∀ {rows : List BmlNode}, Registered themes rows →
      earlier.foldl (mergeTheme sourceOrder) rows = rows := by
    intro rows hregistered
    refine foldl_present fun other hother => ⟨(hstay other hother).1, ?_⟩
    exact hregistered other (hearlier other hother).1 (hstay other hother).2
  unfold mergedRows
  rw [hsplit, List.foldl_append, List.foldl_append, List.foldl_cons, List.foldl_cons, hfirst h,
    hfirst h', mergeTheme_place (.inl halias), mergeTheme_place (.inl halias),
    keptRows_alias halias, keptRows_alias halias, hsame]

/-- **Merging again changes nothing**, if no aliased theme is asked for or the others were
registered. -/
theorem merged_merged (h : (∀ theme ∈ themes.entries, themeSlotAlias theme.2 = none) ∨
      Registered themes rows) :
    mergedRows sourceOrder themes (mergedRows sourceOrder themes rows) =
      mergedRows sourceOrder themes rows := by
  by_cases halias : ∃ theme ∈ themes.entries, (themeSlotAlias theme.2).isSome = true
  · obtain ⟨theme, hmem, hsome⟩ := halias
    rcases h with h | h
    · rw [h theme hmem] at hsome
      cases hsome
    · refine merged_congr hmem hsome h ?_ (merged_kept h)
      exact fun theme hmem _ => merged_any hmem sourceOrder rows
  · -- every theme stays where the first merge has left it
    refine foldl_present fun theme hmem => ⟨?_, merged_any hmem sourceOrder rows⟩
    cases ht : themeSlotAlias theme.2 with
    | none => rfl
    | some slot => exact absurd ⟨theme, hmem, by rw [ht]; rfl⟩ halias

theorem merged_registered (sourceOrder : List BmlNode) (themes : RequestedThemes)
    (rows : List BmlNode) : Registered themes (mergedRows sourceOrder themes rows) :=
  fun _ hmem _ => merged_any hmem sourceOrder rows

/-! ## The config -/

/-- A config with other rows in its order. -/
def withRows (rows : List BmlNode) (config : BmlNode) : BmlNode :=
  withChildren (putThemeTabRows rows (BmlNode.children config)) config

theorem name_withChildren (children : List BmlNode) (node : BmlNode) :
    BmlNode.name (withChildren children node) = BmlNode.name node := by
  cases node
  rfl

theorem withChildren_withChildren (children children' : List BmlNode) (node : BmlNode) :
    withChildren children' (withChildren children node) = withChildren children' node := by
  cases node
  rfl

theorem isThemeTabOrder_withChildren (children : List BmlNode) (node : BmlNode) :
    isThemeTabOrder (withChildren children node) = isThemeTabOrder node := by
  unfold isThemeTabOrder
  rw [name_withChildren]

theorem find_putThemeTabRows (rows nodes : List BmlNode) :
    (putThemeTabRows rows nodes).find? isThemeTabOrder =
      (nodes.find? isThemeTabOrder).map (withChildren rows) := by
  induction nodes with
  | nil => rfl
  | cons node nodes ih =>
    unfold putThemeTabRows
    by_cases h : isThemeTabOrder node = true
    · have hput : isThemeTabOrder (withChildren rows node) = true := by
        rw [isThemeTabOrder_withChildren]
        exact h
      rw [if_pos h, List.find?_cons_of_pos hput, List.find?_cons_of_pos h]
      rfl
    · rw [if_neg h, List.find?_cons_of_neg h, List.find?_cons_of_neg h]
      exact ih

theorem putThemeTabRows_put (rows rows' nodes : List BmlNode) :
    putThemeTabRows rows' (putThemeTabRows rows nodes) = putThemeTabRows rows' nodes := by
  induction nodes with
  | nil => rfl
  | cons node nodes ih =>
    rw [putThemeTabRows, putThemeTabRows]
    by_cases h : isThemeTabOrder node = true
    · rw [if_pos h, if_pos h, putThemeTabRows, isThemeTabOrder_withChildren, if_pos h,
        withChildren_withChildren]
    · rw [if_neg h, if_neg h, putThemeTabRows, if_neg h, ih]

theorem withRows_withRows (rows rows' : List BmlNode) (config : BmlNode) :
    withRows rows' (withRows rows config) = withRows rows' config := by
  unfold withRows
  rw [children_withChildren, putThemeTabRows_put, withChildren_withChildren]

variable {target : BmlNode}

theorem themeTabRows_withRows (hrows : themeTabRows target = some rows) (rows' : List BmlNode) :
    themeTabRows (withRows rows' target) = some rows' := by
  unfold themeTabRows at hrows ⊢
  unfold withRows
  rw [children_withChildren, find_putThemeTabRows, Option.map_map]
  obtain ⟨order, horder, -⟩ := Option.map_eq_some_iff.mp hrows
  rw [horder]
  exact congrArg some (children_withChildren rows' order)

theorem selectorHasTheme_withRows (hrows : themeTabRows target = some rows) (theme : Text) :
    selectorHasTheme target theme = rows.any (isRow (selectorRegistrationId theme)) := by
  unfold themeTabRows at hrows
  obtain ⟨order, horder, rfl⟩ := Option.map_eq_some_iff.mp hrows
  unfold selectorHasTheme
  rw [show (fun node => eqIgnoreAsciiCase (BmlNode.name node) "themeTabOrder".toList) =
    isThemeTabOrder from rfl, horder]
  rfl

theorem mergeThemeTabOrder_ok (source : Option BmlNode)
    (hroot : eqIgnoreAsciiCase (BmlNode.name target) "config".toList = true)
    (hrows : themeTabRows target = some rows) :
    mergeThemeTabOrder source target themes.entries = .ok (themes.entries.map Prod.fst,
      withRows (mergedRows ((source.bind themeTabRows).getD []) themes rows) target) := by
  unfold mergeThemeTabOrder
  rw [hroot, hrows]
  rfl

/-- A config that was merged is merged on its merged rows. -/
theorem mergeThemeTabOrder_again (source : Option BmlNode)
    (hroot : eqIgnoreAsciiCase (BmlNode.name target) "config".toList = true)
    (hrows : themeTabRows target = some rows) (rows' : List BmlNode) :
    mergeThemeTabOrder source (withRows rows' target) themes.entries =
      .ok (themes.entries.map Prod.fst,
        withRows (mergedRows ((source.bind themeTabRows).getD []) themes rows') target) := by
  have hroot' :
      eqIgnoreAsciiCase (BmlNode.name (withRows rows' target)) "config".toList = true := by
    unfold withRows
    rw [name_withChildren]
    exact hroot
  rw [mergeThemeTabOrder_ok source hroot' (themeTabRows_withRows hrows rows'), withRows_withRows]

/-! ## A single theme -/

/-- A row stands before the nearest theme behind it that is among the kept rows, or after the
nearest in front of it if there is none behind. -/
structure StandsByNeighbour (earlier later kept merged : List BmlNode) (row : BmlNode) : Prop where
  before : ∀ {skipped more front back : List BmlNode} {candidate neighbour : BmlNode},
    later = skipped ++ candidate :: more → kept = front ++ neighbour :: back →
    (∀ node ∈ skipped, Missing sameTheme kept node) → sameTheme candidate neighbour = true →
    Missing sameTheme front candidate → merged = front ++ row :: neighbour :: back
  after : ∀ {skipped more front back : List BmlNode} {candidate neighbour : BmlNode},
    earlier = more ++ candidate :: skipped → kept = front ++ neighbour :: back →
    (∀ node ∈ later, Missing sameTheme kept node) →
    (∀ node ∈ skipped, Missing sameTheme kept node) → sameTheme candidate neighbour = true →
    Missing sameTheme front candidate → merged = front ++ neighbour :: row :: back

/-- **The place of a theme that the source knows.** -/
theorem mergeTheme_standsByNeighbour {earlier later : List BmlNode} {own : BmlNode}
    (h : (themeSlotAlias theme.2).isSome = true ∨
      rows.any (isRow (selectorRegistrationId theme.2)) = false)
    (hown : foldsTo theme.1 own = true)
    (hearlier : ∀ node ∈ earlier, foldsTo theme.1 node = false) :
    StandsByNeighbour earlier later (keptRows theme.2 rows)
      (mergeTheme (earlier ++ own :: later) rows theme)
      (themeRow (earlier ++ own :: later) theme.1 theme.2) := by
  have hplace : themePlace (earlier ++ own :: later) theme.1 (keptRows theme.2 rows) =
      placeIndex sameTheme earlier later (keptRows theme.2 rows) := by
    have hbehind : (earlier ++ own :: later).drop (earlier.length + 1) = later := by
      rw [← List.drop_drop, List.drop_left]
      rfl
    unfold themePlace
    rw [findIdx?_split hown hearlier]
    dsimp only
    rw [List.take_left, hbehind]
  rw [mergeTheme_place h, hplace]
  constructor
  · intro skipped more front back candidate neighbour hlater hkept hskipped hsame hfront
    subst hlater
    rw [hkept] at hskipped ⊢
    exact insertIdx_before hskipped hsame hfront _
  · intro skipped more front back candidate neighbour he hkept hlater hskipped hsame hfront
    subst he
    rw [hkept] at hlater hskipped ⊢
    exact insertIdx_after hlater hskipped hsame hfront _

/-- **Merging the order of the themes.** Every request is registered, once if it was not registered
twice; the other rows stay; a single theme that is placed stands by its neighbour in the source. The
merged config is merged again without a change if no aliased theme is asked for or the themes that
are never moved were registered; what comes out of a second merge always is. -/
theorem themeTabOrder_merges (source : Option BmlNode) (themes : RequestedThemes)
    {target : BmlNode} {rows : List BmlNode}
    (hroot : eqIgnoreAsciiCase (BmlNode.name target) "config".toList = true)
    (hrows : themeTabRows target = some rows) :
    ∃ config merged, mergeThemeTabOrder source target themes.entries =
        .ok (themes.entries.map Prod.fst, config) ∧
      themeTabRows config = some merged ∧
      (∀ theme ∈ themes.entries,
        (rows.countP (isRow (selectorRegistrationId theme.2)) ≤ 1 →
          merged.countP (isRow (selectorRegistrationId theme.2)) = 1) ∧
        selectorHasTheme config theme.2 = true) ∧
      merged.filter (isForeign themes.entries) = rows.filter (isForeign themes.entries) ∧
      (∀ theme earlier own later, themes.entries = [theme] →
        ((themeSlotAlias theme.2).isSome = true ∨
          rows.any (isRow (selectorRegistrationId theme.2)) = false) →
        (source.bind themeTabRows).getD [] = earlier ++ own :: later →
        foldsTo theme.1 own = true → (∀ node ∈ earlier, foldsTo theme.1 node = false) →
        ∃ row, rowId row = some (selectorRegistrationId theme.2) ∧
          StandsByNeighbour earlier later (keptRows theme.2 rows) merged row) ∧
      ((∀ theme ∈ themes.entries, themeSlotAlias theme.2 = none) ∨ Registered themes rows →
        mergeThemeTabOrder source config themes.entries =
          .ok (themes.entries.map Prod.fst, config)) ∧
      ∃ config', mergeThemeTabOrder source config themes.entries =
          .ok (themes.entries.map Prod.fst, config') ∧
        mergeThemeTabOrder source config' themes.entries =
          .ok (themes.entries.map Prod.fst, config') := by
  have hagain : ∀ rows', mergeThemeTabOrder source (withRows rows' target) themes.entries =
      .ok (themes.entries.map Prod.fst,
        withRows (mergedRows ((source.bind themeTabRows).getD []) themes rows') target) :=
    mergeThemeTabOrder_again source hroot hrows
  refine ⟨_, mergedRows ((source.bind themeTabRows).getD []) themes rows,
    mergeThemeTabOrder_ok source hroot hrows, themeTabRows_withRows hrows _, ?_,
    merged_foreign _ themes rows, ?_, ?_, _, hagain _, ?_⟩
  · intro theme hmem
    refine ⟨(themes.merged_count hmem _ rows).2, ?_⟩
    rw [selectorHasTheme_withRows (themeTabRows_withRows hrows _)]
    exact merged_any hmem _ rows
  · intro theme earlier own later hsingle hplace horder hown hearlier
    refine ⟨_, rowId_themeRow (earlier ++ own :: later) theme.1 theme.2, ?_⟩
    unfold mergedRows
    rw [horder, hsingle]
    exact mergeTheme_standsByNeighbour hplace hown hearlier
  · intro h
    rw [hagain, merged_merged h]
  · rw [hagain, merged_merged (.inr (merged_registered _ themes rows))]

/-! ## A merge that a second one moves -/

/-- A config whose order has these themes. -/
def sampleConfig (ids : List String) : BmlNode :=
  .node "config".toList [] [] [.node "themeTabOrder".toList [] []
    (ids.map fun id => .node "theme".toList [] [("id".toList, id.toList)] [])]

/-- The ids of a config's order. -/
def orderIds (config : BmlNode) : List Text :=
  ((themeTabRows config).getD []).filterMap rowId

/-- The aliased theme alone. -/
def fengshenOnly : RequestedThemes where
  entries := [("fengshen".toList, "fengshen".toList)]
  sorted := List.pairwise_singleton _ _
  folded := List.forall_mem_singleton.mpr (by decide +kernel)
  known := List.forall_mem_singleton.mpr (.inr (by decide +kernel))

/-- The merge of a single theme, made twice. -/
theorem fengshenOnly_merges : ∃ config,
    mergeThemeTabOrder (some (sampleConfig ["ice", "fengshen", "china"]))
      (sampleConfig ["china", "xyy"]) fengshenOnly.entries = .ok (["fengshen".toList], config) ∧
    selectorHasTheme config "fengshen".toList = true := by
  obtain ⟨config, merged, hmerge, -, hthemes, -⟩ := themeTabOrder_merges
    (some (sampleConfig ["ice", "fengshen", "china"])) fengshenOnly
    (show eqIgnoreAsciiCase (BmlNode.name (sampleConfig ["china", "xyy"])) "config".toList = true
      by decide +kernel) rfl
  exact ⟨config, hmerge, (hthemes _ List.mem_cons_self).2⟩

/-- A second merge may move the aliased theme: the native one was placed behind it, next to the
theme that both stand before, and the source has it in front. -/
theorem secondMerge_moves : ∃ config config',
    mergeThemeTabOrder (some (sampleConfig ["ice", "fengshen", "china"])) (sampleConfig ["china"])
      [("fengshen".toList, "fengshen".toList), ("ice".toList, "ice".toList)] =
        .ok (["fengshen".toList, "ice".toList], config) ∧
    mergeThemeTabOrder (some (sampleConfig ["ice", "fengshen", "china"])) config
      [("fengshen".toList, "fengshen".toList), ("ice".toList, "ice".toList)] =
        .ok (["fengshen".toList, "ice".toList], config') ∧
    orderIds config = ["17".toList, "ice".toList, "china".toList] ∧
    orderIds config' = ["ice".toList, "17".toList, "china".toList] := by
  refine ⟨_, _, rfl, rfl, ?_, ?_⟩
  · decide +kernel
  · decide +kernel

end P4475.Assets
