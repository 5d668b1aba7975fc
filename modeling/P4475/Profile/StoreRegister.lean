import P4475.Profile.StoreRuns

/-!
# The profile store as a register

As long as no call publishes under a number that was used before, the store is a register: each
update is made of the one before it, as the next revision, and a load at any time, also after a crash
of any calls at any of their steps, finds the last one.
-/

namespace P4475.Profile

open Lib

variable {P V : Type}

/-! ## What a load finds, and what keeps it -/

section

variable {format : ProfileFormat P} {d d' : Directory} {snapshot : Snapshot P} {n : Nat}

theorem ProfileFormat.readRevision_of_lookup
    (h : d'.revisions.lookup n = d.revisions.lookup n) :
    format.readRevision d' n = format.readRevision d n := by
  unfold readRevision
  rw [h]

/-- What is there reads as a profile, or is corrupt. -/
theorem ProfileFormat.corrupt_or_ok (h : n ∈ d.revisions.numbers) :
    d.Corrupt format n ∨ ∃ profile, format.readRevision d n = .ok profile := by
  obtain ⟨bytes, hbytes⟩ := Versions.mem_numbers_iff.mp h
  cases hread : format.readRevision d n with
  | ok profile => exact .inr ⟨profile, rfl⟩
  | error e =>
    refine .inl ⟨e, hread, ?_⟩
    unfold readRevision decode at hread
    rw [hbytes, okOr_some, ok_bind] at hread
    by_cases hlength : bytes.length ≤ format.maximumBytes
    · rw [show check _ _ = _ from if_pos hlength, ok_bind] at hread
      cases hparse : format.parse bytes with
      | none =>
        rw [hparse] at hread
        cases hread
        rfl
      | some profile =>
        rw [hparse] at hread
        cases hread
    · rw [show check _ _ = _ from if_neg hlength, error_bind] at hread
      cases hread
      rfl

/-- A missing file is not a corrupt one. -/
theorem ProfileFormat.mem_of_readRevision {profile : P} (h : format.readRevision d n = .ok profile) :
    n ∈ d.revisions.numbers := by
  unfold readRevision at h
  obtain ⟨bytes, hbytes, -⟩ := okOr_bind.mp h
  exact Versions.mem_numbers_iff.mpr ⟨bytes, hbytes⟩

theorem Directory.Corrupt.mem (h : d.Corrupt format n) : n ∈ d.revisions.numbers := by
  obtain ⟨e, hread, hcorrupt⟩ := h
  apply Classical.byContradiction
  intro hmem
  unfold ProfileFormat.readRevision at hread
  rw [Versions.lookup_eq_none.mpr hmem] at hread
  cases hread
  cases hcorrupt

theorem Directory.Corrupt.not_ok (h : d.Corrupt format n) {profile : P} :
    format.readRevision d n ≠ .ok profile := by
  intro hread
  obtain ⟨e, herror, -⟩ := h
  rw [hread] at herror
  cases herror

theorem Directory.Corrupt.of_lookup (h : d.Corrupt format n)
    (hlookup : d'.revisions.lookup n = d.revisions.lookup n) : d'.Corrupt format n := by
  obtain ⟨e, hread, hcorrupt⟩ := h
  exact ⟨e, by rw [ProfileFormat.readRevision_of_lookup hlookup, hread], hcorrupt⟩

namespace Snapshot.Current

/-- A directory has one profile to find. -/
theorem unique {other : Snapshot P} (h : Current format d snapshot) (h' : Current format d other) :
    snapshot.profile = other.profile ∧ snapshot.revision = other.revision := by
  cases hrevision : snapshot.revision with
  | some r =>
    have hr := h.source r hrevision
    cases hother : other.revision with
    | some r' =>
      have hr' := h'.source r' hother
      have hle : ¬ r < r' := by
        intro hlt
        refine (h.above r' (ProfileFormat.mem_of_readRevision hr') fun m hm => ?_).not_ok hr'
        rw [hrevision] at hm
        cases hm
        exact hlt
      have hge : ¬ r' < r := by
        intro hlt
        refine (h'.above r (ProfileFormat.mem_of_readRevision hr) fun m hm => ?_).not_ok hr
        rw [hother] at hm
        cases hm
        exact hlt
      obtain rfl : r = r' := by omega
      rw [hr] at hr'
      exact ⟨Except.ok.inj hr', rfl⟩
    | none =>
      refine absurd hr (h'.above r (ProfileFormat.mem_of_readRevision hr) fun m hm => ?_).not_ok
      rw [hother] at hm
      cases hm
  | none =>
    cases hother : other.revision with
    | some r' =>
      have hr' := h'.source r' hother
      refine absurd hr' (h.above r' (ProfileFormat.mem_of_readRevision hr') fun m hm => ?_).not_ok
      rw [hrevision] at hm
      cases hm
    | none =>
      refine ⟨?_, rfl⟩
      rcases h.behind hrevision with ⟨bytes, hlegacy, hdecode⟩ | ⟨hlegacy, -, hdefault⟩
      · rcases h'.behind hother with ⟨bytes', hlegacy', hdecode'⟩ | ⟨hlegacy', -⟩
        · rw [hlegacy] at hlegacy'
          cases hlegacy'
          rw [hdecode] at hdecode'
          exact Except.ok.inj hdecode'
        · rw [hlegacy] at hlegacy'
          cases hlegacy'
      · rcases h'.behind hother with ⟨bytes', hlegacy', -⟩ | ⟨-, -, hdefault'⟩
        · rw [hlegacy] at hlegacy'
          cases hlegacy'
        · rw [hdefault, hdefault']

theorem keeps (h : Current format d snapshot) (hrevisions : d'.revisions = d.revisions)
    (hlegacy : d'.legacy = d.legacy) : Current format d' snapshot where
  head := by rw [h.head, hrevisions]
  above n hmem habove := by
    rw [hrevisions] at hmem
    exact (h.above n hmem habove).of_lookup (by rw [hrevisions])
  source r hr := by
    rw [ProfileFormat.readRevision_of_lookup (d := d) (by rw [hrevisions])]
    exact h.source r hr
  behind hnone := by
    rw [hlegacy, hrevisions]
    exact h.behind hnone

/-- Nothing is lost with a file that is neither the head nor the source. -/
theorem erases (h : Current format d snapshot) {x : Nat} (hhead : x ≠ d.revisions.top)
    (hsource : snapshot.revision ≠ some x) (hrevisions : d'.revisions = d.revisions.erase x)
    (hlegacy : d'.legacy = d.legacy) : Current format d' snapshot where
  head := by
    rw [h.head, Versions.newest_eq_iff, hrevisions, Versions.top_erase hhead]
  above n hmem habove := by
    rw [hrevisions] at hmem
    obtain ⟨hmem, hne⟩ := Versions.mem_erase.mp hmem
    exact (h.above n hmem habove).of_lookup (by rw [hrevisions, Versions.lookup_erase hne])
  source r hr := by
    have hne : r ≠ x := by
      rintro rfl
      exact hsource hr
    rw [ProfileFormat.readRevision_of_lookup (d := d)
      (by rw [hrevisions, Versions.lookup_erase hne])]
    exact h.source r hr
  behind hnone := by
    rw [hlegacy]
    rcases h.behind hnone with hbytes | ⟨hmissing, hempty, hdefault⟩
    · exact .inl hbytes
    · refine .inr ⟨hmissing, ?_, hdefault⟩
      rw [hrevisions, Versions.numbers_erase, hempty]
      rfl

/-- A profile published over the head is the one to find. -/
theorem of_create {request : SaveRequest} {profile : P}
    (hbytes : request.bytes = format.serialize profile ++ [10])
    (hlength : request.bytes.length ≤ format.maximumBytes) {hpositive : 0 < request.revision}
    (hcreate : d.revisions.create request.revision request.bytes hpositive = some d'.revisions)
    (hover : d.revisions.top < request.revision) (recovered : List Nat) :
    Current format d' ⟨profile, some request.revision, some request.revision, recovered⟩ where
  head := by
    have htop := Versions.top_create hcreate hover
    have hmem : request.revision ∈ d'.revisions.numbers := (Versions.mem_create hcreate).mpr (.inl rfl)
    cases hnewest : d'.revisions.newest with
    | none =>
      rw [(Versions.newest_eq_none hnewest).2] at hmem
      cases hmem
    | some n =>
      rw [Versions.newest_eq_some hnewest] at htop
      rw [htop]
  above n hmem habove := by
    have hle := Versions.le_top hmem
    rw [Versions.top_create hcreate hover] at hle
    exact absurd (habove request.revision rfl) (Nat.not_lt.mpr hle)
  source r hr := by
    cases hr
    unfold ProfileFormat.readRevision ProfileFormat.decode
    rw [Versions.lookup_create hcreate, if_pos rfl, okOr_some, ok_bind,
      show check _ _ = _ from if_pos hlength, ok_bind, hbytes, format.parse_serialize]
    rfl
  behind hnone := nomatch hnone

end Snapshot.Current

/-! ## Loads at rest -/

/-- What a load knows that has listed the directory `d` and read some of it. -/
structure ProfileFormat.Reading (format : ProfileFormat P) (d : Directory) (rest : List Nat)
    (progress : LoadProgress) : Prop where
  head : progress.head = d.revisions.newest
  numbers : d.revisions.numbers = progress.recovered ++ rest
  passed : ∀ n ∈ progress.recovered, d.Corrupt format n
  first : progress.firstCorruption = none ↔ progress.recovered = []

namespace ProfileFormat.Reading

variable {rest : List Nat} {progress : ProfileFormat.LoadProgress} {revision : Nat}

theorem start (format : ProfileFormat P) (d : Directory) :
    format.Reading d d.revisions.numbers (.start d.revisions.numbers) :=
  ⟨rfl, rfl, nofun, iff_of_true rfl rfl⟩

theorem pass (h : format.Reading d (revision :: rest) progress) (hcorrupt : d.Corrupt format revision)
    (e : ProfileStoreError) : format.Reading d rest (progress.pass revision e) where
  head := h.head
  numbers := by
    show d.revisions.numbers = (progress.recovered ++ [revision]) ++ rest
    rw [h.numbers, List.append_assoc]
    rfl
  passed n hn := by
    rcases List.mem_append.mp hn with hn | hn
    · exact h.passed n hn
    · rw [List.mem_singleton.mp hn]
      exact hcorrupt
  first := by
    refine iff_of_false ?_ (List.append_ne_nil_of_right_ne_nil _ (List.cons_ne_nil _ _))
    show progress.firstCorruption.or (some e) ≠ none
    cases progress.firstCorruption <;> nofun

/-- What it has passed over is all that is above the next one to read. -/
theorem passed_of_lt (h : format.Reading d (revision :: rest) progress) {n : Nat}
    (hn : n ∈ d.revisions.numbers) (hlt : revision < n) : n ∈ progress.recovered := by
  have hdesc := d.revisions.numbers_descending
  rw [h.numbers] at hn hdesc
  rcases List.mem_append.mp hn with hn | hn
  · exact hn
  · obtain ⟨-, hrest, -⟩ := List.pairwise_append.mp hdesc
    rcases List.mem_cons.mp hn with rfl | hn
    · exact absurd hlt (Nat.lt_irrefl n)
    · exact absurd hlt (Nat.lt_asymm ((List.pairwise_cons.mp hrest).1 n hn))

theorem finds (h : format.Reading d (revision :: rest) progress) {profile : P}
    (hread : format.readRevision d revision = .ok profile) :
    Snapshot.Current format d ⟨profile, some revision, progress.head, progress.recovered⟩ where
  head := h.head
  above n hn habove := h.passed n (h.passed_of_lt hn (habove revision rfl))
  source r hr := by
    cases hr
    exact hread
  behind hnone := nomatch hnone

theorem fallsBack (h : format.Reading d [] progress) (hlegacy : d'.legacy = d.legacy)
    (hread : format.readLegacy d' progress = .ok snapshot) : Snapshot.Current format d snapshot := by
  have hpassed : ∀ n ∈ d.revisions.numbers, d.Corrupt format n := by
    intro n hn
    rw [h.numbers, List.append_nil] at hn
    exact h.passed n hn
  unfold readLegacy at hread
  rw [hlegacy] at hread
  cases hbytes : d.legacy with
  | some bytes =>
    rw [hbytes] at hread
    obtain ⟨profile, hdecode, hread⟩ := bind_eq_ok hread
    cases hread
    exact ⟨h.head, fun n hn _ => hpassed n hn, nofun, fun _ => .inl ⟨bytes, hbytes, hdecode⟩⟩
  | none =>
    rw [hbytes] at hread
    dsimp only at hread
    cases hfirst : progress.firstCorruption with
    | some e =>
      rw [hfirst] at hread
      cases hread
    | none =>
      rw [hfirst] at hread
      cases hread
      refine ⟨h.head, fun n hn _ => hpassed n hn, nofun, fun _ => .inr ⟨hbytes, ?_, rfl⟩⟩
      rw [h.numbers, h.first.mp hfirst]
      rfl

/-- A load that has begun ends with what there is to find. -/
theorem readNewest (h : format.Reading d rest progress) (hcurrent : Snapshot.Current format d snapshot) :
    ∃ found, format.readNewest d rest progress = .ok found ∧ Snapshot.Current format d found := by
  induction rest generalizing progress with
  | nil =>
    unfold ProfileFormat.readNewest
    have hfound : ∃ found, format.readLegacy d progress = .ok found := by
      -- Every revision is corrupt, so what there is to find is behind them.
      have hnone : snapshot.revision = none := by
        cases hrevision : snapshot.revision with
        | none => rfl
        | some r =>
          have hr := hcurrent.source r hrevision
          have hmem := ProfileFormat.mem_of_readRevision hr
          rw [h.numbers, List.append_nil] at hmem
          exact absurd hr (h.passed r hmem).not_ok
      unfold readLegacy
      rcases hcurrent.behind hnone with ⟨bytes, hlegacy, hdecode⟩ | ⟨hlegacy, hempty, -⟩
      · rw [hlegacy]
        dsimp only
        rw [hdecode]
        exact ⟨_, rfl⟩
      · rw [hlegacy]
        dsimp only
        rw [h.numbers, List.append_nil] at hempty
        rw [h.first.mpr hempty]
        exact ⟨_, rfl⟩
    obtain ⟨found, hfound⟩ := hfound
    exact ⟨found, hfound, h.fallsBack rfl hfound⟩
  | cons revision rest ih =>
    have hmem : revision ∈ d.revisions.numbers := by
      rw [h.numbers]
      exact List.mem_append_right _ List.mem_cons_self
    unfold ProfileFormat.readNewest
    rcases ProfileFormat.corrupt_or_ok hmem with hcorrupt | ⟨profile, hread⟩
    · obtain ⟨e, hread, he⟩ := id hcorrupt
      rw [hread]
      dsimp only
      rw [if_pos he]
      exact ih (h.pass hcorrupt e)
    · rw [hread]
      exact ⟨_, rfl, h.finds hread⟩

end ProfileFormat.Reading

theorem ProfileFormat.current_of_readNewest {rest : List Nat} {progress : LoadProgress}
    (hreading : format.Reading d rest progress)
    (h : format.readNewest d rest progress = .ok snapshot) : Snapshot.Current format d snapshot := by
  induction rest generalizing progress with
  | nil =>
    unfold readNewest at h
    exact hreading.fallsBack rfl h
  | cons revision rest ih =>
    unfold readNewest at h
    cases hread : format.readRevision d revision with
    | ok profile =>
      rw [hread] at h
      cases h
      exact hreading.finds hread
    | error e =>
      rw [hread] at h
      dsimp only at h
      by_cases hcorrupt : e.isCorruption = true
      · rw [if_pos hcorrupt] at h
        exact ih (hreading.pass ⟨e, hread, hcorrupt⟩ e) h
      · rw [if_neg hcorrupt] at h
        cases h

/-- A load of a directory that stands still, unless it is too full, finds what there is to find. -/
theorem ProfileFormat.loadOrDefault_current (hcurrent : Snapshot.Current format d snapshot)
    (hentries : d.entries ≤ maxProfileDirectoryEntries)
    (hnumbers : d.revisions.numbers.length ≤ maxProfileRevisions) :
    ∃ found, format.loadOrDefault d = .ok found ∧ found.profile = snapshot.profile ∧
      found.revision = snapshot.revision := by
  have hclean : d.cleanupPublishedTemporaries.entries ≤ d.entries := by
    have hfilter := List.length_filter_le
      (fun temporary => decide (temporary.1.destination ∉ d.revisions.numbers)) d.temporaries
    unfold Directory.entries Directory.cleanupPublishedTemporaries
    dsimp only
    omega
  have hlisted : d.cleanupPublishedTemporaries.revisionsDescending = .ok d.revisions.numbers := by
    unfold Directory.revisionsDescending
    refine check_bind.mpr ⟨Nat.le_trans hclean hentries, ?_⟩
    exact check_bind.mpr ⟨hnumbers, rfl⟩
  obtain ⟨found, hfound, hcurrent'⟩ := (Reading.start format d).readNewest hcurrent
  refine ⟨found, ?_, hcurrent'.unique hcurrent⟩
  unfold loadOrDefault
  refine check_bind.mpr ⟨hentries, ?_⟩
  rw [hlisted, ok_bind]
  exact hfound

/-- A load that succeeds has found what there is to find. -/
theorem ProfileFormat.current_of_loadOrDefault (h : format.loadOrDefault d = .ok snapshot) :
    Snapshot.Current format d snapshot := by
  unfold loadOrDefault at h
  obtain ⟨-, h⟩ := check_bind.mp h
  obtain ⟨numbers, hnumbers, h⟩ := bind_eq_ok h
  -- the cleanup leaves the revisions as they are
  have hlisted : numbers = d.cleanupPublishedTemporaries.revisions.numbers :=
    Directory.revisionsDescending_eq_ok hnumbers
  rw [show numbers = d.revisions.numbers from hlisted] at h
  exact current_of_readNewest (Reading.start format d) h

end

/-! ## Updates -/

/-- What there is to find after these updates, latest first. -/
def Snapshot.after (snapshot : Snapshot P) : List (Publication P) → Snapshot P
  | [] => snapshot
  | p :: _ => ⟨p.output, some p.revision, some p.revision, []⟩

/-- Each update, latest first, is the next revision, and made of the one before it. -/
def Sequential (low : Nat) (snapshot : Snapshot P) : List (Publication P) → Prop
  | [] => True
  | p :: earlier =>
    p.revision = low + earlier.length + 1 ∧ p.input = (snapshot.after earlier).profile ∧
      Sequential low snapshot earlier

/-- The later directory has no other file under a number that is not above the head of the
earlier one. -/
structure Directory.Later (d₁ d : Directory) : Prop where
  head : d₁.revisions.top ≤ d.revisions.top
  legacy : d.legacy = d₁.legacy
  files : ∀ n ≤ d₁.revisions.top, ∀ bytes, d.revisions.lookup n = some bytes →
    d₁.revisions.lookup n = some bytes

namespace Directory.Later

variable {d₁ d d' : Directory} {format : ProfileFormat P} {n : Nat}

theorem refl (d : Directory) : Later d d := ⟨Nat.le_refl _, rfl, fun _ _ _ h => h⟩

theorem keeps (h : Later d₁ d) (hrevisions : d'.revisions = d.revisions)
    (hlegacy : d'.legacy = d.legacy) : Later d₁ d' := by
  refine ⟨?_, hlegacy.trans h.legacy, ?_⟩
  · rw [hrevisions]
    exact h.head
  · rw [hrevisions]
    exact h.files

theorem erases (h : Later d₁ d) {x : Nat} (hhead : x ≠ d.revisions.top)
    (hrevisions : d'.revisions = d.revisions.erase x) (hlegacy : d'.legacy = d.legacy) :
    Later d₁ d' := by
  refine ⟨?_, hlegacy.trans h.legacy, fun m hm bytes hbytes => ?_⟩
  · rw [hrevisions, Versions.top_erase hhead]
    exact h.head
  · rw [hrevisions] at hbytes
    by_cases hx : m = x
    · rw [hx, Versions.lookup_erase_self] at hbytes
      cases hbytes
    · rw [Versions.lookup_erase hx] at hbytes
      exact h.files m hm bytes hbytes

theorem creates (h : Later d₁ d) {revision : Nat} {bytes : List UInt8} {hpositive : 0 < revision}
    (hcreate : d.revisions.create revision bytes hpositive = some d'.revisions)
    (hover : d.revisions.top < revision) (hlegacy : d'.legacy = d.legacy) : Later d₁ d' := by
  have hhead := h.head
  refine ⟨?_, hlegacy.trans h.legacy, fun m hm bytes' hbytes => ?_⟩
  · rw [Versions.top_create hcreate hover]
    omega
  · rw [Versions.lookup_create hcreate, if_neg (by omega)] at hbytes
    exact h.files m hm bytes' hbytes

/-- What a load reads later it would have read before. -/
theorem readRevision (h : Later d₁ d) (hn : n ∈ d₁.revisions.numbers) {profile : P}
    (hread : format.readRevision d n = .ok profile) : format.readRevision d₁ n = .ok profile := by
  unfold ProfileFormat.readRevision at hread ⊢
  obtain ⟨bytes, hbytes, hread⟩ := okOr_bind.mp hread
  exact okOr_bind.mpr ⟨bytes, h.files n (Versions.le_top hn) bytes hbytes, hread⟩

theorem corrupt (h : Later d₁ d) (hn : n ∈ d₁.revisions.numbers) (hcorrupt : d.Corrupt format n) :
    d₁.Corrupt format n := by
  obtain ⟨bytes, hbytes⟩ := Versions.mem_numbers_iff.mp hcorrupt.mem
  refine hcorrupt.of_lookup ?_
  rw [hbytes]
  exact h.files n (Versions.le_top hn) bytes hbytes

end Directory.Later

/-! ## What calls have seen -/

/-- The profile and its revision were those to find after some of the updates. -/
def Snapshot.Held (first : Snapshot P) (publications : List (Publication P)) (profile : P)
    (revision : Option Nat) : Prop :=
  ∃ earlier, earlier <:+ publications ∧ profile = (first.after earlier).profile ∧
    revision = (first.after earlier).revision

namespace TransactionStage

/-- What a call has found it has found after some of the updates; if it saves, then over these. -/
def Views (format : ProfileFormat P) (low : Nat) (first : Snapshot P)
    (publications : List (Publication P)) (d : Directory) : TransactionStage P V → Prop
  | loading _ (.reading rest progress) =>
    ∃ earlier d₁, earlier <:+ publications ∧ d₁.revisions.top = low + earlier.length ∧
      Snapshot.Current format d₁ (first.after earlier) ∧ d₁.Later d ∧
      format.Reading d₁ rest progress
  | loading .. => True
  | saving _ snapshot _ profile request _ =>
    (∃ earlier, earlier <:+ publications ∧ snapshot.profile = (first.after earlier).profile ∧
      snapshot.revision = (first.after earlier).revision ∧
      request.revision = low + earlier.length + 1) ∧
      request.protectedSource = snapshot.revision ∧
      request.bytes = format.serialize profile ++ [10] ∧
      request.bytes.length ≤ format.maximumBytes
  | confirming _ snapshot => first.Held publications snapshot.profile snapshot.revision
  | finished (.unchanged _ profile saved) => first.Held publications profile saved
  | finished _ => True

variable {format : ProfileFormat P} {low process sequence : Nat} {first : Snapshot P}
  {publications publications' : List (Publication P)} {d d' : Directory} {call : ProfileCall P V}
  {fault : Bool}

theorem Views.mono {stage : TransactionStage P V} (h : stage.Views format low first publications d)
    (hmore : publications <:+ publications')
    (hlater : ∀ d₁ : Directory, d₁.Later d → d₁.Later d') :
    stage.Views format low first publications' d' := by
  cases stage with
  | loading attempt stage =>
    cases stage with
    | reading rest progress =>
      obtain ⟨earlier, d₁, hearlier, hhead, hcurrent, hd, hreading⟩ := h
      exact ⟨earlier, d₁, hearlier.trans hmore, hhead, hcurrent, hlater d₁ hd, hreading⟩
    | listing => trivial
    | loaded => trivial
  | saving attempt snapshot value profile request stage =>
    obtain ⟨⟨earlier, hearlier, hfound⟩, hrequest⟩ := h
    exact ⟨⟨earlier, hearlier.trans hmore, hfound⟩, hrequest⟩
  | confirming value snapshot =>
    obtain ⟨earlier, hearlier, hfound⟩ := h
    exact ⟨earlier, hearlier.trans hmore, hfound⟩
  | finished report =>
    cases report with
    | unchanged value profile saved =>
      obtain ⟨earlier, hearlier, hfound⟩ := h
      exact ⟨earlier, hearlier.trans hmore, hfound⟩
    | committed => trivial
    | committedButDurabilityUncertain => trivial
    | rejected => trivial
    | failed => trivial

theorem views_retry (attempt : Nat) :
    (retry attempt : TransactionStage P V).Views format low first publications d := by
  unfold retry
  split
  · exact trivial
  · exact trivial

/-- A call that has loaded what there was to find in `d₁`. -/
theorem views_ofLoad {d₁ : Directory} {earlier : List (Publication P)}
    (hearlier : earlier <:+ publications) (hhead : d₁.revisions.top = low + earlier.length)
    (hcurrent : Snapshot.Current format d₁ (first.after earlier)) {snapshot : Snapshot P}
    (hsnapshot : Snapshot.Current format d₁ snapshot) (attempt : Nat) :
    (ofLoad format call attempt (.loaded (.ok snapshot))).Views format low first publications d := by
  obtain ⟨hprofile, hrevision⟩ := hsnapshot.unique hcurrent
  rw [ofLoad_loaded]
  cases call.transaction attempt snapshot.profile snapshot.revision with
  | unchanged value => exact ⟨earlier, hearlier, hprofile, hrevision⟩
  | failed value => trivial
  | changed value profile =>
    dsimp only
    cases hprepare : SaveRequest.prepare format profile snapshot.headRevision snapshot.revision with
    | error e => trivial
    | ok request =>
      obtain ⟨hnext, -, hprotected, hbytes, hlength⟩ := SaveRequest.prepare_eq_ok hprepare
      refine ⟨⟨earlier, hearlier, hprofile, hrevision, ?_⟩, hprotected, hbytes, hlength⟩
      rw [hnext, hsnapshot.head, Versions.next_newest, hhead]

theorem views_of_loading {attempt : Nat} {stage stage' : LoadStage P}
    (h : (loading attempt stage : TransactionStage P V).Views format low first publications d)
    (hhead : d.revisions.top = low + publications.length)
    (hcurrent : Snapshot.Current format d (first.after publications))
    (hlater : ∀ d₁ : Directory, d₁.Later d → d₁.Later d')
    (hmoves : LoadStage.Moves format d stage d' stage') :
    (ofLoad format call attempt stage').Views format low first publications d' := by
  cases hmoves with
  | lists htends hrunning => exact trivial
  | fails e htends => trivial
  | begins stage =>
    -- the load is one of the directory as it is now
    exact ⟨publications, d, List.suffix_refl _, hhead, hcurrent, .refl d, .start format d⟩
  | passes revision rest progress hread hcorrupt =>
    obtain ⟨earlier, d₁, hearlier, htop, hfound, hd, hreading⟩ := h
    have hmem : revision ∈ d₁.revisions.numbers := by
      rw [hreading.numbers]
      exact List.mem_append_right _ List.mem_cons_self
    exact ⟨earlier, d₁, hearlier, htop, hfound, hd,
      hreading.pass (hd.corrupt hmem ⟨_, hread, hcorrupt⟩) _⟩
  | finds revision rest progress hread =>
    obtain ⟨earlier, d₁, hearlier, htop, hfound, hd, hreading⟩ := h
    have hmem : revision ∈ d₁.revisions.numbers := by
      rw [hreading.numbers]
      exact List.mem_append_right _ List.mem_cons_self
    exact views_ofLoad hearlier htop hfound (hreading.finds (hd.readRevision hmem hread)) attempt
  | fallsBack progress =>
    obtain ⟨earlier, d₁, hearlier, htop, hfound, hd, hreading⟩ := h
    cases hlegacy : format.readLegacy d progress with
    | error e => trivial
    | ok snapshot =>
      exact views_ofLoad hearlier htop hfound (hreading.fallsBack hd.legacy hlegacy) attempt

/-- A turn of a call. -/
theorem views_step {stage : TransactionStage P V} (hok : stage.Ok low process sequence d)
    (h : stage.Views format low first publications d)
    (hhead : d.revisions.top = low + publications.length)
    (hcurrent : Snapshot.Current format d (first.after publications))
    (hlater : ∀ d₁ : Directory, d₁.Later d →
      d₁.Later (stage.step format call process sequence fault d).1) :
    (stage.step format call process sequence fault d).2.Views format low first publications
      (stage.step format call process sequence fault d).1 := by
  cases stage with
  | loading attempt stage =>
    exact views_of_loading h hhead hcurrent hlater (LoadStage.step_moves format hok.running_load)
  | saving attempt snapshot value profile request stage =>
    have hmoves : SaveStage.Moves request process sequence d stage
        (stage.step request process sequence fault d).1
        (stage.step request process sequence fault d).2 := SaveStage.step_moves hok.1.running
    unfold step
    dsimp only
    rcases SaveStage.running_of_moves hmoves with hrunning | ⟨outcome, heq⟩
    · rw [ofSave_of_running _ _ _ _ _ hrunning]
      exact h
    · rw [heq]
      match outcome with
      | .error e => trivial
      | .ok (.published revision true) => trivial
      | .ok (.published revision false) => trivial
      | .ok .destinationExists => exact views_retry attempt
  | confirming value snapshot =>
    unfold step
    dsimp only
    split
    · trivial
    · exact h
  | finished report => exact h

end TransactionStage

/-! ## Histories -/

namespace Store

/-- The store after these updates, latest first. -/
structure Registered (format : ProfileFormat P) (low : Nat) (first : Snapshot P)
    (publications : List (Publication P)) (s : Store P V) : Prop where
  sequential : Sequential low first publications
  head : s.directory.revisions.top = low + publications.length
  current : Snapshot.Current format s.directory (first.after publications)
  views : ∀ i, (s.stages i).Views format low first publications s.directory

variable {format : ProfileFormat P} {clients : Clients P V} {low : Nat} {first : Snapshot P}
  {publications : List (Publication P)} {s : Store P V}

/-- What is there to find is the first snapshot, or the head. -/
theorem Registered.source (h : s.Registered format low first publications) :
    publications = [] ∨
      (first.after publications).revision = some s.directory.revisions.top := by
  cases hpublications : publications with
  | nil => exact .inl rfl
  | cons p earlier =>
    have hsequential := h.sequential
    rw [hpublications] at hsequential
    rw [h.head, hpublications]
    refine .inr ?_
    show some p.revision = _
    rw [hsequential.1]
    rfl

/-- What precompaction removes is neither the head nor what there is to find. -/
theorem Registered.spares (h : s.Registered format low first publications) (hok : s.Ok clients low)
    {i attempt : Nat} {snapshot : Snapshot P} {value : V} {profile : P} {request : SaveRequest}
    {save : SaveStage} (hstage : s.stages i = .saving attempt snapshot value profile request save)
    {x : Nat} (hx : x ∈ save.removals) :
    x ≠ s.directory.revisions.top ∧ (first.after publications).revision ≠ some x := by
  have hcall := hok.stages i
  have hviews := h.views i
  rw [hstage] at hcall hviews
  have hbelow := hcall.1.below x hx
  unfold SaveStage.slack at hbelow
  have hhead : x ≠ s.directory.revisions.top := by omega
  refine ⟨hhead, fun hsource => ?_⟩
  rcases h.source with hnil | hlatest
  · -- the call has loaded the first snapshot, and protects its source
    obtain ⟨⟨earlier, hearlier, -, hrevision, -⟩, hprotected, -⟩ := hviews
    rw [hnil] at hearlier hsource
    rw [List.suffix_nil.mp hearlier] at hrevision
    refine hcall.1.spared x hx ?_
    rw [hprotected, hrevision, hsource]
  · rw [hlatest] at hsource
    exact hhead (Option.some.inj hsource).symm

/-- A turn that publishes nothing under an old number keeps the register. -/
theorem Registered.turn (h : s.Registered format low first publications) (hok : s.Ok clients low)
    (i : Nat) (fault : Bool)
    (htimely : ∀ p, (s.turn format clients i fault).1 = some p →
      p.head < p.revision + SaveStage.slack) :
    (s.turn format clients i fault).2.Registered format low first
      ((s.turn format clients i fault).1.toList ++ publications) := by
  have hturned := @turned _ _ format _ _ _ hok i fault
  have hstages : ∀ j, j ≠ i → (s.turn format clients i fault).2.stages j = s.stages j :=
    fun j hj => Function.update_of_ne hj _ _
  have hnext : (s.turn format clients i fault).2.stages i =
      ((s.stages i).step format (clients.calls i) (clients.process i)
        (s.sequences (clients.process i)) fault s.directory).2 := Function.update_self _ _ _
  have hviews : (∀ d₁ : Directory, d₁.Later s.directory →
      d₁.Later (s.turn format clients i fault).2.directory) →
      ∀ j, ((s.turn format clients i fault).2.stages j).Views format low first
        ((s.turn format clients i fault).1.toList ++ publications)
        (s.turn format clients i fault).2.directory := by
    intro hlater j
    have hmore := List.suffix_append (s.turn format clients i fault).1.toList publications
    by_cases hj : j = i
    · subst hj
      rw [hnext]
      have hstep := TransactionStage.views_step (hok.stages j) (h.views j) h.head h.current hlater
      exact hstep.mono hmore fun d₁ hd => hd
    · rw [hstages j hj]
      exact (h.views j).mono hmore hlater
  cases hpublished : (s.turn format clients i fault).1 with
  | none =>
    rw [hpublished] at hviews
    cases hturned.changes with
    | keeps hrevisions =>
      refine ⟨h.sequential, ?_, h.current.keeps hrevisions hturned.legacy, hviews fun d₁ hd => ?_⟩
      · rw [hrevisions]
        exact h.head
      · exact hd.keeps hrevisions hturned.legacy
    | erases attempt snapshot value profile request save hstage x hremoval hrevisions =>
      obtain ⟨hhead, hsource⟩ := h.spares hok hstage hremoval
      refine ⟨h.sequential, ?_, h.current.erases hhead hsource hrevisions hturned.legacy,
        hviews fun d₁ hd => ?_⟩
      · rw [hrevisions, Versions.top_erase hhead]
        exact h.head
      · exact hd.erases hhead hrevisions hturned.legacy
    | creates attempt snapshot value profile request name bytes hpositive hstage hstage' =>
      rw [publication_turn, hstage, hstage'] at hpublished
      cases hpublished
  | some p =>
    obtain ⟨attempt, snapshot, value, profile, request, name, bytes, hpositive, hstage, -, heq,
      htemporary, hcreate⟩ := publishes_of_turn hok i fault hpublished
    have horder := (over_of_turn hok i fault hpublished).2
    have hnew := htimely p hpublished
    rw [hpublished] at hviews
    subst heq
    dsimp only at horder hnew
    -- The number was not used before, so it is the one after the head.
    have hrevision : request.revision = s.directory.revisions.top + 1 := by omega
    have hcall := hok.stages i
    have hseen := h.views i
    rw [hstage] at hcall hseen
    obtain ⟨⟨earlier, hearlier, hprofile, -, hlength⟩, -, hbytes, hfits⟩ := hseen
    obtain rfl : earlier = publications := by
      refine hearlier.eq_of_length ?_
      have hhead := h.head
      omega
    have hfull : bytes = request.bytes := hcall.1.filled rfl name rfl bytes htemporary
    have hover : s.directory.revisions.top < request.revision := by omega
    rw [hfull] at hcreate
    refine ⟨⟨hlength, hprofile, h.sequential⟩, ?_, ?_, hviews fun d₁ hd => ?_⟩
    · rw [Versions.top_create hcreate hover, hlength]
      rfl
    · exact .of_create hbytes hfits hcreate hover []
    · exact hd.creates hcreate hover hturned.legacy

/-- All updates of a history, latest first. -/
def published (tr : List ((Nat × Bool) × Option (Publication P))) : List (Publication P) :=
  tr.filterMap Prod.snd

theorem published_cons (turn : Nat × Bool) (p : Option (Publication P))
    (tr : List ((Nat × Bool) × Option (Publication P))) :
    published ((turn, p) :: tr) = p.toList ++ published tr := by
  unfold published
  cases p <;> rfl

variable {d : Directory} {tr : List ((Nat × Bool) × Option (Publication P))}

theorem registered (hfirst : Snapshot.Current format d first)
    (h : (machine format clients d).History tr s)
    (htimely : ∀ p ∈ published tr, p.head < p.revision + SaveStage.slack) :
    s.Registered format d.revisions.top first (published tr) := by
  revert htimely
  refine h.invariant (P := fun tr s =>
    (∀ p ∈ published tr, p.head < p.revision + SaveStage.slack) →
      s.Registered format d.revisions.top first (published tr)) ?_ ?_
  · intro _
    exact ⟨trivial, rfl, hfirst, fun i => trivial⟩
  · intro tr s s' turn r hist ih hs htimely
    cases hs
    rw [published_cons] at htimely ⊢
    have hregistered := ih fun p hp => htimely p (List.mem_append_right _ hp)
    refine hregistered.turn (ok_of_history hist) turn.1 turn.2 fun p hp => ?_
    exact htimely p (List.mem_append_left _ (Option.mem_toList.mpr hp))

/-- **The store is a register.** Unless a number is published again that has been compacted away,
each update is what the closure of its call has made of the one before it, and stands right above it,
whoever made them; after any steps of any calls, also of those that will never go on, a load finds the
last one, if the directory is not too full for any load; and an unchanged call has seen what was there
to find at some time. -/
theorem atomic_register (hfirst : format.loadOrDefault d = .ok first)
    (h : (machine format clients d).History tr s)
    (htimely : ∀ p ∈ published tr, p.head < p.revision + SaveStage.slack) :
    Sequential d.revisions.top first (published tr) ∧
      (∀ i fault p, ((i, fault), some p) ∈ tr → ∃ attempt source value,
        (clients.calls i).transaction attempt p.input source = .changed value p.output) ∧
      (s.directory.entries ≤ maxProfileDirectoryEntries →
        s.directory.revisions.numbers.length ≤ maxProfileRevisions →
        ∃ found, format.loadOrDefault s.directory = .ok found ∧
          found.profile = (first.after (published tr)).profile ∧
          found.revision = (first.after (published tr)).revision) ∧
      ∀ i value profile saved, s.stages i = .finished (.unchanged value profile saved) →
        first.Held (published tr) profile saved := by
  have hregistered := registered (ProfileFormat.current_of_loadOrDefault hfirst) h htimely
  refine ⟨hregistered.sequential, fun i fault p hp => made_by_call h hp, fun hentries hnumbers => ?_,
    fun i value profile saved hstage => ?_⟩
  · exact ProfileFormat.loadOrDefault_current hregistered.current hentries hnumbers
  · have hviews := hregistered.views i
    rw [hstage] at hviews
    exact hviews

/-- The run of two processes: the second byte was added to the first. -/
theorem sampleRun_register :
    Sequential 0 ⟨[], none, none, []⟩ (published sampleRun.1) ∧
      (∀ i fault p, ((i, fault), some p) ∈ sampleRun.1 → ∃ attempt source value,
        (sampleClients.calls i).transaction attempt p.input source = .changed value p.output) ∧
      (sampleRun.2.directory.entries ≤ maxProfileDirectoryEntries →
        sampleRun.2.directory.revisions.numbers.length ≤ maxProfileRevisions →
        ∃ found, sampleFormat.loadOrDefault sampleRun.2.directory = .ok found ∧
          found.profile = [0, 1] ∧ found.revision = some 2) ∧
      ∀ i value profile saved, sampleRun.2.stages i = .finished (.unchanged value profile saved) →
        Snapshot.Held ⟨[], none, none, []⟩ (published sampleRun.1) profile saved := by
  have hfirst : sampleFormat.loadOrDefault ⟨.empty, [], none, 0⟩ = .ok ⟨[], none, none, []⟩ := rfl
  exact atomic_register hfirst sampleRun_history (by decide +kernel)

end Store

end P4475.Profile
