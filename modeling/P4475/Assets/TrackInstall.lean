import Mathlib.Data.List.Basic
import Mathlib.Logic.Function.Basic
import P4475.Core.Bml
import P4475.Lib.Interruptible

/-!
# Installing a track bundle

The entries of a verified bundle are written into the game's tree one after another, in place. A
resource may only be added; a catalog is backed up once and then replaced. Writing a file truncates
it first and then gives it its bytes, and so does copying one. An installation may be cut off
between any two of these steps, and run again.
-/

namespace P4475.Assets

open Lib Program

abbrev Bytes := List UInt8

/-- The components of a relative path. -/
abbrev AssetPath := List Text

def pathText (path : AssetPath) : Text := List.intercalate ['/'] path

/-- `SOURCE_TRACK_TABLE`. -/
def sourceTrackTable : AssetPath := ["track".toList, "common".toList, "track@zz.bml".toList]

/-- `TARGET_TRACK_LOCALE`. -/
def targetTrackLocale : AssetPath :=
  ["track".toList, "common".toList, "trackLocale@kr.bml".toList]

/-- `SELECT_TRACK_STRING_BAG`. -/
def selectTrackStringBag : AssetPath :=
  ["dialog2".toList, "selectTrackEx".toList, "selectTrackEx_stringBag.bml".toList]

/-- `CONTENT_CONFIG`. -/
def contentConfig : AssetPath :=
  ["zeta_".toList, "kr".toList, "content".toList, "config.xml".toList]

/-- `SELECT_TRACK_CONFIGS`. -/
def selectTrackConfigs : List AssetPath :=
  [["dialog2".toList, "selectTrackEx".toList, "config@cn.bml".toList],
    ["dialog2".toList, "selectTrackEx".toList, "config@tw.bml".toList]]

/-- `is_track_bundle_catalog_path`. -/
def isTrackBundleCatalogPath (path : AssetPath) : Bool :=
  eqIgnoreAsciiCase (pathText path) (pathText sourceTrackTable) ||
    eqIgnoreAsciiCase (pathText path) (pathText targetTrackLocale) ||
    eqIgnoreAsciiCase (pathText path) (pathText selectTrackStringBag) ||
    eqIgnoreAsciiCase (pathText path) (pathText contentConfig) ||
    selectTrackConfigs.any fun candidate =>
      eqIgnoreAsciiCase (pathText path) (pathText candidate)

/-- An error: its message, and what it is about. -/
structure InstallError where
  message : String
  subject : Text
  deriving DecidableEq

structure ThemeReport where
  id : Text
  selectorCatalogs : List AssetPath

structure ArchiveReport where
  name : Text
  role : Text
  bytes : Nat
  sha256 : Text

structure TrackBundleReport where
  schemaVersion : Nat
  /-- the tracks' ids -/
  tracks : List Text
  themes : List ThemeReport
  archives : List ArchiveReport
  contentRegistryCatalogs : List AssetPath

/-- An indexed entry, and what extracting it gives. -/
structure Rho5Entry where
  archiveName : Text
  normalizedPath : AssetPath
  extracted : Except InstallError Bytes

/-- The bundle's directory, and where the installation goes. -/
structure TrackBundle where
  bundleIsDirectory : Bool
  dataRawIsDirectory : Bool
  bundleInsideDataRaw : Bool
  backupInsideDataRaw : Bool
  report : Except InstallError TrackBundleReport
  stagedArchive : Text → Option Bytes
  archiveCount : Nat
  entries : Except InstallError (List Rho5Entry)

/-- What the installation reads with: the digest in hexadecimal, and the reader of the content
registry. -/
structure BundleTools where
  sha256 : Bytes → Text
  contentRegistryEntryEnabled : AssetPath → Bytes → Text → Except InstallError Bool

/-- The game's tree and the backups, by path. -/
structure InstallFiles where
  dataRaw : AssetPath → Option Bytes
  backup : AssetPath → Option Bytes

namespace InstallFiles

def putDataRaw (path : AssetPath) (bytes : Bytes) (files : InstallFiles) : InstallFiles :=
  { files with dataRaw := Function.update files.dataRaw path (some bytes) }

def putBackup (path : AssetPath) (bytes : Bytes) (files : InstallFiles) : InstallFiles :=
  { files with backup := Function.update files.backup path (some bytes) }

variable {path : AssetPath} {bytes : Bytes} {files : InstallFiles}

@[simp] theorem putDataRaw_dataRaw : (files.putDataRaw path bytes).dataRaw =
    Function.update files.dataRaw path (some bytes) := rfl

@[simp] theorem putDataRaw_backup : (files.putDataRaw path bytes).backup = files.backup := rfl

@[simp] theorem putBackup_backup : (files.putBackup path bytes).backup =
    Function.update files.backup path (some bytes) := rfl

@[simp] theorem putBackup_dataRaw : (files.putBackup path bytes).dataRaw = files.dataRaw := rfl

/-- The bytes of a file take the place of its truncation. -/
theorem putDataRaw_putDataRaw (now : Bytes) :
    (files.putDataRaw path now).putDataRaw path bytes = files.putDataRaw path bytes := by
  unfold putDataRaw
  rw [Function.update_idem]

theorem putBackup_putBackup (now : Bytes) :
    (files.putBackup path now).putBackup path bytes = files.putBackup path bytes := by
  unfold putBackup
  rw [Function.update_idem]

end InstallFiles

abbrev InstallProgram (α : Type) := Program InstallFiles InstallError α

/-- `anyhow::ensure`. -/
def ensure (condition : Bool) (message : String) (subject : Text) : Except InstallError Unit :=
  if condition then .ok () else .error ⟨message, subject⟩

/-! ## Before anything is written -/

/-- `validate_archive_name`. -/
def validateArchiveName (name : Text) : Except InstallError Unit :=
  ensure (!name.contains '/' && !name.contains '\\' &&
    ".rho5".toList.isSuffixOf (name.map Char.toLower)) "invalid RHO5 archive file name" name

/-- The staged archives are those of the report. -/
def checkArchives (tools : BundleTools) (bundle : TrackBundle) :
    List ArchiveReport → Except InstallError Unit
  | [] => .ok ()
  | archive :: rest => do
    validateArchiveName archive.name
    match bundle.stagedArchive archive.name with
    | none => .error ⟨"failed to read staged archive", archive.name⟩
    | some bytes =>
      ensure (bytes.length = archive.bytes) "archive size mismatch for" archive.name
      ensure (eqIgnoreAsciiCase (tools.sha256 bytes) archive.sha256) "archive hash mismatch for"
        archive.name
      checkArchives tools bundle rest

/-- The role of an archive by its name; of two archives with one name the later counts. -/
def archiveRole (report : TrackBundleReport) (name : Text) : Option Text :=
  (report.archives.reverse.find? fun archive =>
    archive.name.map Char.toLower = name.map Char.toLower).map ArchiveReport.role

/-- `safe_relative_path`, on the components of a path. -/
def safeRelativePath (path : AssetPath) : Except InstallError AssetPath := do
  ensure (path.all fun component => !(component == [] || component == ['.'] ||
    component == ['.', '.'])) "unsafe asset path component in" (pathText path)
  ensure (!path.isEmpty) "empty asset path is not allowed" []
  return path

/-- What is to be installed for an entry, where anything is: its path and its bytes. -/
def admitEntry (report : TrackBundleReport) (entry : Rho5Entry) :
    Except InstallError (Option (AssetPath × Bytes)) :=
  match archiveRole report entry.archiveName with
  | none => .error ⟨"archive is not in the bundle report", entry.archiveName⟩
  | some role =>
    if role = "track_catalog".toList ∧ ¬ isTrackBundleCatalogPath entry.normalizedPath then
      .ok none
    else do
      ensure (role = "track_catalog".toList ∨ role = "track_resources".toList)
        "unsupported track bundle archive role" role
      let relative ← safeRelativePath entry.normalizedPath
      let bytes ← entry.extracted
      return some (relative, bytes)

/-- What can be checked of the bundle alone. -/
def checkBundle (tools : BundleTools) (bundle : TrackBundle) :
    Except InstallError (TrackBundleReport × List Rho5Entry) := do
  ensure (!bundle.bundleInsideDataRaw) "track bundle must be outside DataRaw" []
  ensure (!bundle.backupInsideDataRaw) "backup directory must be outside DataRaw" []
  let report ← bundle.report
  ensure (1 ≤ report.schemaVersion ∧ report.schemaVersion ≤ 5) "unsupported track bundle schema" []
  ensure (!report.tracks.isEmpty) "track bundle contains no tracks" []
  checkArchives tools bundle report.archives
  let entries ← bundle.entries
  ensure (bundle.archiveCount = report.archives.length)
    "bundle directory contains unreported RHO5 archives" []
  return (report, entries)

/-! ## Writing -/

/-- `fs::write` under the game's tree: the file is truncated, then it has its bytes. -/
def writeDataRaw (path : AssetPath) (bytes : Bytes) : InstallProgram Unit := do
  change (InstallFiles.putDataRaw path [])
  change (InstallFiles.putDataRaw path bytes)

/-- `backup_once`, with `fs::copy` truncating the backup before it is filled. -/
def backupOnce (path : AssetPath) : InstallProgram Unit := do
  if ← ask fun files => (files.backup path).isSome then return
  else
    match ← ask fun files => files.dataRaw path with
    | none => fail ⟨"failed to back up", pathText path⟩
    | some bytes =>
      change (InstallFiles.putBackup path [])
      change (InstallFiles.putBackup path bytes)

/-- What the installation counts for its report. -/
structure InstallCounts where
  installed : Nat
  identical : Nat
  replaced : Nat
  installedPaths : List AssetPath
  deriving DecidableEq

/-- The write of an entry, read back. -/
def writeVerified (path : AssetPath) (bytes : Bytes) (counts : InstallCounts) :
    InstallProgram InstallCounts := do
  writeDataRaw path bytes
  if (← ask fun files => files.dataRaw path) = some bytes then
    return { counts with
      installed := counts.installed + 1
      installedPaths := counts.installedPaths ++ [path] }
  else fail ⟨"failed to verify", pathText path⟩

/-- One turn of the loop, for what is to be installed. -/
def installEntry (path : AssetPath) (bytes : Bytes) (counts : InstallCounts) :
    InstallProgram InstallCounts := do
  match ← ask fun files => files.dataRaw path with
  | none => writeVerified path bytes counts
  | some existing =>
    if existing = bytes then return { counts with identical := counts.identical + 1 }
    else if isTrackBundleCatalogPath path then
      backupOnce path
      writeVerified path bytes { counts with replaced := counts.replaced + 1 }
    else fail ⟨"resource path already exists with different bytes", pathText path⟩

def installEntries (report : TrackBundleReport) :
    List Rho5Entry → InstallCounts → InstallProgram InstallCounts
  | [], counts => return counts
  | entry :: rest, counts =>
    match admitEntry report entry with
    | .error e => fail e
    | .ok none => installEntries report rest counts
    | .ok (some (path, bytes)) => do
      let counts ← installEntry path bytes counts
      installEntries report rest counts

/-! ## After everything is written -/

/-- `BML_LIMITS`. -/
def bmlLimits : BmlLimits := ⟨32, 200000, 512, 100000, 8192⟩

/-- `decode_bml`. -/
def decodeBml (path : AssetPath) (bytes : Bytes) : Except InstallError BmlNode :=
  match ((decodeWithLimits bmlLimits).run.run ⟨bytes, 0⟩ : Except BmlError BmlNode × PacketReader)
    with
  | (.error _, _) => .error ⟨"failed to decode", pathText path⟩
  | (.ok root, reader) => do
    ensure reader.remaining.isEmpty "has trailing bytes" (pathText path)
    return root

def BmlNode.children : BmlNode → List BmlNode
  | .node _ _ _ children => children

def BmlNode.name : BmlNode → Text
  | .node name _ _ _ => name

/-- `attribute`. -/
def attributeOf (node : BmlNode) (name : Text) : Option Text :=
  match node with
  | .node _ _ attributes _ =>
    (attributes.find? fun entry => eqIgnoreAsciiCase entry.1 name).map Prod.snd

structure ThemeSlotAlias where
  nativeCode : Text
  nativeId : Text
  stringKey : Text
  icon : Text
  contentKey : Text

/-- `theme_slot_alias`. -/
def themeSlotAlias (theme : Text) : Option ThemeSlotAlias :=
  if eqIgnoreAsciiCase theme "fengshen".toList then
    some ⟨"xyy".toList, "17".toList, "themeFengshen".toList, "fengshen".toList, "themeXyy".toList⟩
  else none

/-- `selector_registration_id`. -/
def selectorRegistrationId (theme : Text) : Text :=
  ((themeSlotAlias theme).map ThemeSlotAlias.nativeId).getD theme

/-- `selector_has_theme`. -/
def selectorHasTheme (root : BmlNode) (theme : Text) : Bool :=
  ((BmlNode.children root).find? fun node =>
      eqIgnoreAsciiCase (BmlNode.name node) "themeTabOrder".toList).any fun order =>
    (BmlNode.children order).any fun node =>
      (attributeOf node "id".toList).any fun id => eqIgnoreAsciiCase id (selectorRegistrationId theme)

/-- `string_bag_has_key`. -/
def stringBagHasKey (root : BmlNode) (key : Text) : Bool :=
  (BmlNode.children root).any fun node => eqIgnoreAsciiCase (BmlNode.name node) ['k'] &&
    (attributeOf node ['n']).any fun name => eqIgnoreAsciiCase name key

/-- A file of the installed tree. -/
def readInstalled (dataRaw : AssetPath → Option Bytes) (path : AssetPath) :
    Except InstallError Bytes :=
  match dataRaw path with
  | none => .error ⟨"failed to read", pathText path⟩
  | some bytes => .ok bytes

def hasTrack (root : BmlNode) (id : Text) : Bool :=
  (BmlNode.children root).any fun node => attributeOf node "id".toList == some id

/-- The checks of the installed catalogs. -/
def verifyInstalled (tools : BundleTools) (report : TrackBundleReport)
    (dataRaw : AssetPath → Option Bytes) : Except InstallError Unit := do
  let table ← decodeBml sourceTrackTable (← readInstalled dataRaw sourceTrackTable)
  let locale ← decodeBml targetTrackLocale (← readInstalled dataRaw targetTrackLocale)
  report.tracks.forM fun id => do
    ensure (hasTrack table id) "installed track table is missing" id
    ensure (hasTrack locale id) "installed track locale is missing" id
  report.themes.forM fun theme => theme.selectorCatalogs.forM fun path => do
    let config ← decodeBml path (← readInstalled dataRaw path)
    ensure (selectorHasTheme config theme.id) "installed selector catalog is missing theme" theme.id
  if report.themes.any fun theme => (themeSlotAlias theme.id).isSome then do
    let bag ← decodeBml selectTrackStringBag (← readInstalled dataRaw selectTrackStringBag)
    (report.themes.filterMap fun theme => themeSlotAlias theme.id).forM fun slot =>
      ensure (stringBagHasKey bag slot.stringKey) "installed selector string bag is missing"
        slot.stringKey
  report.contentRegistryCatalogs.forM fun path => do
    let config ← readInstalled dataRaw path
    (report.themes.filterMap fun theme => themeSlotAlias theme.id).forM fun slot => do
      let enabled ← tools.contentRegistryEntryEnabled path config slot.contentKey
      ensure enabled "installed content registry does not enable" slot.contentKey

/-! ## The installation -/

/-- A result that does not touch the files, as a step of the installation. -/
def lift {α : Type} (result : Except InstallError α) : InstallProgram α := .done result

/-- `install_tracks_dataraw`. -/
def installTracksDataraw (tools : BundleTools) (bundle : TrackBundle) :
    InstallProgram InstallCounts := do
  lift (ensure bundle.dataRawIsDirectory "DataRaw directory does not exist" [])
  lift (ensure bundle.bundleIsDirectory "track bundle directory does not exist" [])
  let complete ← ask fun files =>
    (files.dataRaw sourceTrackTable).isSome && (files.dataRaw targetTrackLocale).isSome
  lift (ensure complete "destination is not a complete P4475 DataRaw tree" [])
  let (report, entries) ← lift (checkBundle tools bundle)
  let counts ← installEntries report entries ⟨0, 0, 0, []⟩
  let verified ← ask fun files => verifyInstalled tools report files.dataRaw
  lift verified
  return counts

end P4475.Assets
