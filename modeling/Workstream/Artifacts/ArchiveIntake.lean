import Workstream.Artifacts.ArchiveReading
import Mathlib.Algebra.Order.BigOperators.Group.List
import Mathlib.Data.List.Dedup

/-! # The later consumers of an accepted archive -/

namespace Workstream.Artifacts
open Foundation

variable {u : Unicode} {bytes depth : ℕ} {path : String}

variable {entries : List SubmissionArchiveEntry}

theorem checkInventory_eq_ok {kinds : String → Option SubmissionArchiveEntryType} :
    ∀ {seen : List String},
    checkInventory u kinds seen entries = .ok () ↔
      (entries.map (fun entry => u.fold entry.normalizedPath)).Nodup ∧
      (∀ entry ∈ entries, u.fold entry.normalizedPath ∉ seen) ∧
      ∀ entry ∈ entries, ∀ path ∈ ancestors (splitPath entry.normalizedPath),
        kinds path = some .directory := by
  induction entries with
  | nil => simp [checkInventory, pure_eq_ok]
  | cons entry entries ih =>
    intro seen
    simp only [checkInventory, eq_ok, ih, List.map_cons, List.nodup_cons, List.forall_mem_cons]
    simp only [List.mem_cons, not_or, List.mem_map, not_exists, not_and]
    constructor
    · rintro ⟨⟨⟩, hseen, ⟨⟩, hancestors, hnodup, hrest, hkinds⟩
      exact ⟨⟨fun e he => (hrest e he).1, hnodup⟩, ⟨hseen, fun e he => (hrest e he).2⟩, hancestors, hkinds⟩
    · rintro ⟨⟨hfresh, hnodup⟩, ⟨hseen, hrest⟩, hancestors, hkinds⟩
      exact ⟨(), hseen, (), hancestors, hnodup, fun e he => ⟨hfresh e he, hrest e he⟩, hkinds⟩

theorem kindOf_eq_some {kind : SubmissionArchiveEntryType}
    (hnodup : (entries.map (fun entry => u.fold entry.normalizedPath)).Nodup) :
    kindOf entries path = some kind ↔
      ∃ entry ∈ entries, entry.normalizedPath = path ∧ entry.entryType = kind := by
  rw [kindOf, Option.map_eq_some_iff]
  constructor
  · rintro ⟨entry, hfind, rfl⟩
    have hpath := List.find?_some hfind
    exact ⟨entry, List.mem_reverse.mp (List.mem_of_find?_eq_some hfind), by simpa using hpath, rfl⟩
  · rintro ⟨entry, hentry, rfl, rfl⟩
    cases hfind : entries.reverse.find? (fun e => e.normalizedPath = entry.normalizedPath) with
    | none =>
      have hnone := List.find?_eq_none.mp hfind entry (List.mem_reverse.mpr hentry)
      exact absurd hnone (by simp)
    | some found =>
      have hpath : found.normalizedPath = entry.normalizedPath := by
        simpa using List.find?_some hfind
      have hmem := List.mem_reverse.mp (List.mem_of_find?_eq_some hfind)
      obtain rfl := List.inj_on_of_nodup_map hnodup hmem hentry (by rw [hpath])
      exact ⟨found, rfl, rfl⟩

theorem validate_perm {listed : List SubmissionArchiveEntry} (hperm : listed.Perm entries)
    (h : validateSubmissionArchiveInventory u entries = .ok ()) :
    validateSubmissionArchiveInventory u listed = .ok () := by
  rw [validateSubmissionArchiveInventory, checkInventory_eq_ok] at h ⊢
  obtain ⟨hnodup, -, hkinds⟩ := h
  have hnodup' : (listed.map (fun entry => u.fold entry.normalizedPath)).Nodup :=
    ((hperm.map _).nodup_iff).mpr hnodup
  refine ⟨hnodup', fun _ _ => List.not_mem_nil, fun entry hentry path hpath => ?_⟩
  rw [kindOf_eq_some hnodup']
  obtain ⟨e, he, hfound⟩ :=
    (kindOf_eq_some hnodup).mp (hkinds entry (hperm.mem_iff.mp hentry) path hpath)
  exact ⟨e, hperm.mem_iff.mpr he, hfound⟩

theorem sortEntries_perm (entries : List SubmissionArchiveEntry) : (sortEntries entries).Perm entries :=
  List.perm_insertionSort _ entries

theorem pairwise_sortEntries (entries : List SubmissionArchiveEntry) :
    (sortEntries entries).Pairwise (fun a b => a.normalizedPath ≤ b.normalizedPath) := by
  exact List.pairwise_insertionSort _ entries

theorem sortEntries_sortEntries (entries : List SubmissionArchiveEntry) :
    sortEntries (sortEntries entries) = sortEntries entries :=
  List.Pairwise.insertionSort_eq (pairwise_sortEntries entries)

theorem expandedBytes_sortEntries (entries : List SubmissionArchiveEntry) :
    expandedBytes (sortEntries entries) = expandedBytes entries :=
  ((sortEntries_perm entries).map _).foldr_eq 0

theorem countFiles_sortEntries (entries : List SubmissionArchiveEntry) :
    countFiles (sortEntries entries) = countFiles entries :=
  (sortEntries_perm entries).countP_eq _

/-- An entry that a stored manifest can hold. -/
structure SubmissionArchiveEntry.Storable (u : Unicode) (entry : SubmissionArchiveEntry) : Prop where
  identity : checkIdentity entry = .ok ()
  bytes : entry.byteCount ≤ maximumManifestBytes
  safe : SafePath u 4096 256 entry.normalizedPath

theorem SafePath.ne_empty (h : SafePath u bytes depth path) : path ≠ "" := by
  rintro rfl
  exact (h.parts "" (by decide)).1 rfl

variable {entry : SubmissionArchiveEntry}

theorem SubmissionArchiveEntry.body_fields (h : checkIdentity entry = .ok ())
    (hsize : entry.byteCount ≤ maximumManifestBytes) :
    ∃ fields names, entry.body = .obj fields ∧ entryKind fields = .ok (entry.entryType, names) ∧
      fields.lookup "normalized_path" = some (.str entry.normalizedPath) ∧ hasFields fields names ∧
      sizeField entry.entryType (fields.lookup "byte_count") = .ok entry.byteCount ∧
      textField (fields.lookup "sha256") = .ok entry.sha256 ∧
      flagField (fields.lookup "executable") = .ok entry.executable := by
  obtain ⟨path, kind, size, sha256, executable⟩ := entry
  cases kind with
  | directory =>
    simp only [checkIdentity, require_eq_ok] at h
    obtain ⟨rfl, rfl, rfl⟩ := h
    refine ⟨_, _, rfl, rfl, rfl, ⟨by simp, by simp⟩, rfl, rfl, rfl⟩
  | file =>
    simp only [checkIdentity, eq_ok] at h
    obtain ⟨⟨⟩, hexecutable, digest, rfl, -⟩ := h
    obtain ⟨flag, rfl⟩ := Option.ne_none_iff_exists'.mp hexecutable
    refine ⟨_, _, rfl, rfl, rfl, ⟨by simp, by simp⟩, ?_, rfl, rfl⟩
    have hrange : (0 : ℤ) ≤ size ∧ (size : ℤ) ≤ maximumManifestBytes := ⟨by omega, by exact_mod_cast hsize⟩
    simp [sizeField, require, List.lookup_cons, hrange]

variable {read : List SubmissionArchiveEntry}

theorem readBodyEntry_body (h : entry.Storable u)
    (hfresh : entry.normalizedPath ∉ read.map (·.normalizedPath)) :
    readBodyEntry u read entry.body = .ok (read ++ [entry]) := by
  obtain ⟨fields, names, hbody, hkind, hpath, hfields, hsize, hsha, hexec⟩ :=
    SubmissionArchiveEntry.body_fields h.identity h.bytes
  have hcheck := And.intro hfields (And.intro h.safe.ne_empty hfresh)
  simp only [hbody, readBodyEntry, hpath, eq_ok]
  exact ⟨_, hkind, (), hcheck, _, h.safe.normalize_eq, (), rfl, _, hsize, _, hsha, _, hexec, rfl⟩

theorem length_utf8_le_of_readBodyEntry {after : List SubmissionArchiveEntry}
    (hid : checkIdentity entry = .ok ()) (hbytes : entry.byteCount ≤ maximumManifestBytes)
    (h : readBodyEntry u read entry.body = .ok after) :
    (utf8 entry.normalizedPath).length ≤ 4096 := by
  obtain ⟨fields, names, hbody, hkind, hpath, -⟩ := SubmissionArchiveEntry.body_fields hid hbytes
  simp only [hbody, readBodyEntry, hkind, hpath, eq_ok] at h
  obtain ⟨_, _, ⟨⟩, -, normalized, hnormal, -⟩ := h
  simp only [normalizeSubmissionArchivePath, eq_ok] at hnormal
  obtain ⟨⟨⟩, hsafe, -⟩ := hnormal
  simp only [UnsafePath, not_or, not_lt] at hsafe
  exact (le_max_left _ _).trans hsafe.2.2.2.2.2.2.2

theorem foldlM_readBodyEntry (h : ∀ entry ∈ entries, entry.Storable u) :
    ∀ {read : List SubmissionArchiveEntry},
    ((read ++ entries).map (·.normalizedPath)).Nodup →
      (entries.map SubmissionArchiveEntry.body).foldlM (readBodyEntry u) read = .ok (read ++ entries) := by
  induction entries with
  | nil =>
    intro read _
    rw [List.append_nil]
    rfl
  | cons entry entries ih =>
    intro read hnodup
    obtain ⟨hentry, hentries⟩ := List.forall_mem_cons.mp h
    have hfresh : entry.normalizedPath ∉ read.map (·.normalizedPath) := by
      rw [List.map_append, List.nodup_append] at hnodup
      exact fun hmem => hnodup.2.2 _ hmem _ List.mem_cons_self rfl
    rw [List.map_cons, List.foldlM_cons, readBodyEntry_body hentry hfresh]
    have hrest := @ih hentries (read ++ [entry]) (by rwa [List.append_assoc, List.singleton_append])
    rw [List.append_assoc, List.singleton_append] at hrest
    exact hrest

theorem length_utf8_le_of_foldlM
    (hgood : ∀ entry ∈ entries, checkIdentity entry = .ok () ∧ entry.byteCount ≤ maximumManifestBytes) :
    ∀ {read after : List SubmissionArchiveEntry},
      (entries.map SubmissionArchiveEntry.body).foldlM (readBodyEntry u) read = .ok after →
      ∀ entry ∈ entries, (utf8 entry.normalizedPath).length ≤ 4096 := by
  induction entries with
  | nil => exact fun _ _ hentry => absurd hentry List.not_mem_nil
  | cons entry entries ih =>
    intro read after hrun
    obtain ⟨hentry, hentries⟩ := List.forall_mem_cons.mp hgood
    obtain ⟨next, hstep, hrest⟩ := bind_eq_ok.mp hrun
    exact List.forall_mem_cons.mpr
      ⟨length_utf8_le_of_readBodyEntry hentry.1 hentry.2 hstep, ih hentries hrest⟩

/-- What is known of the entries of an accepted archive. -/
structure Accepted (u : Unicode) (limits : SubmissionArchiveLimits) (infos : List ZipInfo)
    (entries : List SubmissionArchiveEntry) : Prop where
  inventory : validateSubmissionArchiveInventory u entries = .ok ()
  good : ∀ entry ∈ entries, entry.Good limits
  safe : ∀ entry ∈ entries,
    SafePath u limits.maximumPathBytes limits.maximumPathDepth entry.normalizedPath
  total : expandedBytes entries ≤ limits.maximumExpandedBytes
  count : entries.length = (infos.flatMap (ZipInfo.implied u)).dedup.length
  short : ∀ entry ∈ entries, ∃ info ∈ infos, entry.normalizedPath.toList <+: (info.normalPath u).toList
  listed : ∀ info ∈ infos, ∃ entry ∈ entries, entry.normalizedPath = info.normalPath u

theorem accepted_of_read {sha : Sha256} {limits : SubmissionArchiveLimits} {infos : List ZipInfo}
    (hread : readEntries u sha limits infos = .ok entries)
    (hvalid : validateSubmissionArchiveInventory u entries = .ok ()) :
    Accepted u limits infos entries := by
  obtain ⟨reading, rfl, h⟩ := readEntries_sound hread
  have hfolds := (checkInventory_eq_ok.mp hvalid).1
  refine ⟨hvalid, h.good, h.safe, h.total ▸ h.total_le, ?_, ?_, ?_⟩
  · have hperm : (reading.results.map (fun entry => u.fold entry.normalizedPath)).Perm
        (infos.flatMap (ZipInfo.implied u)).dedup := by
      rw [List.perm_ext_iff_of_nodup hfolds (List.nodup_dedup _)]
      intro k
      rw [List.mem_dedup, ← h.added k, h.folded k, List.mem_map]
    simpa using hperm.length_eq
  · intro entry hentry
    obtain ⟨source, hsrc, hstart⟩ := h.short entry hentry
    obtain ⟨info, hinfo, rfl⟩ := List.mem_map.mp hsrc
    exact ⟨info, hinfo, hstart⟩
  · exact fun info hinfo => h.listed _ (List.mem_map_of_mem hinfo)

variable {sha : Sha256} {limits : SubmissionArchiveLimits} {infos : List ZipInfo}
  {entries : List SubmissionArchiveEntry}

theorem Accepted.checkExport_eq (h : Accepted u limits infos entries)
    (hcount : entries.length ≤ limits.maximumEntries) :
    checkExport u limits (inspectionResult entries) = .ok () := by
  simp only [checkExport, inspectionResult, eq_ok, forM_eq_ok]
  refine ⟨(), validate_perm (sortEntries_perm entries) h.inventory, (), ?_,
    require_eq_ok.mpr ⟨hcount, h.total⟩⟩
  intro entry hentry
  have hmem := (sortEntries_perm entries).mem_iff.mp hentry
  exact ⟨_, (h.safe entry hmem).normalize_eq, rfl, (h.good entry hmem).bytes⟩

theorem Accepted.checkIntakeInventory_eq (h : Accepted u limits infos entries)
    (hcount : entries.length ≤ limits.maximumEntries) :
    checkIntakeInventory limits (sortEntries entries) = .ok () := by
  have hfiles : expandedBytes ((sortEntries entries).filter (fun entry => entry.entryType = .file)) ≤
      expandedBytes (sortEntries entries) :=
    (List.filter_sublist.map SubmissionArchiveEntry.byteCount).sum_le_sum (fun _ _ => Nat.zero_le _)
  rw [expandedBytes_sortEntries] at hfiles
  have htotal := h.total.trans limits.expansion
  simp only [checkIntakeInventory, eq_ok, (sortEntries_perm entries).length_eq]
  exact ⟨(), hcount, (), by omega, hfiles.trans htotal⟩

/-- The manifest that is built from the entries. -/
def manifestOf (sha : Sha256) (entries : List SubmissionArchiveEntry) : SubmissionManifest where
  sha256 := sha.canonicalJsonHash (manifestBody (sortEntries entries))
  entries := sortEntries entries
  entryCount := entries.length
  fileCount := countFiles entries
  directoryCount := entries.length - countFiles entries
  totalExpandedBytes := expandedBytes entries

theorem checkIdentity_file (h : checkIdentity entry = .ok ()) (hfile : entry.entryType = .file) :
    entry.sha256 ≠ none ∧ entry.executable ≠ none := by
  simp only [checkIdentity, hfile, eq_ok] at h
  obtain ⟨⟨⟩, hexecutable, digest, hdig, -⟩ := h
  exact ⟨by rw [hdig]; exact Option.some_ne_none _, hexecutable⟩

theorem Accepted.check_manifestOf (h : Accepted u limits infos entries) (sha : Sha256) :
    (manifestOf sha entries).check u sha = .ok () := by
  simp only [SubmissionManifest.check, eq_ok, forM_eq_ok, validateSha256]
  refine ⟨(), sortEntries_sortEntries entries, (), ?_, (),
    validate_perm (sortEntries_perm entries) h.inventory, (), ⟨?_, ?_, ?_, ?_⟩, (), ?_, rfl⟩
  · exact fun entry hentry => (h.good entry ((sortEntries_perm entries).mem_iff.mp hentry)).identity
  · exact (sortEntries_perm entries).length_eq.symm
  · exact (countFiles_sortEntries entries).symm
  · rw [manifestOf, countFiles_sortEntries, (sortEntries_perm entries).length_eq]
  · exact (expandedBytes_sortEntries entries).symm
  · exact sha.isDigest_digest _

theorem Accepted.buildSubmissionManifest_eq (h : Accepted u limits infos entries) (sha : Sha256) :
    buildSubmissionManifest u sha (inspectionResult entries) = .ok (manifestOf sha entries) := by
  have hfiles : ∀ entry ∈ sortEntries entries, entry.entryType = .file →
      entry.sha256 ≠ none ∧ entry.executable ≠ none := fun entry hentry =>
    checkIdentity_file (h.good entry ((sortEntries_perm entries).mem_iff.mp hentry)).identity
  simp only [buildSubmissionManifest, inspectionResult, sortEntries_sortEntries, eq_ok]
  exact ⟨(), hfiles, (), h.check_manifestOf sha, rfl⟩

theorem Accepted.bytes_le (h : Accepted u limits infos entries) (hentry : entry ∈ entries) :
    entry.byteCount ≤ maximumManifestBytes :=
  ((h.good entry hentry).bytes.trans limits.entryWithinTotal).trans limits.expansion

theorem fromDict_manifestBody (sha256 : String) (manifest : SubmissionManifest)
    (listed : List SubmissionArchiveEntry) :
    SubmissionManifest.fromDict u sha (manifestBody listed) sha256 = .ok manifest ↔
      listed.length ≤ 100000 ∧ ∃ read, (listed.map SubmissionArchiveEntry.body).foldlM
        (readBodyEntry u) [] = .ok read ∧ expandedBytes read ≤ maximumManifestBytes ∧
        manifest = ⟨sha256, read, read.length, countFiles read, read.length - countFiles read,
          expandedBytes read⟩ ∧ manifest.check u sha = .ok () := by
  have hfields : hasFields [("schema_version", Json.str submissionManifestSchemaVersion),
      ("entries", Json.arr (listed.map SubmissionArchiveEntry.body))] ["schema_version", "entries"] :=
    ⟨by simp, by simp⟩
  have hentries : List.lookup "entries" [("schema_version", Json.str submissionManifestSchemaVersion),
      ("entries", Json.arr (listed.map SubmissionArchiveEntry.body))] =
      some (Json.arr (listed.map SubmissionArchiveEntry.body)) := rfl
  have hver : List.lookup "schema_version"
      [("schema_version", Json.str submissionManifestSchemaVersion),
        ("entries", Json.arr (listed.map SubmissionArchiveEntry.body))] =
      some (Json.str submissionManifestSchemaVersion) := rfl
  simp only [SubmissionManifest.fromDict, manifestBody, hentries, hver, eq_ok, List.length_map,
    hfields, true_and]
  constructor
  · rintro ⟨⟨⟩, hlen, read, hread, ⟨⟩, hbytes, ⟨⟩, hcheck, rfl⟩
    exact ⟨hlen, read, hread, hbytes, rfl, hcheck⟩
  · rintro ⟨hlen, read, hread, hbytes, rfl, hcheck⟩
    exact ⟨(), hlen, read, hread, (), hbytes, (), hcheck, rfl⟩

theorem nodup_paths (h : Accepted u limits infos entries) :
    ((sortEntries entries).map (·.normalizedPath)).Nodup := by
  have hfolds := (checkInventory_eq_ok.mp h.inventory).1
  rw [((sortEntries_perm entries).map _).nodup_iff]
  refine List.Nodup.of_map u.fold ?_
  rw [List.map_map]
  exact hfolds

theorem Accepted.fromDict_eq (h : Accepted u limits infos entries) (sha : Sha256)
    (hcount : entries.length ≤ limits.maximumEntries)
    (hshort : ∀ info ∈ infos, (utf8 (info.normalPath u)).length ≤ 4096) :
    SubmissionManifest.fromDict u sha (manifestOf sha entries).asDict (manifestOf sha entries).sha256 =
      .ok (manifestOf sha entries) := by
  have hperm := sortEntries_perm entries
  rw [SubmissionManifest.asDict, fromDict_manifestBody]
  have hstorable : ∀ entry ∈ sortEntries entries, entry.Storable u := by
    intro entry hentry
    have hmem := hperm.mem_iff.mp hentry
    obtain ⟨info, hinfo, hstart⟩ := h.short entry hmem
    have hsafe := h.safe entry hmem
    exact ⟨(h.good entry hmem).identity, h.bytes_le hmem,
      { hsafe with
        depth_le := hsafe.depth_le.trans limits.inventory.2
        bytes_le := (length_utf8_le_of_start hstart).trans (hshort info hinfo) }⟩
  refine ⟨?_, sortEntries entries, ?_, ?_, ?_, h.check_manifestOf sha⟩
  · exact hperm.length_eq.le.trans (hcount.trans limits.inventory.1)
  · exact foldlM_readBodyEntry hstorable (nodup_paths h)
  · rw [expandedBytes_sortEntries]
    exact h.total.trans limits.expansion
  · rw [hperm.length_eq, countFiles_sortEntries, expandedBytes_sortEntries]
    rfl

theorem Accepted.short_of_fromDict (h : Accepted u limits infos entries)
    {manifest : SubmissionManifest}
    (hread : SubmissionManifest.fromDict u sha (manifestOf sha entries).asDict
      (manifestOf sha entries).sha256 = .ok manifest) :
    ∀ info ∈ infos, (utf8 (info.normalPath u)).length ≤ 4096 := by
  obtain ⟨-, read, hfold, -⟩ := (fromDict_manifestBody _ _ _).mp hread
  intro info hinfo
  obtain ⟨entry, hentry, hpath⟩ := h.listed info hinfo
  rw [← hpath]
  refine length_utf8_le_of_foldlM (fun e he => ?_) hfold entry
    ((sortEntries_perm entries).mem_iff.mpr hentry)
  have hmem := (sortEntries_perm entries).mem_iff.mp he
  exact ⟨(h.good e hmem).identity, h.bytes_le hmem⟩

/-- What the rest of intake asks of an inspection: the three bounds, the inventory check of the
trusted intake session, the checks of the export, and a manifest that is recovered from its body. -/
structure Survives (u : Unicode) (sha : Sha256) (limits : SubmissionArchiveLimits)
    (result : SubmissionArchiveInspectionResult) : Prop where
  entries : result.entries.length ≤ limits.maximumEntries
  total : result.totalExpandedBytes ≤ limits.maximumExpandedBytes
  files : ∀ entry ∈ result.entries, entry.byteCount ≤ limits.maximumEntryBytes
  session : checkIntakeInventory limits result.entries = .ok ()
  exported : checkExport u limits result = .ok ()
  manifest : ∃ manifest, buildSubmissionManifest u sha result = .ok manifest ∧
    SubmissionManifest.fromDict u sha manifest.asDict manifest.sha256 = .ok manifest

/-- The byte bounds hold for every accepted archive. It survives the rest of intake exactly when
its records and the directories they imply have at most `maximumEntries` paths, and no path of a
record is longer than a stored manifest allows. -/
theorem accepted_survives_iff (u : Unicode) (sha : Sha256) (limits : SubmissionArchiveLimits)
    (infos : List ZipInfo) (entries : List SubmissionArchiveEntry)
    (hread : readEntries u sha limits infos = .ok entries)
    (hvalid : validateSubmissionArchiveInventory u entries = .ok ()) :
    (inspectionResult entries).totalExpandedBytes ≤ limits.maximumExpandedBytes ∧
      (∀ entry ∈ (inspectionResult entries).entries, entry.byteCount ≤ limits.maximumEntryBytes) ∧
      (Survives u sha limits (inspectionResult entries) ↔
        (infos.flatMap (ZipInfo.implied u)).dedup.length ≤ limits.maximumEntries ∧
          ∀ info ∈ infos, (utf8 (info.normalPath u)).length ≤ 4096) := by
  have h := accepted_of_read hread hvalid
  have hfiles : ∀ entry ∈ (inspectionResult entries).entries,
      entry.byteCount ≤ limits.maximumEntryBytes := fun entry hentry =>
    (h.good entry ((sortEntries_perm entries).mem_iff.mp hentry)).bytes
  refine ⟨h.total, hfiles, fun hsurvives => ⟨?_, ?_⟩, ?_⟩
  · rw [← h.count, ← (sortEntries_perm entries).length_eq]
    exact hsurvives.entries
  · obtain ⟨manifest, hbuild, hstored⟩ := hsurvives.manifest
    obtain rfl := Except.ok.inj ((h.buildSubmissionManifest_eq sha).symm.trans hbuild)
    exact h.short_of_fromDict hstored
  · rintro ⟨hcount, hshort⟩
    rw [← h.count] at hcount
    exact {
      entries := (sortEntries_perm entries).length_eq.le.trans hcount
      total := h.total
      files := hfiles
      session := h.checkIntakeInventory_eq hcount
      exported := h.checkExport_eq hcount
      manifest := ⟨_, h.buildSubmissionManifest_eq sha, h.fromDict_eq sha hcount hshort⟩ }

/-- Paths of plain letters, which normalization leaves alone. -/
def plainUnicode : Unicode where
  nfc := id
  casefold := id
  nfc_nfc := fun _ => rfl
  splitPath_nfc := fun s => (List.map_id (splitPath s)).symm
  nfc_ne_empty := fun _ h => h
  mem_nfc := fun _ _ _ h => h
  getLast_nfc := fun _ _ _ h => h

def zeroSha : Sha256 where
  hexdigest := fun _ => String.ofList (List.replicate 64 '0')
  isHex := fun _ => by
    rw [String.toList_ofList]
    exact ⟨List.length_replicate, by decide⟩

def twoEntryLimits : SubmissionArchiveLimits where
  maximumEntries := 2
  maximumPathBytes := 1024
  maximumPathDepth := 32
  maximumCentralDirectoryBytes := 1024
  maximumEntryBytes := 1024
  maximumExpandedBytes := 1024
  maximumCompressionRatio := 100
  positive := by decide
  inventory := by decide
  expansion := by decide
  entryWithinTotal := by decide

/-- An empty stored file. -/
def emptyFile (filename : String) : ZipInfo where
  filename := filename
  fileSize := 0
  compressSize := 0
  compressType := 0
  externalAttr := 0
  flagBits := 0
  createSystem := 0
  inflated := []
  streamEnds := true
  chunks := []
  readFails := false

def twoFileZip : OuterZip where
  signature := [80, 75, 3, 4]
  layoutEntryCount := 2
  layoutDirectoryBytes := 100
  infos := [emptyFile "a/b", emptyFile "c"]
  coverage := .ok ()

def zeroEntry (path : String) : SubmissionArchiveEntry :=
  ⟨path, .file, 0, some (zeroSha.digest []), some false⟩

/-- Inspection accepts two records under a limit of two entries and lists three; the trusted intake
session and the export then refuse them. -/
theorem twoFileZip_refused :
    inspect plainUnicode zeroSha twoEntryLimits twoFileZip =
        .ok (inspectionResult [implicitDirectory "a", zeroEntry "a/b", zeroEntry "c"]) ∧
      checkIntakeInventory twoEntryLimits
        (inspectionResult [implicitDirectory "a", zeroEntry "a/b", zeroEntry "c"]).entries =
        .error "intake inventory unbounded" ∧
      checkExport plainUnicode twoEntryLimits
        (inspectionResult [implicitDirectory "a", zeroEntry "a/b", zeroEntry "c"]) =
        .error (.rejected .limitExceeded) := by
  refine ⟨?_, ?_, ?_⟩ <;> decide +kernel

/-- A file in a directory without a record, a directory with one, and an empty file. -/
def mixedInfos : List ZipInfo :=
  [{ emptyFile "a/b" with
      fileSize := 3, compressSize := 3, inflated := [1, 2], chunks := [[104], [105, 33]] },
    emptyFile "a/c/", emptyFile "d"]

def mixedEntries : List SubmissionArchiveEntry :=
  [implicitDirectory "a", { zeroEntry "a/b" with byteCount := 3 }, ⟨"a/c", .directory, 0, none, none⟩,
    zeroEntry "d"]

theorem accepted_survives_iff_mixedInfos :
    Survives plainUnicode zeroSha { twoEntryLimits with
        maximumEntries := 4, positive := by decide, inventory := by decide }
      (inspectionResult mixedEntries) :=
  (accepted_survives_iff plainUnicode zeroSha _ mixedInfos mixedEntries (by decide +kernel)
    (by decide +kernel)).2.2.mpr ⟨by decide +kernel, by decide +kernel⟩

end Workstream.Artifacts
