import Workstream.Artifacts.SubmissionManifest

/-! # What the loop over a central directory keeps -/

namespace Workstream.Artifacts
open Foundation

/-- A path that `normalizeSubmissionArchivePath` returns as it is. -/
structure SafePath (u : Unicode) (bytes depth : ℕ) (path : String) : Prop where
  backslash : '\\' ∉ path.toList
  control : ∀ c ∈ path.toList, ¬(c.toNat < 32 ∨ c.toNat = 127)
  parts : ∀ part ∈ splitPath path, part ≠ "" ∧ endsIn part ' ' = false ∧ endsIn part '.' = false
  colon : ∀ part ∈ (splitPath path).head?, ':' ∉ part.toList
  depth_le : (splitPath path).length ≤ depth
  bytes_le : (utf8 path).length ≤ bytes
  nfc_eq : u.nfc path = path

variable {u : Unicode} {bytes depth : ℕ} {path part : String}

theorem not_dots_of_endsIn (h : endsIn part '.' = false) : part ≠ "." ∧ part ≠ ".." := by
  constructor
  · rintro rfl
    exact absurd h (by decide)
  · rintro rfl
    exact absurd h (by decide)

theorem head_ne_slash (h : ∀ part ∈ splitPath path, part ≠ "") : path.toList.head? ≠ some '/' := by
  intro hhead
  obtain ⟨rest, hrest⟩ : ∃ rest, path.toList = '/' :: rest := by
    cases hlist : path.toList with
    | nil => rw [hlist] at hhead; cases hhead
    | cons c rest => rw [hlist] at hhead; exact ⟨rest, by rw [Option.some.inj hhead]⟩
  refine h "" ?_ rfl
  rw [splitPath, hrest, List.splitOn, List.splitOnP_cons_eq_if_modifyHead]
  simp

theorem SafePath.not_unsafe (h : SafePath u bytes depth path) : ¬UnsafePath u bytes depth path := by
  have hne : ∀ part ∈ splitPath path, part ≠ "" := fun part hpart => (h.parts part hpart).1
  rintro (hempty | hback | hhead | ⟨c, hc, hctrl⟩ | ⟨part, hpart, hbad⟩ | ⟨part, hpart, hcolon⟩ |
    hdepth | hbytes)
  · refine hne "" ?_ rfl
    rw [hempty]
    decide
  · exact h.backslash hback
  · exact head_ne_slash hne hhead
  · exact h.control c hc hctrl
  · obtain ⟨hnonempty, hblank, hstop⟩ := h.parts part hpart
    obtain ⟨hdot, hdots⟩ := not_dots_of_endsIn hstop
    rcases hbad with hbad | hbad | hbad | hbad | hbad
    · exact hnonempty hbad
    · exact hdot hbad
    · exact hdots hbad
    · exact absurd hbad (by rw [hblank]; exact Bool.false_ne_true)
    · exact absurd hbad (by rw [hstop]; exact Bool.false_ne_true)
  · exact h.colon part hpart hcolon
  · exact absurd h.depth_le (by omega)
  · rw [h.nfc_eq, max_self] at hbytes
    exact absurd h.bytes_le (by omega)

theorem endsIn_nfc {c : Char} (hc : c = ' ' ∨ c = '.') (h : endsIn part c = false) :
    endsIn (u.nfc part) c = false := by
  rw [endsIn, beq_eq_false_iff_ne] at h ⊢
  exact fun hlast => h (u.getLast_nfc part c hc hlast)

theorem safePath_nfc (h : ¬UnsafePath u bytes depth path) : SafePath u bytes depth (u.nfc path) := by
  simp only [UnsafePath, not_or, not_exists, not_and, not_lt, Bool.not_eq_true] at h
  obtain ⟨-, hback, -, hcontrol, hparts, hcolon, hdepth, hbytes⟩ := h
  refine ⟨?_, ?_, ?_, ?_, ?_, ?_, u.nfc_nfc path⟩
  · exact fun hmem => hback (u.mem_nfc path _ (.inl rfl) hmem)
  · intro c hc hctrl
    have hmem := u.mem_nfc path c (.inr (.inr hctrl)) hc
    rcases hctrl with hlow | hdel
    · exact absurd hlow (by have := (hcontrol c hmem).1; omega)
    · exact (hcontrol c hmem).2 hdel
  · intro part hpart
    rw [u.splitPath_nfc] at hpart
    obtain ⟨raw, hraw, rfl⟩ := List.mem_map.mp hpart
    obtain ⟨hne, -, -, hblank, hstop⟩ := hparts raw hraw
    exact ⟨u.nfc_ne_empty raw hne, endsIn_nfc (.inl rfl) hblank, endsIn_nfc (.inr rfl) hstop⟩
  · intro part hpart
    rw [u.splitPath_nfc, List.head?_map] at hpart
    obtain ⟨raw, hraw, rfl⟩ := Option.map_eq_some_iff.mp hpart
    exact fun hmem => hcolon raw hraw (u.mem_nfc raw _ (.inr (.inl rfl)) hmem)
  · rw [u.splitPath_nfc, List.length_map]
    exact hdepth
  · exact (le_max_right _ _).trans hbytes

theorem SafePath.take (h : SafePath u bytes depth path) {n : ℕ} (hn : 1 ≤ n) :
    SafePath u bytes depth (joinPath ((splitPath path).take n)) := by
  have hstart := toList_take_prefix path n
  have hsplit : splitPath (joinPath ((splitPath path).take n)) = (splitPath path).take n :=
    splitPath_take hn
  refine ⟨?_, ?_, ?_, ?_, ?_, ?_, u.nfc_take h.nfc_eq hn⟩
  · exact fun hmem => h.backslash (hstart.subset hmem)
  · exact fun c hc => h.control c (hstart.subset hc)
  · rw [hsplit]
    exact fun part hpart => h.parts part (List.mem_of_mem_take hpart)
  · rw [hsplit, List.head?_take, if_neg (by omega)]
    exact h.colon
  · rw [hsplit]
    exact (List.length_take_le' _ _).trans h.depth_le
  · exact (length_utf8_le_of_start hstart).trans h.bytes_le

theorem SafePath.normalize_eq (h : SafePath u bytes depth path) :
    normalizeSubmissionArchivePath u bytes depth path = .ok path := by
  rw [normalizeSubmissionArchivePath, require, if_pos h.not_unsafe, h.nfc_eq]
  rfl

theorem posixParts_eq (h : SafePath u bytes depth path) : posixParts path = splitPath path := by
  rw [posixParts, List.filter_eq_self]
  intro part hpart
  obtain ⟨hne, -, hstop⟩ := h.parts part hpart
  simpa using ⟨hne, (not_dots_of_endsIn hstop).1⟩

structure SubmissionArchiveEntry.Good (limits : SubmissionArchiveLimits)
    (entry : SubmissionArchiveEntry) : Prop where
  bytes : entry.byteCount ≤ limits.maximumEntryBytes
  identity : checkIdentity entry = .ok ()

theorem Sha256.isDigest_digest (sha : Sha256) (content : List ℕ) : isDigest (sha.digest content) = true := by
  obtain ⟨hlen, hhex⟩ := sha.isHex content
  rw [isDigest, Sha256.digest, String.toList_append, dropWord_append]
  simp [hlen, hhex]

theorem good_implicitDirectory (limits : SubmissionArchiveLimits) (path : String) :
    (implicitDirectory path).Good limits := ⟨Nat.zero_le _, rfl⟩

theorem readPieces_le {maximum : ℕ} {sizes : List ℕ} : ∀ {actual n : ℕ},
    readPieces maximum actual sizes = .ok n → actual ≤ maximum → n ≤ maximum := by
  induction sizes with
  | nil =>
    intro actual n h hle
    obtain rfl := Except.ok.inj h
    exact hle
  | cons size sizes ih =>
    intro actual n h hle
    obtain ⟨⟨⟩, hcheck, hrest⟩ := bind_eq_ok.mp h
    exact ih hrest (require_eq_ok.mp hcheck)

variable {sha : Sha256} {limits : SubmissionArchiveLimits} {info : ZipInfo}

theorem readMember_ok {remaining : ℕ} {read : ℕ × String}
    (h : readMember sha limits info remaining = .ok read) :
    read.1 ≤ limits.maximumEntryBytes ∧ isDigest read.2 = true := by
  simp only [readMember, eq_ok] at h
  obtain ⟨⟨⟩, -, ⟨⟩, -, ⟨⟩, -, actual, hactual, ⟨⟩, -, ⟨⟩, -, rfl⟩ := h
  exact ⟨(readPieces_le hactual (Nat.zero_le _)).trans (min_le_left _ _), sha.isDigest_digest _⟩

theorem readContent_ok {total : ℕ} {content : ℕ × Option String}
    (h : readContent sha limits info total = .ok content) :
    (⟨path, info.entryType, content.1, content.2,
      content.2.map (fun _ => normalizedExecutable info)⟩ : SubmissionArchiveEntry).Good limits := by
  unfold readContent at h
  cases htype : info.entryType with
  | file =>
    rw [htype] at h
    obtain ⟨read, hread, rfl⟩ := map_eq_ok.mp h
    obtain ⟨hbytes, hdig⟩ := readMember_ok hread
    refine ⟨hbytes, ?_⟩
    simp only [checkIdentity, eq_ok, validateSha256]
    exact ⟨(), (by simp), read.2, rfl, hdig⟩
  | directory =>
    rw [htype] at h
    obtain rfl := pure_eq_ok.mp h
    exact ⟨Nat.zero_le _, rfl⟩

theorem mem_keys_setPath (folded k : String) (kind : SubmissionArchiveEntryType)
    (paths : List (String × SubmissionArchiveEntryType)) :
    k ∈ (setPath folded kind paths).map Prod.fst ↔ k ∈ paths.map Prod.fst ∨ k = folded := by
  induction paths with
  | nil => simp [setPath]
  | cons p paths ih =>
    obtain ⟨key, old⟩ := p
    by_cases hkey : key = folded
    · rw [setPath, if_pos hkey, List.map_cons, List.map_cons, List.mem_cons, hkey]
      tauto
    · rw [setPath, if_neg hkey, List.map_cons, List.map_cons, List.mem_cons, List.mem_cons, ih]
      tauto

theorem nodup_keys_setPath (folded : String) (kind : SubmissionArchiveEntryType)
    {paths : List (String × SubmissionArchiveEntryType)} (h : (paths.map Prod.fst).Nodup) :
    ((setPath folded kind paths).map Prod.fst).Nodup := by
  induction paths with
  | nil => simp [setPath]
  | cons p paths ih =>
    obtain ⟨key, old⟩ := p
    rw [List.map_cons, List.nodup_cons] at h
    by_cases hkey : key = folded
    · rw [setPath, if_pos hkey, List.map_cons, List.nodup_cons]
      exact h
    · rw [setPath, if_neg hkey, List.map_cons, List.nodup_cons, mem_keys_setPath, not_or]
      exact ⟨⟨h.1, hkey⟩, ih h.2⟩

/-- What the loop keeps. `sources` are the paths begun, `done` those finished and `added` the folded
paths met so far. -/
structure Reading.Sound (u : Unicode) (limits : SubmissionArchiveLimits)
    (sources done added : List String) (reading : Reading) : Prop where
  nodup : (reading.paths.map Prod.fst).Nodup
  folded : ∀ k, k ∈ reading.paths.map Prod.fst ↔
    ∃ entry ∈ reading.results, u.fold entry.normalizedPath = k
  added : ∀ k, k ∈ reading.paths.map Prod.fst ↔ k ∈ added
  total : reading.total = expandedBytes reading.results
  total_le : reading.total ≤ limits.maximumExpandedBytes
  good : ∀ entry ∈ reading.results, entry.Good limits
  safe : ∀ entry ∈ reading.results,
    SafePath u limits.maximumPathBytes limits.maximumPathDepth entry.normalizedPath
  short : ∀ entry ∈ reading.results, ∃ path ∈ sources, entry.normalizedPath.toList <+: path.toList
  listed : ∀ path ∈ done, ∃ entry ∈ reading.results, entry.normalizedPath = path

theorem Reading.sound_initial (limits : SubmissionArchiveLimits) :
    Reading.initial.Sound u limits [] [] [] where
  nodup := List.nodup_nil
  folded := by simp [Reading.initial]
  added := by simp [Reading.initial]
  total := rfl
  total_le := Nat.zero_le _
  good := by simp [Reading.initial]
  safe := by simp [Reading.initial]
  short := by simp [Reading.initial]
  listed := by simp

variable {limits : SubmissionArchiveLimits} {sources done added : List String} {reading after : Reading}

theorem expandedBytes_append (entries : List SubmissionArchiveEntry) (entry : SubmissionArchiveEntry) :
    expandedBytes (entries ++ [entry]) = expandedBytes entries + entry.byteCount := by
  simp [expandedBytes]

theorem Reading.Sound.begin (h : reading.Sound u limits sources done added) (path : String) :
    reading.Sound u limits (sources ++ [path]) done added :=
  { h with
    short := fun entry hentry => by
      obtain ⟨source, hsrc, hstart⟩ := h.short entry hentry
      exact ⟨source, List.mem_append_left _ hsrc, hstart⟩ }

theorem Reading.Sound.addAncestor (h : reading.Sound u limits sources done added)
    (hsafe : SafePath u limits.maximumPathBytes limits.maximumPathDepth path)
    (hshort : ∃ source ∈ sources, path.toList <+: source.toList)
    (hstep : addAncestor u limits reading path = .ok after) :
    after.Sound u limits sources done (added ++ [u.fold path]) := by
  simp only [Artifacts.addAncestor, eq_ok] at hstep
  obtain ⟨⟨⟩, -, hstep⟩ := hstep
  split at hstep
  · rename_i hmem
    obtain rfl := pure_eq_ok.mp hstep
    refine { h with added := fun k => ?_ }
    rw [List.mem_append, List.mem_singleton, ← h.added k]
    exact ⟨.inl, fun hk => hk.elim id (fun heq => heq ▸ hmem)⟩
  · rename_i hmem
    simp only [eq_ok] at hstep
    obtain ⟨⟨⟩, -, rfl⟩ := hstep
    have hresults : ∀ {p : SubmissionArchiveEntry → Prop}, (∀ e ∈ reading.results, p e) →
        p (implicitDirectory path) → ∀ e ∈ reading.results ++ [implicitDirectory path], p e := by
      intro p hold hnew
      exact List.forall_mem_append.mpr ⟨hold, List.forall_mem_singleton.mpr hnew⟩
    constructor
    · rw [List.map_append, List.nodup_append]
      refine ⟨h.nodup, List.nodup_singleton _, fun a ha b hb => ?_⟩
      have hfold : b = u.fold path := List.mem_singleton.mp hb
      rintro rfl
      exact hmem (hfold ▸ ha)
    · intro k
      simp only [List.map_append, List.mem_append, h.folded k, List.map_singleton, List.mem_singleton,
        or_and_right, exists_or, exists_eq_left, implicitDirectory, eq_comm]
    · intro k
      simp only [List.map_append, List.mem_append, h.added k, List.map_singleton, List.mem_singleton]
    · rw [expandedBytes_append]
      exact h.total
    · exact h.total_le
    · exact hresults h.good (good_implicitDirectory limits path)
    · exact hresults h.safe hsafe
    · exact hresults h.short hshort
    · intro p hp
      obtain ⟨e, he, heq⟩ := h.listed p hp
      exact ⟨e, List.mem_append_left _ he, heq⟩

theorem Reading.Sound.addAncestors {paths : List String} :
    ∀ {added : List String} {reading : Reading}, reading.Sound u limits sources done added →
      (∀ path ∈ paths, SafePath u limits.maximumPathBytes limits.maximumPathDepth path) →
      (∀ path ∈ paths, ∃ source ∈ sources, path.toList <+: source.toList) →
      paths.foldlM (Artifacts.addAncestor u limits) reading = .ok after →
      after.Sound u limits sources done (added ++ paths.map u.fold) := by
  induction paths with
  | nil =>
    intro added reading h _ _ hrun
    obtain rfl := pure_eq_ok.mp hrun
    simpa using h
  | cons path paths ih =>
    intro added reading h hsafe hshort hrun
    obtain ⟨next, hstep, hrest⟩ := bind_eq_ok.mp hrun
    rw [List.forall_mem_cons] at hsafe hshort
    have hnext := ih (h.addAncestor hsafe.1 hshort.1 hstep) hsafe.2 hshort.2 hrest
    rwa [List.append_assoc, List.singleton_append] at hnext

theorem Reading.Sound.addEntry {foldeds : List String}
    (h : reading.Sound u limits sources done added)
    (hsafe : SafePath u limits.maximumPathBytes limits.maximumPathDepth path)
    (hsrc : path ∈ sources) (hstep : addEntry sha limits info path { reading with
      paths := setPath (u.fold path) info.entryType reading.paths
      sourcePaths := foldeds } = .ok after) :
    after.Sound u limits sources (done ++ [path]) (added ++ [u.fold path]) := by
  have hnodup := nodup_keys_setPath (u.fold path) info.entryType h.nodup
  have hadded : ∀ k, k ∈ (setPath (u.fold path) info.entryType reading.paths).map Prod.fst ↔
      k ∈ added ++ [u.fold path] := by
    intro k
    rw [mem_keys_setPath, h.added k, List.mem_append, List.mem_singleton]
  unfold Artifacts.addEntry at hstep
  split at hstep
  · rename_i hlisted
    obtain rfl := pure_eq_ok.mp hstep
    obtain ⟨-, entry, hentry, hpath⟩ := hlisted
    refine { h with nodup := hnodup, folded := fun k => ?_, added := hadded, listed := ?_ }
    · rw [mem_keys_setPath, h.folded k]
      exact ⟨fun hk => hk.elim id (fun heq => ⟨entry, hentry, by rw [hpath, heq]⟩), .inl⟩
    · exact List.forall_mem_append.mpr ⟨h.listed, List.forall_mem_singleton.mpr ⟨entry, hentry, hpath⟩⟩
  · simp only [eq_ok] at hstep
    obtain ⟨content, hcont, ⟨⟩, htotal, rfl⟩ := hstep
    have hgood : (⟨path, info.entryType, content.1, content.2,
        content.2.map (fun _ => normalizedExecutable info)⟩ : SubmissionArchiveEntry).Good limits :=
      readContent_ok hcont
    constructor
    · exact hnodup
    · intro k
      rw [mem_keys_setPath, h.folded k]
      simp only [List.mem_append, List.mem_singleton, or_and_right, exists_or, exists_eq_left,
        eq_comm (a := u.fold path)]
    · exact hadded
    · rw [expandedBytes_append, ← h.total]
    · exact htotal
    · exact List.forall_mem_append.mpr ⟨h.good, List.forall_mem_singleton.mpr hgood⟩
    · exact List.forall_mem_append.mpr ⟨h.safe, List.forall_mem_singleton.mpr hsafe⟩
    · exact List.forall_mem_append.mpr
        ⟨h.short, List.forall_mem_singleton.mpr ⟨path, hsrc, List.prefix_rfl⟩⟩
    · refine List.forall_mem_append.mpr ⟨fun p hp => ?_, List.forall_mem_singleton.mpr ?_⟩
      · obtain ⟨entry, hentry, heq⟩ := h.listed p hp
        exact ⟨entry, List.mem_append_left _ hentry, heq⟩
      · exact ⟨_, List.mem_concat_self, rfl⟩

/-- The path of a record, as it is kept. -/
def ZipInfo.normalPath (u : Unicode) (info : ZipInfo) : String := u.nfc info.rawPath

/-- The folded paths a record adds: its ancestors and itself. -/
def ZipInfo.implied (u : Unicode) (info : ZipInfo) : List String :=
  (ancestors (splitPath (info.normalPath u)) ++ [info.normalPath u]).map u.fold

theorem validatedPath_ok (h : validatedPath u limits info = .ok path) :
    path = info.normalPath u ∧ SafePath u limits.maximumPathBytes limits.maximumPathDepth path := by
  simp only [validatedPath, normalizeSubmissionArchivePath, eq_ok] at h
  obtain ⟨⟨⟩, -, normalized, ⟨⟨⟩, hsafe, rfl⟩, ⟨⟩, -, ⟨⟩, -, ⟨⟩, -, rfl⟩ := h
  exact ⟨rfl, safePath_nfc hsafe⟩

theorem Reading.Sound.readEntry (h : reading.Sound u limits sources sources added)
    (hstep : readEntry u sha limits reading info = .ok after) :
    after.Sound u limits (sources ++ [info.normalPath u]) (sources ++ [info.normalPath u])
      (added ++ info.implied u) := by
  simp only [Artifacts.readEntry, eq_ok] at hstep
  obtain ⟨path, hpath, ⟨⟩, -, between, hancestors, ⟨⟩, -, hentry⟩ := hstep
  obtain ⟨rfl, hsafe⟩ := validatedPath_ok hpath
  rw [posixParts_eq hsafe] at hancestors
  have hbetween := (h.begin (info.normalPath u)).addAncestors ?_ ?_ hancestors
  · have hafter := hbetween.addEntry hsafe List.mem_concat_self hentry
    rw [ZipInfo.implied, List.map_append, ← List.append_assoc]
    exact hafter
  · intro path hmem
    obtain ⟨n, hn, -, rfl⟩ := mem_ancestors.mp hmem
    exact hsafe.take hn
  · intro path hmem
    obtain ⟨n, -, -, rfl⟩ := mem_ancestors.mp hmem
    exact ⟨_, List.mem_concat_self, toList_take_prefix _ n⟩

variable {infos : List ZipInfo}

theorem Reading.Sound.readEntries :
    ∀ {sources added : List String} {reading : Reading}, reading.Sound u limits sources sources added →
      infos.foldlM (Artifacts.readEntry u sha limits) reading = .ok after →
      after.Sound u limits (sources ++ infos.map (ZipInfo.normalPath u))
        (sources ++ infos.map (ZipInfo.normalPath u))
        (added ++ infos.flatMap (ZipInfo.implied u)) := by
  induction infos with
  | nil =>
    intro sources added reading h hrun
    obtain rfl := pure_eq_ok.mp hrun
    simpa using h
  | cons info infos ih =>
    intro sources added reading h hrun
    obtain ⟨next, hstep, hrest⟩ := bind_eq_ok.mp hrun
    have hnext := ih (h.readEntry hstep) hrest
    rwa [List.append_assoc, List.append_assoc, List.singleton_append] at hnext

theorem readEntries_sound {entries : List SubmissionArchiveEntry}
    (h : readEntries u sha limits infos = .ok entries) :
    ∃ reading : Reading, reading.results = entries ∧
      reading.Sound u limits (infos.map (ZipInfo.normalPath u)) (infos.map (ZipInfo.normalPath u))
        (infos.flatMap (ZipInfo.implied u)) := by
  obtain ⟨reading, hrun, hresults⟩ := bind_eq_ok.mp h
  have hsound := (Reading.sound_initial (u := u) limits).readEntries hrun
  exact ⟨reading, pure_eq_ok.mp hresults, hsound⟩

end Workstream.Artifacts
