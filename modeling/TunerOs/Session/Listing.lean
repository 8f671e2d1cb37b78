-- SUMMARY: Listing the sessions that recorders completed: when the catalog lists them all, the newest first.
import TunerOs.Session.CreationTime
import TunerOs.Session.Readback
import Mathlib.Data.List.Perm.Basic
import Mathlib.Data.List.ReduceOption

/-!
# Listing sessions

`list` opens every session of its root and sorts their manifests by the texts of their
creation times. It lists the sessions from the newest to the oldest if all of them can
be opened and no second has both its start and a later time in it among their creation
times.
-/

namespace TunerOs

open Containers

namespace SessionRecorder

variable {sha256 : Bytes → Sha256Digest} {recorder left : SessionRecorder}
  {initial manifest : SessionManifest} {frames : List RawCanFrame} {faults : FileFaults}

/-- A `complete` that returns has published the session with the manifest it returns. -/
theorem Recorded.published_of_complete (h : recorder.Recorded initial frames)
    (hcomplete : recorder.complete sha256 faults = (.ok manifest, left)) :
    manifest = (initial.describing frames).completed (sha256 recorder.hashed) ∧
      left.directories.published = some ⟨writtenManifest manifest, some recorder.hashed⟩ := by
  cases hfinish : faults.finishFrames with
  | some length =>
    simp [SessionRecorder.complete, finishStream, h.recording, hfinish] at hcomplete
  | none =>
    cases hmanifest : faults.writeManifest with
    | some text =>
      simp [SessionRecorder.complete, finishStream, h.recording, hfinish, hmanifest] at hcomplete
    | none =>
      cases hpublish : faults.publish with
      | some text =>
        simp [SessionRecorder.complete, finishStream, h.recording, hfinish, hmanifest,
          hpublish] at hcomplete
      | none =>
        rw [h.complete hfinish hmanifest hpublish] at hcomplete
        cases hcomplete
        exact ⟨rfl, rfl⟩

end SessionRecorder

theorem SessionCatalog.canonicalId_eq_ok_iff {sessionId canonical : String} :
    canonicalId sessionId = .ok canonical ↔
      isCanonicalUuid sessionId = true ∧ canonical = sessionId := by
  unfold canonicalId
  by_cases hcanonical : isCanonicalUuid sessionId = true
  · rw [if_pos hcanonical, Except.ok.injEq, eq_comm]
    exact (and_iff_right hcanonical).symm
  · rw [if_neg hcanonical]
    split <;> simp only [hcanonical, false_and, reduceCtorEq, Bool.false_eq_true]

/-! ## The sessions of a root -/

/-- A session that a recorder was constructed for and, after some calls, completed. -/
structure CompletedSession (sha256 : Bytes → Sha256Digest) (authoritative : Sha256Digest) where
  arguments : RecorderArguments
  createdAt : AwareDateTime
  faults : FileFaults
  recorder : SessionRecorder
  made : List (RecorderCall × FileFaults)
  completeFaults : FileFaults
  manifest : SessionManifest
  left : SessionRecorder
  aware : arguments.createdAtUtc = .aware createdAt
  constructed : SessionRecorder.create authoritative arguments faults ⟨none, none⟩ = .ok recorder
  completed : (recorder.calls sha256 made).complete sha256 completeFaults = (.ok manifest, left)

namespace CompletedSession

variable {sha256 : Bytes → Sha256Digest} {authoritative : Sha256Digest}

def sessionId (session : CompletedSession sha256 authoritative) : String :=
  session.arguments.sessionId.text

/-- What the session has published, and the arguments and frames that it says it is from. -/
theorem published (session : CompletedSession sha256 authoritative) :
    ∃ reached initial frames,
      SessionRecorder.initialManifest authoritative session.arguments session.createdAt =
        .ok initial ∧
      SessionRecorder.Recorded reached initial frames ∧
      session.manifest = (initial.describing frames).completed (sha256 reached.hashed) ∧
      session.left.directories.published =
        some ⟨writtenManifest session.manifest, some reached.hashed⟩ := by
  obtain ⟨created, hcreated, hinitial, hrecorded⟩ := SessionRecorder.create_ok session.constructed
  obtain rfl := CreationTime.aware.inj (session.aware.symm.trans hcreated)
  have hcompleted := session.completed
  rcases hrecorded.run sha256 session.made with ⟨frames, hreached, -⟩ | ⟨ended, frames, -, hended⟩
  · obtain ⟨hmanifest, hpublished⟩ := hreached.published_of_complete hcompleted
    exact ⟨_, _, _, hinitial, hreached, hmanifest, hpublished⟩
  · -- a recorder that is closed cannot be completed
    simp [SessionRecorder.complete, SessionRecorder.recording, hended.closed] at hcompleted

/-- The directory that the session has published. -/
def directory (session : CompletedSession sha256 authoritative) : SessionDirectory :=
  session.left.directories.published.getD ⟨.missing, none⟩

theorem published_directory (session : CompletedSession sha256 authoritative) :
    session.left.directories.published = some session.directory := by
  obtain ⟨reached, initial, frames, -, -, -, hpublished⟩ := session.published
  rw [directory, hpublished, Option.getD_some]

theorem manifest_sessionId (session : CompletedSession sha256 authoritative) :
    session.manifest.sessionId = session.sessionId := by
  obtain ⟨reached, initial, frames, hinitial, -, hmanifest, -⟩ := session.published
  have hid := (SessionRecorder.initialManifest_identifies hinitial).1
  rw [hmanifest]
  exact hid

/-- The manifest has the text of the UTC time of the creation time. -/
theorem manifest_createdAtUtc (session : CompletedSession sha256 authoritative) :
    ∃ utc : UtcTime, utc.IsDate ∧ (utc.instant : ℤ) = session.createdAt.instant ∧
      session.manifest.createdAtUtc = utc.isoformat := by
  obtain ⟨reached, initial, frames, hinitial, -, hmanifest, -⟩ := session.published
  obtain ⟨-, utc, hutc, hcreated⟩ := SessionRecorder.initialManifest_identifies hinitial
  obtain ⟨hdate, hinstant⟩ := AwareDateTime.astimezone_spec hutc
  refine ⟨utc, hdate, hinstant, ?_⟩
  rw [hmanifest]
  exact hcreated

/-- A session that can be read back is listed with its manifest. -/
theorem listed_of_readable (session : CompletedSession sha256 authoritative)
    (hreadable : session.arguments.Readable authoritative) {directory : SessionDirectory}
    (hpublished : session.left.directories.published = some directory) :
    SessionCatalog.listed sha256 session.sessionId directory = .ok (some session.manifest) := by
  obtain ⟨reached, initial, frames, hinitial, hreached, hmanifest, hdirectory⟩ := session.published
  obtain rfl := Option.some.inj (hdirectory.symm.trans hpublished)
  have hopened := @SessionRecorder.Recorded.create sha256 _ _ _ hreached
    (SessionRecorder.readable_of_initialManifest hreadable hinitial)
  have hvalid := (@SessionRecorder.Recorded.describes sha256 _ _ _ hreached).reads.1
  have hcanonical : SessionCatalog.canonicalId session.sessionId = .ok session.sessionId :=
    SessionCatalog.canonicalId_eq_ok_iff.2 ⟨session.arguments.sessionId.isCanonicalUuid, rfl⟩
  rw [← hmanifest] at hopened hvalid
  have hidentified : SessionCatalog.validateManifestId ⟨session.manifest, some reached.hashed⟩
      session.sessionId = .ok () := if_neg (not_not.2 session.manifest_sessionId)
  simp only [SessionCatalog.listed, hcanonical, hopened, hvalid, hidentified, bind, Except.bind,
    pure, Except.pure]

/-- A session that is opened for the list was recorded with arguments that can be read back. -/
theorem readable_of_listed (session : CompletedSession sha256 authoritative)
    {directory : SessionDirectory} {listed : Option SessionManifest}
    (hpublished : session.left.directories.published = some directory)
    (h : SessionCatalog.listed sha256 session.sessionId directory = .ok listed) :
    session.arguments.Readable authoritative := by
  obtain ⟨reached, initial, frames, hinitial, -, hmanifest, hdirectory⟩ :=
    session.published
  obtain rfl := Option.some.inj (hdirectory.symm.trans hpublished)
  have hcanonical : SessionCatalog.canonicalId session.sessionId = .ok session.sessionId :=
    SessionCatalog.canonicalId_eq_ok_iff.2 ⟨session.arguments.sessionId.isCanonicalUuid, rfl⟩
  rw [SessionCatalog.listed, hcanonical] at h
  obtain ⟨reader, hopened, -⟩ := Fallible.bind_eq_ok.1 h
  rw [hmanifest] at hopened
  exact SessionRecorder.readable_of_create hinitial hopened

end CompletedSession

/-! ## The list -/

namespace SessionCatalog

/-- A manifest is listed under the ID that its directory has. -/
theorem listed_sessionId {sha256 : Bytes → Sha256Digest} {artifactId : String}
    {directory : SessionDirectory} {manifest : SessionManifest}
    (h : listed sha256 artifactId directory = .ok (some manifest)) :
    manifest.sessionId = artifactId ∧ isCanonicalUuid artifactId = true := by
  unfold listed at h
  split at h
  · cases h
  · rename_i canonical hcanonical
    obtain ⟨reader, -, h⟩ := Fallible.bind_eq_ok.1 h
    obtain ⟨_, -, h⟩ := Fallible.bind_eq_ok.1 h
    obtain ⟨_, hidentified, h⟩ := Fallible.bind_eq_ok.1 h
    cases h
    obtain ⟨hcanonicalId, rfl⟩ := canonicalId_eq_ok_iff.1 hcanonical
    unfold validateManifestId at hidentified
    split at hidentified
    · cases hidentified
    · rename_i hsame
      exact ⟨not_not.1 hsame, hcanonicalId⟩

theorem listed_of_not_canonical {sha256 : Bytes → Sha256Digest} {artifactId : String}
    (h : ¬ isCanonicalUuid artifactId = true) (directory : SessionDirectory) :
    listed sha256 artifactId directory = .ok none := by
  cases hcanonical : canonicalId artifactId with
  | error error => rw [listed, hcanonical]
  | ok canonical => exact absurd (canonicalId_eq_ok_iff.1 hcanonical).1 h

instance : Std.Total ListedBefore where
  total left right := by
    unfold ListedBefore
    rcases lt_trichotomy left.createdAtUtc right.createdAtUtc with hlt | heq | hgt
    · exact .inr (.inl hlt)
    · rcases le_total right.sessionId left.sessionId with hle | hle
      · exact .inl (.inr ⟨heq, hle⟩)
      · exact .inr (.inr ⟨heq.symm, hle⟩)
    · exact .inl (.inl hgt)

instance : IsTrans SessionManifest ListedBefore where
  trans first second third := by
    rintro (hfirst | ⟨hfirst, hid⟩) (hsecond | ⟨hsecond, hid'⟩)
    · exact .inl (hsecond.trans hfirst)
    · exact .inl (hsecond ▸ hfirst)
    · exact .inl (hfirst ▸ hsecond)
    · exact .inr ⟨hfirst.trans hsecond, hid'.trans hid⟩

/-- The manifests that are listed have the IDs of their directories, in the order of these. -/
theorem sessionIds_sublist {sha256 : Bytes → Sha256Digest}
    {artifacts : List (String × SessionDirectory)} {manifests : List (Option SessionManifest)}
    (h : List.Forall₂ (fun artifact manifest => listed sha256 artifact.1 artifact.2 = .ok manifest)
      artifacts manifests) :
    (manifests.reduceOption.map (·.sessionId)).Sublist (artifacts.map Prod.fst) := by
  induction h with
  | nil => exact List.Sublist.slnil
  | @cons artifact manifest _ _ hlisted _ ih =>
    cases manifest with
    | none => exact ih.cons artifact.1
    | some manifest =>
      have hid := (listed_sessionId hlisted).1
      rw [List.reduceOption_cons_of_some, List.map_cons, List.map_cons, hid]
      exact ih.cons_cons artifact.1

variable {sha256 : Bytes → Sha256Digest} {authoritative : Sha256Digest} {catalog : SessionCatalog}
  {sessions : List (CompletedSession sha256 authoritative)}

/-- The directories of the root that are named by an ID are the ones of these sessions. -/
def Holds (catalog : SessionCatalog) (sessions : List (CompletedSession sha256 authoritative)) :
    Prop :=
  ∀ sessionId, isCanonicalUuid sessionId = true → ∀ directory,
    catalog.artifacts.get? sessionId = some directory ↔
      ∃ session ∈ sessions, session.sessionId = sessionId ∧
        session.left.directories.published = some directory

/-- The directories in the order in which they are opened. -/
def inNameOrder (catalog : SessionCatalog) : List (String × SessionDirectory) :=
  catalog.artifacts.entries.insertionSort
    (fun left right => artifactName left.1 ≤ artifactName right.1)

theorem inNameOrder_perm (catalog : SessionCatalog) :
    catalog.inNameOrder.Perm catalog.artifacts.entries := List.perm_insertionSort _ _

theorem mem_inNameOrder {sessionId : String} {directory : SessionDirectory} :
    (sessionId, directory) ∈ catalog.inNameOrder ↔
      catalog.artifacts.get? sessionId = some directory :=
  catalog.inNameOrder_perm.mem_iff.trans Dict.mem_entries_iff

/-- The directory of each session is opened. -/
theorem Holds.directory_mem (hholds : catalog.Holds sessions)
    {session : CompletedSession sha256 authoritative} (hsession : session ∈ sessions) :
    (session.sessionId, session.directory) ∈ catalog.inNameOrder :=
  mem_inNameOrder.2 ((hholds _ session.arguments.sessionId.isCanonicalUuid _).2
    ⟨session, hsession, rfl, session.published_directory⟩)

theorem list_eq_ok_iff {result : List SessionManifest} :
    catalog.list sha256 = .ok result ↔
      ∃ manifests, catalog.inNameOrder.mapM (fun artifact => listed sha256 artifact.1 artifact.2) =
          .ok manifests ∧ manifests.reduceOption.insertionSort ListedBefore = result := by
  unfold SessionCatalog.list
  refine Fallible.bind_eq_ok.trans (exists_congr fun manifests => and_congr_right fun _ => ?_)
  exact ⟨fun h => Except.ok.inj h, fun h => congrArg Except.ok h⟩

/-- What is opened in a root of readable sessions: each of their directories, and those that are
passed over. -/
theorem exists_listed (hholds : catalog.Holds sessions)
    (hreadable : ∀ session ∈ sessions, session.arguments.Readable authoritative)
    {artifact : String × SessionDirectory} (hmem : artifact ∈ catalog.inNameOrder) :
    ∃ manifest, listed sha256 artifact.1 artifact.2 = .ok manifest := by
  by_cases hcanonical : isCanonicalUuid artifact.1 = true
  · obtain ⟨session, hsession, hid, hpublished⟩ :=
      (hholds _ hcanonical _).1 (mem_inNameOrder.1 hmem)
    exact ⟨_, hid ▸ session.listed_of_readable (hreadable session hsession) hpublished⟩
  · exact ⟨none, listed_of_not_canonical hcanonical artifact.2⟩

/-- The manifests that are listed are those of the sessions. -/
theorem mem_manifests_iff (hholds : catalog.Holds sessions)
    (hreadable : ∀ session ∈ sessions, session.arguments.Readable authoritative)
    {manifests : List (Option SessionManifest)}
    (h : catalog.inNameOrder.mapM (fun artifact => listed sha256 artifact.1 artifact.2) =
      .ok manifests) {manifest : SessionManifest} :
    manifest ∈ manifests.reduceOption ↔ manifest ∈ sessions.map (·.manifest) := by
  rw [List.reduceOption_mem_iff, Fallible.mem_of_mapM h, List.mem_map]
  constructor
  · rintro ⟨artifact, hmem, hlisted⟩
    obtain ⟨session, hsession, hid, hpublished⟩ :=
      (hholds _ (listed_sessionId hlisted).2 _).1 (mem_inNameOrder.1 hmem)
    have hown := session.listed_of_readable (hreadable session hsession) hpublished
    rw [hid, hlisted] at hown
    exact ⟨session, hsession, (Option.some.inj (Except.ok.inj hown)).symm⟩
  · rintro ⟨session, hsession, rfl⟩
    exact ⟨_, hholds.directory_mem hsession,
      session.listed_of_readable (hreadable session hsession) session.published_directory⟩

/-- Sessions of a root that is listed can be read back. -/
theorem readable_of_list (hholds : catalog.Holds sessions) {result : List SessionManifest}
    (h : catalog.list sha256 = .ok result) :
    ∀ session ∈ sessions, session.arguments.Readable authoritative := by
  intro session hsession
  obtain ⟨manifests, hmanifests, -⟩ := list_eq_ok_iff.1 h
  obtain ⟨manifest, hlisted⟩ :=
    Fallible.exists_of_mapM hmanifests (hholds.directory_mem hsession)
  exact session.readable_of_listed session.published_directory hlisted

/-- A root whose sessions can all be read back is listed, each session once. -/
theorem list_of_readable (hholds : catalog.Holds sessions)
    (hnodup : (sessions.map (·.sessionId)).Nodup)
    (hreadable : ∀ session ∈ sessions, session.arguments.Readable authoritative) :
    ∃ listed : List (CompletedSession sha256 authoritative),
      catalog.list sha256 = .ok (listed.map (·.manifest)) ∧ listed.Perm sessions ∧
        listed.Pairwise (fun left right => ListedBefore left.manifest right.manifest) := by
  obtain ⟨manifests, hmanifests⟩ :=
    Fallible.exists_mapM fun artifact hmem => exists_listed hholds hreadable hmem
  have hkeys : (catalog.inNameOrder.map Prod.fst).Nodup :=
    (catalog.inNameOrder_perm.map Prod.fst).nodup_iff.2 catalog.artifacts.keys_nodup
  have hlistedOnce : manifests.reduceOption.Nodup :=
    ((sessionIds_sublist (Fallible.forall₂_of_mapM hmanifests)).nodup hkeys).of_map _
  have hrecordedOnce : (sessions.map (·.manifest)).Nodup := by
    refine List.Nodup.of_map (·.sessionId) ?_
    have hids : (sessions.map (·.manifest)).map (·.sessionId) = sessions.map (·.sessionId) := by
      rw [List.map_map]
      exact List.map_congr_left fun session _ => session.manifest_sessionId
    rw [hids]
    exact hnodup
  have hperm : (manifests.reduceOption.insertionSort ListedBefore).Perm
      (sessions.map (·.manifest)) :=
    (List.perm_insertionSort _ _).trans ((List.perm_ext_iff_of_nodup hlistedOnce hrecordedOnce).2
      fun _ => mem_manifests_iff hholds hreadable hmanifests)
  obtain ⟨listed, heq, hsame⟩ := (congrFun (congrFun (List.eq_map_comp_perm
    (fun session : CompletedSession sha256 authoritative => session.manifest)) _) _).mpr hperm
  refine ⟨listed, list_eq_ok_iff.2 ⟨manifests, hmanifests, heq⟩, hsame, ?_⟩
  have hsorted := List.pairwise_insertionSort ListedBefore manifests.reduceOption
  rw [heq, List.pairwise_map] at hsorted
  exact hsorted

end SessionCatalog

/-! ## The order -/

namespace CompletedSession

variable {sha256 : Bytes → Sha256Digest} {authoritative : Sha256Digest}

/-- Created later, or at the same instant with the greater ID. -/
def NewerThan (left right : CompletedSession sha256 authoritative) : Prop :=
  right.createdAt.instant < left.createdAt.instant ∨
    left.createdAt.instant = right.createdAt.instant ∧ right.sessionId < left.sessionId

/-- Whether a session was created at the start of a second and another one later in it. -/
def StartsSecondOf (start later : CompletedSession sha256 authoritative) : Prop :=
  TunerOs.StartsSecondOf start.createdAt.instant later.createdAt.instant

/-- Sessions are listed by their instants, but one at the start of a second before all that were
created in it. -/
theorem listedBefore_iff {left right : CompletedSession sha256 authoritative} :
    SessionCatalog.ListedBefore left.manifest right.manifest ↔
      right.createdAt.instant < left.createdAt.instant ∧ ¬ right.StartsSecondOf left ∨
        left.StartsSecondOf right ∨
        left.createdAt.instant = right.createdAt.instant ∧ right.sessionId ≤ left.sessionId := by
  obtain ⟨time, hdate, hinstant, htext⟩ := left.manifest_createdAtUtc
  obtain ⟨time', hdate', hinstant', htext'⟩ := right.manifest_createdAtUtc
  rw [SessionCatalog.ListedBefore, htext, htext', UtcTime.isoformat_lt_iff_instant hdate' hdate,
    UtcTime.isoformat_eq_iff hdate hdate', manifest_sessionId, manifest_sessionId, StartsSecondOf,
    StartsSecondOf, ← hinstant, ← hinstant', or_assoc, Nat.cast_lt, Nat.cast_inj]

/-- Neither of two sessions was created at the start of a second and the other later in it. -/
def Apart (left right : CompletedSession sha256 authoritative) : Prop :=
  ¬ left.StartsSecondOf right ∧ ¬ right.StartsSecondOf left

instance : Std.Symm (@Apart sha256 authoritative) where
  symm _ _ h := h.symm

/-- Sessions that are listed in the order of their instants are apart. -/
theorem apart_of_newerThan {left right : CompletedSession sha256 authoritative}
    (hnewer : left.NewerThan right)
    (hlisted : SessionCatalog.ListedBefore left.manifest right.manifest) : left.Apart right := by
  constructor
  · rintro ⟨-, hearlier, -⟩
    rcases hnewer with hlater | ⟨hsame, -⟩ <;> omega
  · intro hstarts
    rcases listedBefore_iff.1 hlisted with ⟨-, hnot⟩ | ⟨-, hearlier, -⟩ | ⟨hsame, -⟩
    · exact hnot hstarts
    · exact lt_asymm hearlier hstarts.2.1
    · exact hstarts.2.1.ne' hsame

end CompletedSession

namespace SessionCatalog

variable {sha256 : Bytes → Sha256Digest} {authoritative : Sha256Digest} {catalog : SessionCatalog}
  {sessions : List (CompletedSession sha256 authoritative)}

/-- The list has every session once, from the newest to the oldest. -/
def ListsNewestFirst (catalog : SessionCatalog)
    (sessions : List (CompletedSession sha256 authoritative)) : Prop :=
  ∃ listed : List (CompletedSession sha256 authoritative),
    catalog.list sha256 = .ok (listed.map (·.manifest)) ∧ listed.Perm sessions ∧
      listed.Pairwise CompletedSession.NewerThan

theorem listsNewestFirst_of_apart (hholds : catalog.Holds sessions)
    (hnodup : (sessions.map (·.sessionId)).Nodup)
    (hreadable : ∀ session ∈ sessions, session.arguments.Readable authoritative)
    (hapart : ∀ start ∈ sessions, ∀ later ∈ sessions, ¬ start.StartsSecondOf later) :
    catalog.ListsNewestFirst sessions := by
  obtain ⟨listed, hlist, hperm, hsorted⟩ := list_of_readable hholds hnodup hreadable
  refine ⟨listed, hlist, hperm, ?_⟩
  have hdistinct : listed.Pairwise (fun left right => left.sessionId ≠ right.sessionId) :=
    List.pairwise_map.1 ((hperm.map _).nodup_iff.2 hnodup)
  refine (hsorted.and hdistinct).imp_of_mem ?_
  intro left right hleft hright hbefore
  rcases CompletedSession.listedBefore_iff.1 hbefore.1 with ⟨hlater, -⟩ | hstarts | ⟨hsame, hid⟩
  · exact .inl hlater
  · exact absurd hstarts (hapart _ (hperm.mem_iff.1 hleft) _ (hperm.mem_iff.1 hright))
  · exact .inr ⟨hsame, lt_of_le_of_ne hid hbefore.2.symm⟩

theorem apart_of_listsNewestFirst (hholds : catalog.Holds sessions)
    (hnodup : (sessions.map (·.sessionId)).Nodup) (h : catalog.ListsNewestFirst sessions) :
    (∀ session ∈ sessions, session.arguments.Readable authoritative) ∧
      ∀ start ∈ sessions, ∀ later ∈ sessions, ¬ start.StartsSecondOf later := by
  obtain ⟨listed, hlist, hperm, hnewest⟩ := h
  have hreadable := readable_of_list hholds hlist
  refine ⟨hreadable, fun start hstart later hlater hstarts => ?_⟩
  obtain ⟨sorted, hsame, -, hsorted⟩ := list_of_readable hholds hnodup hreadable
  rw [hlist] at hsame
  rw [← List.pairwise_map, ← Except.ok.inj hsame, List.pairwise_map] at hsorted
  have hne : start ≠ later := by
    rintro rfl
    exact lt_irrefl _ hstarts.2.1
  have hapart : listed.Pairwise CompletedSession.Apart := (hnewest.and hsorted).imp
    fun {left right} hboth => CompletedSession.apart_of_newerThan hboth.1 hboth.2
  exact (hapart.forall (hperm.mem_iff.2 hstart) (hperm.mem_iff.2 hlater) hne).1 hstarts

/-- The root of some sessions with different IDs. -/
def ofSessions (sessions : List (CompletedSession sha256 authoritative))
    (hnodup : (sessions.map (·.sessionId)).Nodup) : SessionCatalog :=
  ⟨sessions.map (fun session => (session.sessionId, session.directory)), by
    rw [List.map_map]
    exact hnodup⟩

theorem holds_ofSessions (hnodup : (sessions.map (·.sessionId)).Nodup) :
    (ofSessions sessions hnodup).Holds sessions := by
  intro sessionId _ directory
  rw [← Dict.mem_entries_iff, ofSessions, List.mem_map]
  refine exists_congr fun session => and_congr_right fun _ => ?_
  rw [session.published_directory, Prod.mk.injEq, Option.some.injEq]

end SessionCatalog

/-- The catalog lists the sessions of its root, each once and the newest first, exactly if all of them
can be read back and none was created at the start of a second in which another was created later. -/
theorem catalog_lists_newest_first_iff (sha256 : Bytes → Sha256Digest)
    (authoritative : Sha256Digest) (catalog : SessionCatalog)
    (sessions : List (CompletedSession sha256 authoritative))
    (hnodup : (sessions.map (·.sessionId)).Nodup) (hholds : catalog.Holds sessions) :
    catalog.ListsNewestFirst sessions ↔
      (∀ session ∈ sessions, session.arguments.Readable authoritative) ∧
        ∀ start ∈ sessions, ∀ later ∈ sessions, ¬ start.StartsSecondOf later :=
  ⟨SessionCatalog.apart_of_listsNewestFirst hholds hnodup, fun h =>
    SessionCatalog.listsNewestFirst_of_apart hholds hnodup h.1 h.2⟩

/-- The arguments of a session that was created at this time. -/
def argumentsAt (sessionId : Uuid) (createdAt : AwareDateTime) : RecorderArguments :=
  { defaultArguments with sessionId := sessionId, createdAtUtc := .aware createdAt }

section Empty

variable (sessionId : Uuid) (createdAt : AwareDateTime) (h : createdAt.InUtcRange)

include h in
theorem create_argumentsAt : (SessionRecorder.create someDigest (argumentsAt sessionId createdAt) {}
    ⟨none, none⟩).toOption.isSome := by
  obtain ⟨utc, hutc⟩ := AwareDateTime.astimezone_ok_iff.2 h
  simp only [SessionRecorder.create, SessionRecorder.initialManifest, argumentsAt, hutc]
  rfl

/-- A recorder of that session. -/
def recorderAt : SessionRecorder :=
  (SessionRecorder.create someDigest (argumentsAt sessionId createdAt) {} ⟨none, none⟩).toOption.get
    (create_argumentsAt sessionId createdAt h)

theorem create_recorderAt :
    SessionRecorder.create someDigest (argumentsAt sessionId createdAt) {} ⟨none, none⟩ =
      .ok (recorderAt sessionId createdAt h) := by
  unfold recorderAt
  generalize create_argumentsAt sessionId createdAt h = hsome
  generalize SessionRecorder.create someDigest _ _ _ = created at hsome ⊢
  cases created with
  | error error => cases hsome
  | ok recorder => rfl

theorem recorderAt_recorded :
    (recorderAt sessionId createdAt h).Recorded (recorderAt sessionId createdAt h).manifest [] := by
  obtain ⟨-, -, -, hrecorded⟩ := SessionRecorder.create_ok (create_recorderAt sessionId createdAt h)
  exact hrecorded

/-- A session without frames, completed at once. -/
def emptySession : CompletedSession (fun _ => someDigest) someDigest where
  arguments := argumentsAt sessionId createdAt
  createdAt := createdAt
  faults := {}
  recorder := recorderAt sessionId createdAt h
  made := []
  completeFaults := {}
  manifest := _
  left := _
  aware := rfl
  constructed := create_recorderAt sessionId createdAt h
  completed := (recorderAt_recorded sessionId createdAt h).complete rfl rfl rfl

theorem emptySession_readable :
    (emptySession sessionId createdAt h).arguments.Readable someDigest where
  dbcName := show authoritativeDbcName ≠ "" by decide
  dbcSha256 := someDigest.isSha256Hex
  calibrationRevision _ hrevision := absurd hrevision.symm (Option.some_ne_none _)

end Empty

def otherId : Uuid := ⟨"00000000-0000-4000-8000-000000000002", by decide⟩

/-- 09:30:15 on a day in 2027, in UTC. -/
def wholeSecond : AwareDateTime :=
  (AwareDateTime.ofFields 2027 5 20 9 30 15 0 0).get (by decide)

/-- A microsecond later, shown by a clock that is two hours ahead of UTC. -/
def microsecondLater : AwareDateTime :=
  (AwareDateTime.ofFields 2027 5 20 11 30 15 1 7200000000).get (by decide)

/-- Half a second later, shown by a clock that is ten hours behind UTC. -/
def halfSecondLater : AwareDateTime :=
  (AwareDateTime.ofFields 2027 5 19 23 30 15 500000 (-36000000000)).get (by decide)

/-- Two sessions of one second, both created after its start. -/
def laterSessions : List (CompletedSession (fun _ => someDigest) someDigest) :=
  [emptySession defaultArguments.sessionId microsecondLater (by decide +kernel),
    emptySession otherId halfSecondLater (by decide +kernel)]

theorem laterSessions_nodup : (laterSessions.map (·.sessionId)).Nodup := by decide +kernel

theorem laterSessions_listed :
    (SessionCatalog.ofSessions laterSessions laterSessions_nodup).ListsNewestFirst laterSessions := by
  refine (catalog_lists_newest_first_iff _ _ _ _ laterSessions_nodup
    (SessionCatalog.holds_ofSessions laterSessions_nodup)).2 ⟨?_, ?_⟩
  · simp only [laterSessions, List.forall_mem_cons]
    exact ⟨emptySession_readable _ _ _, emptySession_readable _ _ _, List.forall_mem_nil _⟩
  · simp only [laterSessions, List.forall_mem_cons, CompletedSession.StartsSecondOf, emptySession]
    decide +kernel

/-- Two sessions of one second, the first of which was created at its start. -/
def startAndLater : List (CompletedSession (fun _ => someDigest) someDigest) :=
  [emptySession defaultArguments.sessionId wholeSecond (by decide +kernel),
    emptySession otherId microsecondLater (by decide +kernel)]

theorem startAndLater_nodup : (startAndLater.map (·.sessionId)).Nodup := by decide +kernel

/-- Both can be read back, and the older one is listed first. -/
theorem startAndLater_not_newest_first :
    (∀ session ∈ startAndLater, session.arguments.Readable someDigest) ∧
      (SessionCatalog.ofSessions startAndLater startAndLater_nodup).Holds startAndLater ∧
      ¬ (SessionCatalog.ofSessions startAndLater startAndLater_nodup).ListsNewestFirst
        startAndLater := by
  have hholds := SessionCatalog.holds_ofSessions startAndLater_nodup
  refine ⟨?_, hholds, fun hnewest => ?_⟩
  · simp only [startAndLater, List.forall_mem_cons]
    exact ⟨emptySession_readable _ _ _, emptySession_readable _ _ _, List.forall_mem_nil _⟩
  · have hapart := (SessionCatalog.apart_of_listsNewestFirst hholds startAndLater_nodup hnewest).2
    have hstarts : StartsSecondOf wholeSecond.instant microsecondLater.instant := by decide +kernel
    exact hapart _ List.mem_cons_self _ (List.mem_cons_of_mem _ List.mem_cons_self) hstarts

end TunerOs
