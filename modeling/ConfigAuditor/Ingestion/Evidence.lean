import ConfigAuditor.Ingestion.Service

/-!
# Stored evidence stays

Uploads, sessions, compensations and crashes in any order. A row that was committed has its
bytes in the storage from then on, and they do not change; the one exception is a session that
fails after its commit, whose compensation deletes the bytes of a committed row.
-/
namespace ConfigAuditor.Ingestion.Evidence

open Library

/-- The columns of a row are those of an upload: the declared MIME type and name, and what the
bytes are classified as under them. -/
structure Describes (services : Services) (row : ArtifactRow) (upload : Upload) : Prop where
  owner : row.organizationId = upload.user.organizationId
  reference : row.storageReference = storageReference row.organizationId row.artifactId
  size : row.byteSize = upload.data.size
  digest : row.sha256 = services.sha256 upload.data
  filename : row.originalFilename = normalizeFilename services.unquote upload.filename
  mimeType : row.mimeType = normalizeMimeType upload.mimeType
  classified : validateAndClassify services.readers upload.data row.originalFilename row.mimeType =
    .ok ⟨row.contentFamily, row.evidenceType, row.encoding, row.validationIssues⟩
  text : IsText upload.data
  name : PlainName row.originalFilename

/-- Where the bytes of a row are. -/
def targetOf (services : Services) (row : ArtifactRow) : Except StorageError Path :=
  resolveReference services.root row.storageReference

/-- The bytes of a row are in the storage. -/
def Stored (services : Services) (files : Files) (row : ArtifactRow) (data : ByteArray) : Prop :=
  ∃ target, targetOf services row = .ok target ∧ FileTree.content files target = some data

theorem read_stored {services : Services} {files : Files} {row : ArtifactRow} {data : ByteArray}
    (h : Stored services files row data) :
    read services.root files row.storageReference false = .ok data := by
  obtain ⟨target, htarget, hcontent⟩ := h
  have hresolve : resolveReference services.root row.storageReference = .ok target := htarget
  simp only [read, except_bind_eq_ok]
  exact ⟨target, hresolve, by simp [hcontent]⟩

theorem receive_describes {services : Services} {upload : Upload} {artifactId : UUID}
    {row : ArtifactRow} (h : receive services upload artifactId = .ok row) :
    Describes services row upload ∧
      row.storageReference = storageReference upload.user.organizationId artifactId := by
  simp only [receive, except_bind_eq_ok, except_pure_eq_ok] at h
  obtain ⟨validated, hvalidated, metadata, -, rfl⟩ := h
  have htext := validateAndClassify_isText hvalidated
  exact ⟨⟨rfl, rfl, rfl, rfl, rfl, rfl, hvalidated, htext, normalizeFilename_plain _ _⟩, rfl⟩

/-- The bytes are published where nothing was, or the files are as before. -/
theorem store_cases (services : Services) (files : Files) (upload : Upload) (artifactId : UUID)
    (fault : Option SystemFault) :
    (∃ error, store services files upload artifactId fault = (files, .error error)) ∨
      ∃ row target files', store services files upload artifactId fault = (files', .ok row) ∧
        Describes services row upload ∧ targetOf services row = .ok target ∧
        FileTree.publish? files target upload.data = some files' := by
  unfold store
  cases hreceived : receive services upload artifactId with
  | error error => exact .inl ⟨error, rfl⟩
  | ok row =>
    obtain ⟨hdescribes, hreference⟩ := receive_describes hreceived
    dsimp only
    unfold write
    dsimp only
    cases htarget : resolveReference services.root
        (storageReference upload.user.organizationId artifactId) with
    | error error => exact .inl ⟨_, rfl⟩
    | ok target =>
      have hrow : targetOf services row = .ok target := by rw [targetOf, hreference, htarget]
      cases fault with
      | some fault => cases fault <;> exact .inl ⟨_, rfl⟩
      | none =>
        dsimp only
        cases hpublish : FileTree.publish? files target upload.data with
        | none => exact .inl ⟨_, rfl⟩
        | some files' => exact .inr ⟨row, target, files', rfl, hdescribes, hrow, hpublish⟩

theorem stored_publish {services : Services} {files files' : Files} {row : ArtifactRow}
    {target : Path} {data new : ByteArray}
    (hpublish : FileTree.publish? files target new = some files')
    (h : Stored services files row data) :
    Stored services files' row data ∧ targetOf services row ≠ .ok target := by
  obtain ⟨place, hplace, hcontent⟩ := h
  refine ⟨⟨place, hplace, FileTree.content_publish hpublish hcontent⟩, ?_⟩
  intro heq
  obtain rfl := Except.ok.inj (hplace.symm.trans heq)
  rw [(FileTree.publish?_eq_some.mp hpublish).1] at hcontent
  cases hcontent

/-- Deleting what another reference leads to leaves the bytes of a row. -/
theorem stored_delete {services : Services} {files : Files} {row : ArtifactRow} {reference : String}
    {data : ByteArray} {fault : Bool}
    (hapart : targetOf services row ≠ resolveReference services.root reference)
    (h : Stored services files row data) :
    Stored services (delete services.root files reference fault).1 row data := by
  obtain ⟨place, hplace, hcontent⟩ := h
  refine ⟨place, hplace, ?_⟩
  unfold delete
  cases htarget : resolveReference services.root reference with
  | error error => exact hcontent
  | ok target =>
    dsimp only
    split
    · exact hcontent
    · rw [FileTree.content_remove, if_neg]
      · exact hcontent
      · rintro rfl
        exact hapart (hplace.trans htarget.symm)

theorem find_mem {s : State} {reference : String} {rolledBack : Bool} {upload : Pending}
    (h : s.find reference rolledBack = some upload) :
    upload ∈ s.pending ∧ upload.row.storageReference = reference := by
  refine ⟨List.mem_of_find?_eq_some h, ?_⟩
  have hfound := List.find?_some h
  rw [Bool.and_eq_true, beq_iff_eq] at hfound
  exact hfound.1

theorem mem_others {s : State} {reference : String} {upload : Pending} :
    upload ∈ s.others reference ↔
      upload ∈ s.pending ∧ upload.row.storageReference ≠ reference := by
  simp [State.others]

/-- Two uploads have their bytes at different places. -/
def Apart (services : Services) (upload other : Pending) : Prop :=
  targetOf services upload.row ≠ targetOf services other.row

instance (services : Services) : Std.Symm (Apart services) := ⟨fun _ _ h => h.symm⟩

/-- The bytes of a row are in the storage, and the row is that of an upload that was taken in. -/
def Uploaded (services : Services) (taken : Upload → Prop) (files : Files) (row : ArtifactRow) :
    Prop :=
  ∃ upload, taken upload ∧ Stored services files row upload.data ∧ Describes services row upload

theorem Uploaded.mono {services : Services} {taken : Upload → Prop} {files files' : Files}
    {row : ArtifactRow} (h : Uploaded services taken files row)
    (hfiles : ∀ data, Stored services files row data → Stored services files' row data) :
    Uploaded services taken files' row := by
  obtain ⟨upload, htaken, hstored, hcolumns⟩ := h
  exact ⟨upload, htaken, hfiles _ hstored, hcolumns⟩

/-- The uploads that are under way have their bytes stored, each at its own place, and so have
the rows whose session did not fail after its commit. -/
structure Sound (services : Services) (taken : Upload → Prop) (failed : String → Prop)
    (s : State) : Prop where
  pending : ∀ upload ∈ s.pending, Uploaded services taken s.files upload.row
  apart : s.pending.Pairwise (Apart services)
  rows : ∀ row ∈ s.artifacts, ¬ failed row.storageReference →
    Uploaded services taken s.files row ∧
      ∀ upload ∈ s.pending, targetOf services row ≠ targetOf services upload.row

/-- What was in the storage before a statement and is there after it. -/
def Keeps (services : Services) (failed : String → Prop) (s s' : State) : Prop :=
  ∀ row ∈ s.artifacts, ¬ failed row.storageReference → row ∈ s'.artifacts ∧
    ∀ data, Stored services s.files row data → Stored services s'.files row data

variable {services : Services} {taken : Upload → Prop} {failed : String → Prop} {s : State}

theorem sound_empty : Sound services taken failed {} := by
  refine ⟨?_, List.Pairwise.nil, ?_⟩
  · intro upload hupload
    cases hupload
  · intro row hrow
    cases hrow

theorem keeps_files {s' : State} (hrows : ∀ row ∈ s.artifacts, row ∈ s'.artifacts)
    (hfiles : s'.files = s.files) : Keeps services failed s s' := by
  intro row hrow _
  rw [hfiles]
  exact ⟨hrows row hrow, fun data hdata => hdata⟩

/-- Two uploads under way are at different places. -/
theorem Sound.apart_of_ne (h : Sound services taken failed s) {upload other : Pending}
    (hupload : upload ∈ s.pending) (hother : other ∈ s.pending) (hne : upload ≠ other) :
    Apart services upload other :=
  h.apart.forall hupload hother hne

theorem Sound.others (h : Sound services taken failed s) {reference : String} {upload : Pending}
    (hupload : upload ∈ s.pending) (hreference : upload.row.storageReference = reference)
    {other : Pending} (hother : other ∈ s.others reference) : Apart services upload other := by
  obtain ⟨hmem, hne⟩ := mem_others.mp hother
  refine h.apart_of_ne hupload hmem ?_
  rintro rfl
  exact hne hreference

theorem Sound.others_pairwise (h : Sound services taken failed s) (reference : String) :
    (s.others reference).Pairwise (Apart services) :=
  h.apart.filter _

/-- The session of an upload ends: its row may be there, the upload may have to be undone. -/
theorem Sound.session (h : Sound services taken failed s) {reference : String} {upload : Pending}
    (hupload : upload ∈ s.pending) (hreference : upload.row.storageReference = reference)
    {artifacts : List ArtifactRow} {pending : List Pending}
    (hartifacts : ∀ row ∈ artifacts, row ∈ s.artifacts ∨
      row = upload.row ∧ (failed reference ∨ pending = s.others reference))
    (hpending : pending = s.others reference ∨
      pending = ⟨upload.row, true⟩ :: s.others reference) :
    Sound services taken failed { s with artifacts, pending } := by
  have hothers : ∀ other ∈ s.others reference, other ∈ s.pending :=
    fun other hother => (mem_others.mp hother).1
  refine ⟨?_, ?_, ?_⟩
  · intro other hother
    obtain rfl | rfl := hpending
    · exact h.pending other (hothers other hother)
    · obtain rfl | hother := List.mem_cons.mp hother
      · exact h.pending upload hupload
      · exact h.pending other (hothers other hother)
  · obtain rfl | rfl := hpending
    · exact h.others_pairwise reference
    · exact List.pairwise_cons.mpr
        ⟨fun other hother => h.others hupload hreference hother, h.others_pairwise reference⟩
  · intro row hrow hkept
    obtain hold | ⟨rfl, hnew⟩ := hartifacts row hrow
    · obtain ⟨hstored, hplaces⟩ := h.rows row hold hkept
      refine ⟨hstored, fun other hother => ?_⟩
      obtain rfl | rfl := hpending
      · exact hplaces other (hothers other hother)
      · obtain rfl | hother := List.mem_cons.mp hother
        · exact hplaces upload hupload
        · exact hplaces other (hothers other hother)
    · obtain hfailed | rfl := hnew
      · exact absurd (hreference ▸ hfailed) hkept
      · exact ⟨h.pending upload hupload, fun other hother => h.others hupload hreference hother⟩

theorem sound_store (h : Sound services taken failed s) {upload : Upload} (htaken : taken upload)
    (artifactId : UUID) (fault : Option SystemFault) :
    Sound services taken failed (step services s (.store upload artifactId fault)) ∧
      Keeps services failed s (step services s (.store upload artifactId fault)) := by
  obtain ⟨error, hstore⟩ | ⟨row, target, files', hstore, hdescribes, htarget, hpublish⟩ :=
    store_cases services s.files upload artifactId fault
  · rw [step, hstore]
    exact ⟨h, keeps_files (fun row hrow => hrow) rfl⟩
  · rw [step, hstore]
    have hnew : Stored services files' row upload.data := by
      refine ⟨target, htarget, ?_⟩
      rw [(FileTree.publish?_eq_some.mp hpublish).2, FileTree.content_cons, if_pos rfl]
    have hold : ∀ row, Uploaded services taken s.files row →
        Uploaded services taken files' row ∧ targetOf services row ≠ .ok target := by
      intro row hrow
      have hmono := hrow.mono fun data hdata => (stored_publish hpublish hdata).1
      obtain ⟨other, -, hstored, -⟩ := hrow
      exact ⟨hmono, (stored_publish hpublish hstored).2⟩
    refine ⟨⟨?_, ?_, ?_⟩, fun row hrow _ =>
      ⟨hrow, fun data hdata => (stored_publish hpublish hdata).1⟩⟩
    · intro other hother
      obtain rfl | hother := List.mem_cons.mp hother
      · exact ⟨upload, htaken, hnew, hdescribes⟩
      · exact (hold _ (h.pending other hother)).1
    · refine List.pairwise_cons.mpr ⟨fun other hother => ?_, h.apart⟩
      rw [Apart, htarget]
      exact (hold _ (h.pending other hother)).2.symm
    · intro old hmem hkept
      obtain ⟨huploaded, hplaces⟩ := h.rows old hmem hkept
      obtain ⟨huploaded, hplace⟩ := hold old huploaded
      refine ⟨huploaded, fun other hother => ?_⟩
      obtain rfl | hother := List.mem_cons.mp hother
      · rw [htarget]
        exact hplace
      · exact hplaces other hother

theorem sound_session (h : Sound services taken failed s) (reference : String) (outcome : Session)
    (hfailed : outcome = .refreshFailed → failed reference) :
    Sound services taken failed (step services s (.session reference outcome)) ∧
      Keeps services failed s (step services s (.session reference outcome)) := by
  rw [step]
  cases hfind : s.find reference false with
  | none => exact ⟨h, keeps_files (fun row hrow => hrow) rfl⟩
  | some upload =>
    obtain ⟨hupload, hreference⟩ := find_mem hfind
    have hundone : Sound services taken failed
        { s with pending := ⟨upload.row, true⟩ :: s.others reference } :=
      h.session hupload hreference (fun row hrow => .inl hrow) (.inr rfl)
    dsimp only
    cases hinsert : Table.insert? ArtifactRow.artifactId s.artifacts upload.row with
    | none => cases outcome <;> exact ⟨hundone, keeps_files (fun row hrow => hrow) rfl⟩
    | some artifacts =>
      obtain ⟨rfl, -⟩ := Table.insert?_eq_some hinsert
      have hmem : ∀ row ∈ s.artifacts ++ [upload.row],
          row ∈ s.artifacts ∨ row = upload.row := fun row hrow =>
        (List.mem_append.mp hrow).imp_right List.mem_singleton.mp
      cases outcome with
      | committed =>
        exact ⟨h.session hupload hreference
          (fun row hrow => (hmem row hrow).imp_right fun heq => ⟨heq, .inr rfl⟩) (.inl rfl),
          keeps_files (fun row hrow => List.mem_append_left _ hrow) rfl⟩
      | commitFailed => exact ⟨hundone, keeps_files (fun row hrow => hrow) rfl⟩
      | refreshFailed =>
        exact ⟨h.session hupload hreference
          (fun row hrow => (hmem row hrow).imp_right
            fun heq => ⟨heq, .inl (hfailed rfl)⟩) (.inr rfl),
          keeps_files (fun row hrow => List.mem_append_left _ hrow) rfl⟩

/-- A compensation deletes the bytes of the upload it is for, and of no row that is kept. -/
theorem sound_compensate (h : Sound services taken failed s) (reference : String) (fault : Bool) :
    Sound services taken failed (step services s (.compensate reference fault)) ∧
      Keeps services failed s (step services s (.compensate reference fault)) := by
  rw [step]
  cases hfind : s.find reference true with
  | none => exact ⟨h, keeps_files (fun row hrow => hrow) rfl⟩
  | some upload =>
    obtain ⟨hupload, hreference⟩ := find_mem hfind
    have hplace : targetOf services upload.row = resolveReference services.root reference := by
      rw [targetOf, hreference]
    have hrows : ∀ row ∈ s.artifacts, ¬ failed row.storageReference →
        targetOf services row ≠ resolveReference services.root reference :=
      fun row hrow hkept => hplace ▸ (h.rows row hrow hkept).2 upload hupload
    refine ⟨⟨?_, h.others_pairwise reference, ?_⟩, fun row hrow hkept =>
      ⟨hrow, fun data hdata => stored_delete (hrows row hrow hkept) hdata⟩⟩
    · intro other hother
      have hne := h.others hupload hreference hother
      exact (h.pending other (mem_others.mp hother).1).mono fun data hdata =>
        stored_delete (hplace ▸ hne.symm) hdata
    · intro row hrow hkept
      obtain ⟨huploaded, hplaces⟩ := h.rows row hrow hkept
      exact ⟨huploaded.mono fun data hdata => stored_delete (hrows row hrow hkept) hdata,
        fun other hother => hplaces other (mem_others.mp hother).1⟩

theorem sound_crash (h : Sound services taken failed s) (reference : String) :
    Sound services taken failed (step services s (.crash reference)) := by
  refine ⟨?_, h.others_pairwise reference, ?_⟩
  · exact fun other hother => h.pending other (mem_others.mp hother).1
  · intro row hrow hkept
    obtain ⟨huploaded, hplaces⟩ := h.rows row hrow hkept
    exact ⟨huploaded, fun other hother => hplaces other (mem_others.mp hother).1⟩

theorem sound_step (h : Sound services taken failed s) (event : Event)
    (htaken : ∀ upload artifactId fault, event = .store upload artifactId fault → taken upload)
    (hfailed : ∀ reference, event = .session reference .refreshFailed → failed reference) :
    Sound services taken failed (step services s event) ∧
      Keeps services failed s (step services s event) := by
  cases event with
  | store upload artifactId fault => exact sound_store h (htaken _ _ _ rfl) artifactId fault
  | session reference outcome =>
    exact sound_session h reference outcome fun heq => hfailed reference (heq ▸ rfl)
  | compensate reference fault => exact sound_compensate h reference fault
  | crash reference => exact ⟨sound_crash h reference, keeps_files (fun row hrow => hrow) rfl⟩

theorem sound_run (h : Sound services taken failed s) {events : List Event}
    (htaken : ∀ upload artifactId fault, Event.store upload artifactId fault ∈ events → taken upload)
    (hfailed : ∀ reference, Event.session reference .refreshFailed ∈ events → failed reference) :
    Sound services taken failed (Runs.run (step services) s events) ∧
      Keeps services failed s (Runs.run (step services) s events) := by
  induction events generalizing s with
  | nil => exact ⟨h, keeps_files (fun row hrow => hrow) rfl⟩
  | cons event events ih =>
    obtain ⟨hsound, hkeeps⟩ := sound_step h event
      (fun upload artifactId fault heq =>
        htaken upload artifactId fault (heq ▸ List.mem_cons_self))
      fun reference heq => hfailed reference (heq ▸ List.mem_cons_self)
    obtain ⟨hlast, hlater⟩ := ih hsound
      (fun upload artifactId fault hmem =>
        htaken upload artifactId fault (List.mem_cons_of_mem _ hmem))
      fun reference hmem => hfailed reference (List.mem_cons_of_mem _ hmem)
    refine ⟨hlast, fun row hrow hkept => ?_⟩
    obtain ⟨hmid, hdata⟩ := hkeeps row hrow hkept
    obtain ⟨hend, hrest⟩ := hlater row hmid hkept
    exact ⟨hend, fun data hstored => hrest data (hdata data hstored)⟩

/-- A committed row is that of an upload that took place, its columns are those of the upload and
of its bytes, and these bytes are read back, then and after any further events. -/
theorem evidence_stays (services : Services) (first second : List Event) (row : ArtifactRow)
    (hrow : row ∈ (Runs.run (step services) {} first).artifacts)
    (hrefresh : Event.session row.storageReference .refreshFailed ∉ first ++ second) :
    row ∈ (Runs.run (step services) {} (first ++ second)).artifacts ∧
      ∃ upload artifactId fault, Event.store upload artifactId fault ∈ first ∧
        Describes services row upload ∧
        read services.root (Runs.run (step services) {} first).files row.storageReference false =
          .ok upload.data ∧
        read services.root (Runs.run (step services) {} (first ++ second)).files
          row.storageReference false = .ok upload.data := by
  set taken : Upload → Prop := fun upload =>
    ∃ artifactId fault, Event.store upload artifactId fault ∈ first
  set failed : String → Prop := fun reference =>
    Event.session reference .refreshFailed ∈ first ++ second
  have hempty : Sound services taken failed {} := sound_empty
  obtain ⟨hsound, -⟩ := sound_run hempty
    (fun upload artifactId fault hmem => ⟨artifactId, fault, hmem⟩)
    fun reference hmem => List.mem_append_left second hmem
  have hany : Sound services (fun _ => True) failed (Runs.run (step services) {} first) :=
    (sound_run sound_empty (fun _ _ _ _ => trivial)
      fun reference hmem => List.mem_append_left second hmem).1
  obtain ⟨-, hkeeps⟩ := sound_run hany (fun _ _ _ _ => trivial)
    fun reference hmem => List.mem_append_right first hmem
  obtain ⟨⟨upload, ⟨artifactId, fault, htaken⟩, hdata, hcolumns⟩, -⟩ :=
    hsound.rows row hrow hrefresh
  obtain ⟨hlast, hlater⟩ := hkeeps row hrow hrefresh
  rw [Runs.run_append]
  exact ⟨hlast, upload, artifactId, fault, htaken, hcolumns, read_stored hdata,
    read_stored (hlater _ hdata)⟩

theorem find_undone {s : State} {row : ArtifactRow} {others : List Pending}
    (h : s.pending = ⟨row, true⟩ :: others) : s.find row.storageReference true = some ⟨row, true⟩ := by
  rw [State.find, h]
  exact List.find?_cons_of_pos (by simp)

/-- In every state of every run: an upload whose refresh fails leaves its row, and the
compensation leaves the row without its bytes. -/
theorem refresh_failure_loses (services : Services) (events : List Event) (upload : Pending)
    (hupload : (Runs.run (step services) {} events).find upload.row.storageReference false =
      some upload)
    (hnew : ∀ other ∈ (Runs.run (step services) {} events).artifacts,
      other.artifactId ≠ upload.row.artifactId) :
    upload.row ∈ (Runs.run (step services) {} (events ++
        [.session upload.row.storageReference .refreshFailed,
          .compensate upload.row.storageReference false])).artifacts ∧
      read services.root (Runs.run (step services) {} (events ++
        [.session upload.row.storageReference .refreshFailed,
          .compensate upload.row.storageReference false])).files
        upload.row.storageReference false = .error (.notFound "Artifact bytes were not found") := by
  set s := Runs.run (step services) {} events
  set reference := upload.row.storageReference
  have hsound : Sound services (fun _ => True) (fun _ => True) s :=
    (sound_run sound_empty (fun _ _ _ _ => trivial) fun _ _ => trivial).1
  obtain ⟨taken, -, ⟨target, htarget, -⟩, -⟩ := hsound.pending upload (find_mem hupload).1
  have hinsert : Table.insert? ArtifactRow.artifactId s.artifacts upload.row =
      some (s.artifacts ++ [upload.row]) := Table.insert?_fresh hnew
  have hresolve : resolveReference services.root reference = .ok target := htarget
  set failed : State := { s with
    artifacts := s.artifacts ++ [upload.row]
    pending := ⟨upload.row, true⟩ :: s.others reference } with hfailed
  have hsession : step services s (.session reference .refreshFailed) = failed := by
    rw [step, hupload]
    dsimp only
    rw [hinsert]
  have hundone : failed.find reference true = some ⟨upload.row, true⟩ := find_undone rfl
  have hcompensate : step services failed (.compensate reference false) =
      { failed with
        files := FileTree.remove s.files target
        pending := failed.others reference } := by
    rw [step, hundone]
    dsimp only
    rw [delete, hresolve]
    rfl
  rw [Runs.run_append, Runs.run_cons, Runs.run_cons, Runs.run_nil, hsession, hcompensate]
  refine ⟨List.mem_append_right _ List.mem_cons_self, ?_⟩
  have hgone : FileTree.content (FileTree.remove s.files target) target = none := by
    rw [FileTree.content_remove, if_pos rfl]
  rw [read, hresolve]
  simp [bind, Except.bind, hgone, throw, throwThe, MonadExceptOf.throw]

def plainServices : Services where
  root := { directory := ["srv", "artifacts"], resolve := some }
  readers := { json := fun _ => .malformed, xml := fun _ => .malformed, upper := id }
  unquote := id
  sha256 := fun data => toString data.size

def hostnameUpload : Upload where
  user := { userId := UUID.ofNat 1, organizationId := UUID.ofNat 2, role := .analyst }
  data := ⟨#[104, 105]⟩
  filename := some "../router.cfg"

def hostnameRow : ArtifactRow where
  artifactId := UUID.ofNat 3
  organizationId := UUID.ofNat 2
  originalFilename := "router.cfg"
  storageReference := storageReference (UUID.ofNat 2) (UUID.ofNat 3)
  byteSize := 2
  sha256 := "2"
  mimeType := none
  encoding := "utf-8"
  contentFamily := .text
  evidenceType := .configuration
  validationIssues := []
  sourceMetadata := [("ingestion", .str "authenticated_upload")]
  uploadedBy := UUID.ofNat 1

/-- The upload is stored and its row committed. -/
def committedUpload : List Event :=
  [.store hostnameUpload (UUID.ofNat 3) none, .session hostnameRow.storageReference .committed]

/-- A second upload with the same identifier is refused, and nothing is deleted. -/
theorem evidence_stays_hostname :
    hostnameRow ∈ (Runs.run (step plainServices) {}
        (committedUpload ++ [.store hostnameUpload (UUID.ofNat 3) none])).artifacts ∧
      ∃ upload artifactId fault, Event.store upload artifactId fault ∈ committedUpload ∧
        Describes plainServices hostnameRow upload ∧
        read plainServices.root (Runs.run (step plainServices) {} committedUpload).files
          hostnameRow.storageReference false = .ok upload.data ∧
        read plainServices.root (Runs.run (step plainServices) {}
          (committedUpload ++ [.store hostnameUpload (UUID.ofNat 3) none])).files
          hostnameRow.storageReference false = .ok upload.data :=
  evidence_stays plainServices committedUpload [.store hostnameUpload (UUID.ofNat 3) none]
    hostnameRow (by decide +kernel) (by simp [committedUpload])

theorem refresh_failure_loses_hostname :
    hostnameRow ∈ (Runs.run (step plainServices) {}
        ([.store hostnameUpload (UUID.ofNat 3) none] ++
          [.session hostnameRow.storageReference .refreshFailed,
            .compensate hostnameRow.storageReference false])).artifacts ∧
      read plainServices.root (Runs.run (step plainServices) {}
        ([.store hostnameUpload (UUID.ofNat 3) none] ++
          [.session hostnameRow.storageReference .refreshFailed,
            .compensate hostnameRow.storageReference false])).files
        hostnameRow.storageReference false = .error (.notFound "Artifact bytes were not found") :=
  refresh_failure_loses plainServices [.store hostnameUpload (UUID.ofNat 3) none]
    ⟨hostnameRow, false⟩ (by decide +kernel) (by decide +kernel)

end ConfigAuditor.Ingestion.Evidence
