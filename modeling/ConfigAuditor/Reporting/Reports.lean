import ConfigAuditor.Reporting.Service

/-!
# What becomes of a report

Requests, handlers and failures of any number of reports in any order. A report that is ready
or failed stays as it is; a ready one is downloaded as it was rendered, by its organization
only.
-/
namespace ConfigAuditor.Reporting.Reports

open Library
open Audits (Audit owned)
open Ingestion (Files Path Root SystemFault)
open Training (User)

/-- A transaction, with what it draws and what fails in it. -/
inductive Event where
  /-- Audits and findings change. -/
  | evaluate (audits : List Audit) (findings : List (UUID × UUID))
  | create (user : User) (auditId reportId jobId : UUID) (now : Int)
  | markGenerating (reportId : UUID)
  | generate (reportId : UUID) (pdf : Except ReportError ByteArray) (fault : Option SystemFault)
    (now : Int) (commits : Bool)
  | fail (reportId : UUID)

def step (root : Root) (sha256 : ByteArray → String) (s : State) : Event → State
  | .evaluate audits findings => { s with audits, findings }
  | .create user auditId reportId jobId now =>
    match createReport s user auditId reportId jobId now with
    | .ok (s, _) => s
    | .error _ => s
  | .markGenerating reportId =>
    match markGenerating s reportId with
    | .ok s => s
    | .error _ => s
  | .generate reportId pdf fault now commits =>
    match generateReport root sha256 s reportId pdf fault now with
    | (files, .ok reports) => if commits then { s with files, reports } else { s with files }
    | (files, .error _) => { s with files }
  | .fail reportId => failReport s reportId

variable (root : Root) (sha256 : ByteArray → String)

/-- The columns of a report are those of the stored bytes. -/
def Holds (files : Files) (report : Report) (data : ByteArray) : Prop :=
  ∃ target, pathOf root (storageReference report.organizationId report.reportId) = .ok target ∧
    FileTree.content files target = some data ∧
    report.storageReference = some (storageReference report.organizationId report.reportId) ∧
    report.byteSize = some data.size ∧ report.sha256 = some (sha256 data)

/-- A row has content exactly when it is ready. -/
structure RowSound (files : Files) (report : Report) : Prop where
  ready : report.status = .ready → ∃ data, Holds root sha256 files report data
  blank : report.status ≠ .ready → report.storageReference = none ∧ report.sha256 = none ∧
    report.byteSize = none

inductive Move (files : Files) : Report → Report → Prop
  | same (report : Report) : Move files report report
  | mark {report : Report} (h : report.status = .pending) :
    Move files report { report with status := .generating }
  | ready {report : Report} (h : report.status = .generating) {data : ByteArray} {reference : String}
    {now : Int} (hholds : Holds root sha256 files
      (readyReport sha256 data reference now report) data) :
    Move files report (readyReport sha256 data reference now report)
  | fail {report : Report} (h : report.status = .pending ∨ report.status = .generating) :
    Move files report (failedReport report)

variable {root sha256} {files files' : Files} {report report' : Report}

/-- A report that was rendered, or was given up. -/
def Settled (report : Report) : Prop := report.status = .ready ∨ report.status = .failed

theorem Move.settled (h : Move root sha256 files report report') (hsettled : Settled report) :
    report' = report := by
  cases h with
  | same => rfl
  | mark h => exact absurd hsettled (by simp [Settled, h])
  | ready h => exact absurd hsettled (by simp [Settled, h])
  | fail h => exact absurd hsettled (by obtain h | h := h <;> simp [Settled, h])

theorem Move.key (h : Move root sha256 files report report') :
    report'.reportId = report.reportId := by
  cases h with
  | same => rfl
  | mark h => rfl
  | ready h => rfl
  | fail h =>
    unfold failedReport
    split <;> rfl

/-- Stored bytes stay. -/
def FilesKept (files files' : Files) : Prop :=
  ∀ target data, FileTree.content files target = some data →
    FileTree.content files' target = some data

theorem Holds.kept {data : ByteArray} (hfiles : FilesKept files files')
    (h : Holds root sha256 files report data) : Holds root sha256 files' report data := by
  obtain ⟨target, hpath, hcontent, hcolumns⟩ := h
  exact ⟨target, hpath, hfiles target data hcontent, hcolumns⟩

theorem RowSound.kept (hfiles : FilesKept files files') (h : RowSound root sha256 files report) :
    RowSound root sha256 files' report := by
  refine ⟨fun hready => ?_, h.blank⟩
  obtain ⟨data, hdata⟩ := h.ready hready
  exact ⟨data, hdata.kept hfiles⟩

theorem Move.sound (hfiles : FilesKept files files') (h : Move root sha256 files' report report')
    (hsound : RowSound root sha256 files report) : RowSound root sha256 files' report' := by
  cases h with
  | same => exact hsound.kept hfiles
  | mark h =>
    have hne : report.status ≠ .ready := by simp [h]
    exact ⟨fun hready => absurd hready (by simp), fun _ => hsound.blank hne⟩
  | ready h hholds => exact ⟨fun _ => ⟨_, hholds⟩, fun hne => absurd rfl hne⟩
  | fail h =>
    have hne : report.status ≠ .ready := by obtain h | h := h <;> simp [h]
    rw [failedReport, if_pos h]
    exact ⟨fun hready => absurd hready (by simp), fun _ => hsound.blank hne⟩

structure Sound (root : Root) (sha256 : ByteArray → String) (s : State) : Prop where
  keys : (s.reports.map Report.reportId).Nodup
  rows : ∀ report ∈ s.reports, RowSound root sha256 s.files report

/-- Each row of the new table is a moved one, or a new report without content. -/
structure Moves (root : Root) (sha256 : ByteArray → String) (s s' : State) : Prop where
  files : FilesKept s.files s'.files
  kept : ∀ report ∈ s.reports, ∃ report' ∈ s'.reports, Move root sha256 s'.files report report'
  rows : ∀ report' ∈ s'.reports, (∃ report ∈ s.reports, Move root sha256 s'.files report report') ∨
    report'.status = .pending ∧ report'.storageReference = none ∧ report'.sha256 = none ∧
      report'.byteSize = none
  keys : (s.reports.map Report.reportId).Nodup → (s'.reports.map Report.reportId).Nodup

theorem moves_same {s s' : State} (hreports : s'.reports = s.reports)
    (hfiles : FilesKept s.files s'.files) : Moves root sha256 s s' := by
  refine ⟨hfiles, ?_, ?_, ?_⟩ <;> rw [hreports]
  · exact fun report hreport => ⟨report, hreport, .same report⟩
  · exact fun report hreport => .inl ⟨report, hreport, .same report⟩
  · exact id

theorem filesKept_refl (files : Files) : FilesKept files files := fun _ _ h => h

/-- A table whose row with one key is moved. -/
theorem moves_modify {s s' : State} (hsound : Sound root sha256 s) {id : UUID} {found : Report}
    {f : Report → Report} (hfound : Table.find? Report.reportId s.reports id = some found)
    (hmove : Move root sha256 s'.files found (f found))
    (hreports : s'.reports = Table.modify Report.reportId s.reports id f)
    (hfiles : FilesKept s.files s'.files) : Moves root sha256 s s' := by
  obtain ⟨hmem, hkey⟩ := Table.find?_eq_some hfound
  have hrow : ∀ report ∈ s.reports,
      Move root sha256 s'.files report (if report.reportId = id then f report else report) := by
    intro report hreport
    split
    · rename_i hid
      rw [Table.eq_of_key hsound.keys hreport hmem (hid.trans hkey.symm)]
      exact hmove
    · exact .same report
  refine ⟨hfiles, ?_, ?_, ?_⟩ <;> rw [hreports]
  · exact fun report hreport => ⟨_, Table.mem_modify.mpr ⟨report, hreport, rfl⟩, hrow report hreport⟩
  · intro report' hreport'
    obtain ⟨report, hreport, rfl⟩ := Table.mem_modify.mp hreport'
    exact .inl ⟨report, hreport, hrow report hreport⟩
  · intro hkeys
    rw [Table.modify, Table.map_keys fun report hreport => (hrow report hreport).key]
    exact hkeys

/-- The report is rendered and stored, or the files are as before. -/
theorem generateReport_cases (root : Root) (sha256 : ByteArray → String) (s : State)
    (reportId : UUID) (pdf : Except ReportError ByteArray) (fault : Option SystemFault) (now : Int) :
    (∃ error, generateReport root sha256 s reportId pdf fault now = (s.files, .error error)) ∨
      ∃ found target data files, Table.find? Report.reportId s.reports reportId = some found ∧
        found.status = .generating ∧
        pathOf root (storageReference found.organizationId reportId) = .ok target ∧
        FileTree.publish? s.files target data = some files ∧
        generateReport root sha256 s reportId pdf fault now =
          (files, .ok (Table.modify Report.reportId s.reports reportId
            (readyReport sha256 data (storageReference found.organizationId reportId) now))) := by
  unfold generateReport
  cases hfind : Table.find? Report.reportId s.reports reportId with
  | none => exact .inl ⟨_, rfl⟩
  | some found =>
    dsimp only
    split_ifs with hstatus hids
    · exact .inl ⟨_, rfl⟩
    · exact .inl ⟨_, rfl⟩
    · cases pdf with
      | error error => exact .inl ⟨_, rfl⟩
      | ok data =>
        dsimp only
        unfold write
        dsimp only
        cases hpath : pathOf root (storageReference found.organizationId reportId) with
        | error error => exact .inl ⟨_, rfl⟩
        | ok target =>
          cases fault with
          | some fault => cases fault <;> exact .inl ⟨_, rfl⟩
          | none =>
            dsimp only
            cases hpublish : FileTree.publish? s.files target data with
            | none => exact .inl ⟨_, rfl⟩
            | some files =>
              exact .inr ⟨found, target, data, files, rfl, not_not.mp hstatus, hpath, hpublish, rfl⟩

theorem moves_generate {s : State} (hsound : Sound root sha256 s) (reportId : UUID)
    (pdf : Except ReportError ByteArray) (fault : Option SystemFault) (now : Int) (commits : Bool) :
    Moves root sha256 s (step root sha256 s (.generate reportId pdf fault now commits)) := by
  rw [step]
  obtain ⟨error, hresult⟩ | ⟨found, target, data, files, hfind, hstatus, hpath, hpublish, hresult⟩ :=
    generateReport_cases root sha256 s reportId pdf fault now <;> rw [hresult]
  · exact moves_same rfl (filesKept_refl _)
  · obtain ⟨-, hkey⟩ := Table.find?_eq_some hfind
    have hkept : FilesKept s.files files := fun _ _ h => FileTree.content_publish hpublish h
    dsimp only
    split
    · refine moves_modify hsound hfind (.ready hstatus ?_) rfl hkept
      refine ⟨target, by rw [readyReport, hkey, hpath], ?_, ?_, rfl, rfl⟩
      · rw [(FileTree.publish?_eq_some.mp hpublish).2, FileTree.content_cons, if_pos rfl]
      · rw [readyReport, hkey]
    · exact moves_same rfl hkept

theorem moves_step {s : State} (hsound : Sound root sha256 s) (event : Event) :
    Moves root sha256 s (step root sha256 s event) := by
  cases event with
  | evaluate audits findings => exact moves_same rfl (filesKept_refl _)
  | create user auditId reportId jobId now =>
    rw [step]
    unfold createReport
    split
    · rename_i s' report hcreate
      split at hcreate
      · cases hcreate
      · split at hcreate
        · cases hcreate
        · dsimp only at hcreate
          split at hcreate
          · rename_i reports jobs hinsert _
            cases hcreate
            obtain ⟨rfl, -⟩ := Table.insert?_eq_some hinsert
            refine ⟨filesKept_refl _, ?_, ?_, fun hkeys => Table.insert?_nodup hkeys hinsert⟩
            · exact fun report hreport => ⟨report, List.mem_append_left _ hreport, .same report⟩
            · intro report' hreport'
              obtain hold | hnew := List.mem_append.mp hreport'
              · exact .inl ⟨report', hold, .same report'⟩
              · rw [List.mem_singleton.mp hnew]
                exact .inr ⟨rfl, rfl, rfl, rfl⟩
          · cases hcreate
          · cases hcreate
    · exact moves_same rfl (filesKept_refl _)
  | markGenerating reportId =>
    rw [step]
    unfold markGenerating
    cases hfind : Table.find? Report.reportId s.reports reportId with
    | none => exact moves_same rfl (filesKept_refl _)
    | some found =>
      dsimp only
      split_ifs with hstatus
      · exact moves_same rfl (filesKept_refl _)
      · exact moves_modify hsound hfind (.mark (not_not.mp hstatus)) rfl (filesKept_refl _)
  | generate reportId pdf fault now commits =>
    exact moves_generate hsound reportId pdf fault now commits
  | fail reportId =>
    rw [step, failReport]
    cases hfind : Table.find? Report.reportId s.reports reportId with
    | none =>
      refine moves_same ?_ (filesKept_refl _)
      have hnone : ∀ report ∈ s.reports, report.reportId ≠ reportId := by
        simpa [Table.find?] using hfind
      refine (List.map_congr_left fun report hreport => ?_).trans (List.map_id _)
      rw [if_neg (hnone report hreport), id]
    | some found =>
      refine moves_modify hsound hfind ?_ rfl (filesKept_refl _)
      by_cases h : found.status = .pending ∨ found.status = .generating
      · exact .fail h
      · rw [failedReport, if_neg h]
        exact .same found

theorem sound_empty : Sound root sha256 {} := by
  refine ⟨List.nodup_nil, fun report hreport => ?_⟩
  cases hreport

theorem sound_step {s : State} (hsound : Sound root sha256 s) (event : Event) :
    Sound root sha256 (step root sha256 s event) := by
  have hmoves := moves_step hsound event
  refine ⟨hmoves.keys hsound.keys, fun report' hreport' => ?_⟩
  obtain ⟨report, hreport, hmove⟩ | ⟨hpending, hblank⟩ := hmoves.rows report' hreport'
  · exact hmove.sound hmoves.files (hsound.rows report hreport)
  · refine ⟨fun hready => ?_, fun _ => hblank⟩
    rw [hpending] at hready
    cases hready

/-- Stored bytes and settled reports stay. -/
structure Keeps (s s' : State) : Prop where
  files : FilesKept s.files s'.files
  settled : ∀ report ∈ s.reports, Settled report → report ∈ s'.reports

theorem keeps_step {s : State} (hsound : Sound root sha256 s) (event : Event) :
    Keeps s (step root sha256 s event) := by
  have hmoves := moves_step hsound event
  refine ⟨hmoves.files, fun report hreport hsettled => ?_⟩
  obtain ⟨report', hreport', hmove⟩ := hmoves.kept report hreport
  exact hmove.settled hsettled ▸ hreport'

theorem keeps_refl (s : State) : Keeps s s := ⟨filesKept_refl _, fun _ h _ => h⟩

theorem Keeps.trans {a b c : State} (hab : Keeps a b) (hbc : Keeps b c) : Keeps a c :=
  ⟨fun target data h => hbc.files target data (hab.files target data h),
    fun report h hsettled => hbc.settled report (hab.settled report h hsettled) hsettled⟩

theorem keeps_run {s : State} (hsound : Sound root sha256 s) (events : List Event) :
    Keeps s (Runs.run (step root sha256) s events) :=
  Runs.run_relates keeps_refl (fun _ _ _ => Keeps.trans)
    (fun _ event h => ⟨sound_step h event, keeps_step h event⟩) hsound events

theorem sound_run {s : State} (hsound : Sound root sha256 s) (events : List Event) :
    Sound root sha256 (Runs.run (step root sha256) s events) :=
  Runs.run_invariant (fun s event (h : Sound root sha256 s) => sound_step h event) hsound events

theorem download_owned {s : State} (hsound : Sound root sha256 s) (hreport : report ∈ s.reports)
    {user : User} (huser : user.organizationId = report.organizationId) :
    owned Report.reportId Report.organizationId s.reports report.reportId user.organizationId =
      some report := by
  rw [huser]
  exact Audits.owned_of_mem hsound.keys hreport

/-- The bytes of a ready report pass the verification of the download. -/
theorem download_ready {s : State} (hsound : Sound root sha256 s) (hreport : report ∈ s.reports)
    (hready : report.status = .ready) {data : ByteArray}
    (hholds : Holds root sha256 s.files report data) {user : User}
    (huser : user.organizationId = report.organizationId) :
    download root sha256 s user report.reportId false = .ok data := by
  obtain ⟨target, hpath, hcontent, hreference, hsize, hdigest⟩ := hholds
  have hread : read root s.files (storageReference report.organizationId report.reportId) false =
      .ok data := by
    simp only [read, except_bind_eq_ok]
    exact ⟨target, hpath, by simp [hcontent]⟩
  have hne : storageReference report.organizationId report.reportId ≠ "" := by
    intro hempty
    have hlist := congrArg String.toList hempty
    rw [storageReference, Text.join, String.toList_intercalate] at hlist
    cases hlist
  unfold download
  rw [download_owned hsound hreport huser]
  dsimp only
  rw [hready, hreference, Option.filter_some, if_pos (by simpa using hne)]
  dsimp only
  rw [hread]
  dsimp only
  rw [if_neg (by simp [hsize, hdigest])]

/-- A report that is ready or failed stays as it is. When it is ready, its organization
downloads the same verified bytes from then on; when it failed, there is nothing to download. -/
theorem reports_final (root : Root) (sha256 : ByteArray → String) (first second : List Event)
    (report : Report) (hreport : report ∈ (Runs.run (step root sha256) {} first).reports)
    (hsettled : report.status = .ready ∨ report.status = .failed) :
    report ∈ (Runs.run (step root sha256) {} (first ++ second)).reports ∧
      (report.status = .ready → ∃ data, report.sha256 = some (sha256 data) ∧
        ∀ user, user.organizationId = report.organizationId →
          download root sha256 (Runs.run (step root sha256) {} first) user report.reportId false =
            .ok data ∧
          download root sha256 (Runs.run (step root sha256) {} (first ++ second)) user
            report.reportId false = .ok data) ∧
      (report.status = .failed → ∀ user fault, user.organizationId = report.organizationId →
        download root sha256 (Runs.run (step root sha256) {} (first ++ second)) user
          report.reportId fault = .error (.http 409 "Report is not ready")) ∧
      ∀ user fault, user.organizationId ≠ report.organizationId →
        download root sha256 (Runs.run (step root sha256) {} (first ++ second)) user
          report.reportId fault = .error (.http 404 "Report not found") := by
  have hempty : Sound root sha256 {} := sound_empty
  have hsound := sound_run hempty first
  have hlast := sound_run hsound second
  have hkeeps := keeps_run hsound second
  have hstays := hkeeps.settled report hreport hsettled
  rw [← Runs.run_append] at hlast hkeeps hstays
  refine ⟨hstays, ?_, ?_, ?_⟩
  · intro hready
    obtain ⟨data, hholds⟩ := (hsound.rows report hreport).ready hready
    obtain ⟨-, -, -, -, -, hdigest⟩ := id hholds
    exact ⟨data, hdigest, fun user huser => ⟨download_ready hsound hreport hready hholds huser,
      download_ready hlast hstays hready (hholds.kept hkeeps.files) huser⟩⟩
  · intro hfailed user fault huser
    unfold download
    rw [download_owned hlast hstays huser]
    dsimp only
    rw [hfailed]
  · intro user fault huser
    unfold download
    have hnone : owned Report.reportId Report.organizationId
        (Runs.run (step root sha256) {} (first ++ second)).reports report.reportId
          user.organizationId = none := by
      rw [owned, Table.find?_of_mem hlast.keys hstays]
      simpa using fun heq => huser heq.symm
    rw [hnone]

def plainRoot : Root := { directory := ["srv", "reports"], resolve := some }

def sizeDigest (data : ByteArray) : String := toString data.size

def completedAudit : Audit where
  auditId := UUID.ofNat 3
  organizationId := UUID.ofNat 2
  deviceId := UUID.ofNat 4
  snapshotId := UUID.ofNat 5
  revisionNumber := 1
  reevaluationReason := .initial
  status := .completed
  selectedFrameworks := []
  versionRefs := []
  createdBy := none

/-- A report is requested, rendered and stored. -/
def renderedReport : List Event :=
  [.evaluate [completedAudit] [(UUID.ofNat 3, UUID.ofNat 6)],
    .create ⟨UUID.ofNat 1, UUID.ofNat 2, .analyst⟩ (UUID.ofNat 3) (UUID.ofNat 7) (UUID.ofNat 8) 0,
    .markGenerating (UUID.ofNat 7), .generate (UUID.ofNat 7) (.ok ⟨#[37, 80]⟩) none 1 true]

def twoByteReport : Report :=
  readyReport sizeDigest ⟨#[37, 80]⟩ (storageReference (UUID.ofNat 2) (UUID.ofNat 7)) 1
    { reportId := UUID.ofNat 7, organizationId := UUID.ofNat 2, deviceId := UUID.ofNat 4,
      auditId := UUID.ofNat 3, auditSchemaVersion := "1.0.0",
      sourceFindingIds := [(UUID.ofNat 6).str], generatedBy := some (UUID.ofNat 1) }

/-- A late failure of its handler does not change a ready report. -/
theorem reports_final_rendered :
    twoByteReport ∈ (Runs.run (step plainRoot sizeDigest) {}
        (renderedReport ++ [.fail (UUID.ofNat 7)])).reports ∧
      (twoByteReport.status = .ready → ∃ data, twoByteReport.sha256 = some (sizeDigest data) ∧
        ∀ user, user.organizationId = twoByteReport.organizationId →
          download plainRoot sizeDigest (Runs.run (step plainRoot sizeDigest) {} renderedReport)
            user twoByteReport.reportId false = .ok data ∧
          download plainRoot sizeDigest (Runs.run (step plainRoot sizeDigest) {}
            (renderedReport ++ [.fail (UUID.ofNat 7)])) user twoByteReport.reportId false =
              .ok data) ∧
      (twoByteReport.status = .failed → ∀ user fault,
        user.organizationId = twoByteReport.organizationId →
        download plainRoot sizeDigest (Runs.run (step plainRoot sizeDigest) {}
          (renderedReport ++ [.fail (UUID.ofNat 7)])) user twoByteReport.reportId fault =
            .error (.http 409 "Report is not ready")) ∧
      ∀ user fault, user.organizationId ≠ twoByteReport.organizationId →
        download plainRoot sizeDigest (Runs.run (step plainRoot sizeDigest) {}
          (renderedReport ++ [.fail (UUID.ofNat 7)])) user twoByteReport.reportId fault =
            .error (.http 404 "Report not found") :=
  reports_final plainRoot sizeDigest renderedReport [.fail (UUID.ofNat 7)] twoByteReport
    (by decide +kernel) (.inl rfl)

end ConfigAuditor.Reporting.Reports
