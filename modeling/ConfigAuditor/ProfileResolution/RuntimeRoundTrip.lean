import ConfigAuditor.ProfileResolution.DocumentOrder
import ConfigAuditor.ProfileResolution.LongVersions
import ConfigAuditor.ProfileResolution.RuntimeProfiles

/-!
# Publishing and reloading a profile

A published profile is checked once more on every use, and then meets the evidence. For every
profile there is evidence on which `resolve_profile` raises: a document with its tokens and a
version whose number is too long for `int`.
-/
namespace ConfigAuditor.ProfileResolution.RuntimeRoundTrip

open Library SecurityModel Regex LongVersions DocumentOrder RuntimeProfiles

/-- The tokens, each on a line of its own. -/
def tokenLines (tokens : List String) : List Char := tokens.flatMap fun token => '\n' :: token.toList

/-- The word, then empty lines up to the limit of lines, then the version and the tokens. -/
def longText (tokens : List String) : List Char :=
  versionText maxLinesPerArtifact PyValue.maxStrDigits (tokenLines tokens)

def longDocument (evidenceType : ArtifactEvidenceType) (tokens : List String) : EvidenceDocument where
  artifactId := .ofNat 1
  snapshotId := .ofNat 9
  evidenceType := evidenceType
  originalFilename := "device.txt"
  text := String.ofList (longText tokens)

theorem head?_tokenLines (tokens : List String) : ∀ x ∈ (tokenLines tokens).head?, x = '\n' := by
  cases tokens with
  | nil => nofun
  | cons token rest =>
    intro x hx
    rw [tokenLines, List.flatMap_cons, List.cons_append, List.head?_cons, Option.mem_def,
      Option.some.injEq] at hx
    exact hx.symm

/-- A token has only characters of its classes. -/
theorem not_mem_token {token : String} (h : isToken token = true) : '<' ∉ token.toList := by
  unfold isToken fits at h
  split at h
  · cases h
  · next c cs hcs =>
    simp only [Bool.and_eq_true, List.all_eq_true] at h
    rw [hcs, List.mem_cons, not_or]
    refine ⟨?_, ?_⟩
    · rintro rfl
      exact absurd h.1.1 (by decide)
    · intro hmem
      exact absurd (h.2 _ hmem) (by decide)

theorem lessThan_not_mem {tokens : List String} (htokens : ∀ token ∈ tokens, isToken token = true) :
    '<' ∉ longText tokens := by
  have hlines : '<' ∉ tokenLines tokens := by
    intro hmem
    obtain ⟨token, htoken, hline⟩ := List.mem_flatMap.mp hmem
    rcases List.mem_cons.mp hline with hfeed | hchar
    · exact absurd hfeed (by decide)
    · exact not_mem_token (htokens token htoken) hchar
  simp only [longText, versionText, longVersion, List.mem_append, List.mem_cons,
    List.mem_replicate, not_or]
  refine ⟨by decide, ?_, ⟨by decide, by decide, ?_⟩, hlines⟩
  · rintro ⟨-, h⟩
    exact absurd h (by decide)
  · rintro ⟨-, h⟩
    exact absurd h (by decide)

/-- The version is within the text that is searched. -/
theorem take_longText (tokens : List String) :
    ∃ rest, (∀ x ∈ rest.head?, x = '\n') ∧
      (longText tokens).take (maxLineCharacters * maxLinesPerArtifact) =
        versionText maxLinesPerArtifact PyValue.maxStrDigits rest := by
  have hlength : (versionText maxLinesPerArtifact PyValue.maxStrDigits []).length ≤
      maxLineCharacters * maxLinesPerArtifact := by
    rw [length_versionText]
    decide
  refine ⟨(tokenLines tokens).take (maxLineCharacters * maxLinesPerArtifact -
    (versionText maxLinesPerArtifact PyValue.maxStrDigits []).length), ?_, ?_⟩
  · intro x hx
    rw [List.head?_take] at hx
    split at hx
    · cases hx
    · exact head?_tokenLines tokens x hx
  · rw [longText, ← List.nil_append (tokenLines tokens), versionText_append, List.take_append,
      List.take_of_length_le hlength, ← versionText_append, List.nil_append, List.nil_append]

theorem splitLines_versionText (n m : Nat) (rest : List Char) :
    Text.splitLines (versionText (n + 1) m rest) =
      ['v', 'e', 'r', 's', 'i', 'o', 'n'] ::
        (List.replicate n [] ++ Text.splitLines (longVersion m ++ rest)) := by
  rw [versionText, List.replicate_succ, List.cons_append]
  simp only [List.cons_append, List.nil_append]
  rw [← Text.splitLines_lineFeeds]
  rfl

/-- Within the limit there is the word, and nothing. -/
theorem mem_boundedLines {evidenceType : ArtifactEvidenceType} {tokens : List String}
    {line : List Char} (h : line ∈ boundedLines (longDocument evidenceType tokens)) :
    line = [] ∨ line = ['v', 'e', 'r', 's', 'i', 'o', 'n'] := by
  obtain ⟨whole, hwhole, rfl⟩ := List.mem_map.mp h
  have htake : (Text.splitLines (longDocument evidenceType tokens).text.toList).take
      maxLinesPerArtifact =
      ['v', 'e', 'r', 's', 'i', 'o', 'n'] :: List.replicate (maxLinesPerArtifact - 1) [] := by
    rw [longDocument, String.toList_ofList]
    rw [longText, show maxLinesPerArtifact = (maxLinesPerArtifact - 1) + 1 from rfl,
      splitLines_versionText, List.take_succ_cons, List.take_left']
    · rfl
    · exact List.length_replicate
  rw [htake] at hwhole
  rcases List.mem_cons.mp hwhole with rfl | hempty
  · right
    rfl
  · left
    rw [List.eq_of_mem_replicate hempty]
    rfl

theorem mem_dataLines {document : EvidenceDocument} {number : Nat} {line : List Char}
    (h : (number, line) ∈ dataLines document) : line ∈ boundedLines document := by
  obtain ⟨⟨numbered, use⟩, hfiltered, hnumbered⟩ := List.mem_map.mp h
  have hzip := (List.of_mem_zip (List.mem_of_mem_filter hfiltered)).1
  dsimp only at hnumbered
  rw [hnumbered] at hzip
  exact (List.of_mem_zip hzip).2

section Reading

variable (p : Platform)

/-- No pattern is found in the word, or in nothing. -/
theorem readLine_nothing (document : EvidenceDocument) (number : Nat) {line : List Char}
    (hline : line = [] ∨ line = ['v', 'e', 'r', 's', 'i', 'o', 'n']) :
    readLine p document number line {} = ({}, []) := by
  have hcisco : readCisco p document number line {} = ({}, []) := by
    rcases hline with rfl | rfl <;> rfl
  have hjunos : readJunos p document number line {} = ({}, []) := by
    rcases hline with rfl | rfl <;> rfl
  have hfortios : readFortios p document number line {} = ({}, []) := by
    rcases hline with rfl | rfl <;> rfl
  have hstatus : readFortiosStatus p number line {} = ({}, []) := by
    rcases hline with rfl | rfl <;> rfl
  have harista : readArista p document number line {} = ({}, []) := by
    unfold readArista
    split
    · rcases hline with rfl | rfl <;> rfl
    · rfl
  have hhardware : readHardware p document number line {} = ({}, []) := by
    unfold readHardware
    split
    · rfl
    · rcases hline with rfl | rfl <;> rfl
  have hsyntax : readSyntax p line {} = ({}, []) := by
    rcases hline with rfl | rfl <;> rfl
  simp only [readLine, LineReader.andThen, hcisco, hjunos, hfortios, hstatus, harista, hhardware,
    hsyntax, List.append_nil]

/-- Nothing is found in such lines, and nothing is remembered. -/
theorem readLines_nothing (document : EvidenceDocument) {lines : List (Nat × List Char)}
    (hlines : ∀ line ∈ lines, line.2 = [] ∨ line.2 = ['v', 'e', 'r', 's', 'i', 'o', 'n']) :
    readLines p document lines {} = ({}, []) := by
  induction lines with
  | nil => rfl
  | cons line rest ih =>
    obtain ⟨number, line⟩ := line
    have hline : readLine p document number line {} = ({}, []) :=
      readLine_nothing p document number (hlines (number, line) List.mem_cons_self)
    rw [readLines, LineReader.andThen, hline]
    dsimp only
    rw [ih fun other hother => hlines other (List.mem_cons_of_mem _ hother)]
    rfl

theorem identitiesOf_longDocument (evidenceType : ArtifactEvidenceType) (tokens : List String) :
    identitiesOf (documentFindings p (longDocument evidenceType tokens)) = [] := by
  have hread : readLines p (longDocument evidenceType tokens)
      (dataLines (longDocument evidenceType tokens)) {} = ({}, []) :=
    readLines_nothing p _ fun line hline => mem_boundedLines (mem_dataLines hline)
  have hfilename : identitiesOf (filenameFindings p (longDocument evidenceType tokens)) = [] := by
    unfold filenameFindings
    split <;> rfl
  unfold documentFindings
  rw [hread]
  change identitiesOf (_ ++ [] ++ [] ++ [] ++ []) = []
  simp only [List.append_nil]
  exact hfilename

/-- The evidence names no platform. -/
theorem explicitIdentities_long (evidenceType : ArtifactEvidenceType) {tokens : List String}
    (htokens : ∀ token ∈ tokens, isToken token = true) (manifests : List DeviceManifest) :
    explicitIdentities p ⟨[longDocument evidenceType tokens], []⟩ manifests = [] := by
  have htext : (longDocument evidenceType tokens).text.toList.contains '<' = false := by
    rw [longDocument, String.toList_ofList, List.contains_eq_mem, decide_eq_false_iff_not]
    exact lessThan_not_mem htokens
  rw [explicitIdentities, identitiesOf_allFindings]
  simp only [lineFindings, List.flatMap_cons, List.flatMap_nil, List.append_nil,
    identitiesOf_longDocument, documentIdentities, htext, List.nil_append]
  rfl

theorem caseFold_append (first second : List Char) :
    p.caseFold (first ++ second) = p.caseFold first ++ p.caseFold second :=
  List.flatMap_append

/-- Every token is in the text, in any case. -/
theorem occursIn_long {tokens : List String} {token : String} (h : token ∈ tokens) :
    Text.occursIn (p.caseFold token.toList) (p.caseFold (longText tokens)) = true := by
  obtain ⟨before, after, rfl⟩ := List.append_of_mem h
  have hlines : tokenLines (before ++ token :: after) =
      (tokenLines before ++ ['\n']) ++ (token.toList ++ tokenLines after) := by
    simp [tokenLines]
  rw [longText, hlines, versionText_append, caseFold_append, caseFold_append p token.toList]
  exact Text.occursIn_append _ _ _

theorem runtimeVersion_long {manifest : DeviceManifest} {evidenceType : ArtifactEvidenceType}
    (htokens : manifest.detectionTokens ≠ [])
    (htype : evidenceType ∈ manifest.acceptedEvidenceTypes) :
    runtimeVersion p manifest (longDocument evidenceType manifest.detectionTokens) =
      some (String.ofList (longVersion PyValue.maxStrDigits)) := by
  obtain ⟨rest, hrest, htake⟩ := take_longText manifest.detectionTokens
  have htext : (longDocument evidenceType manifest.detectionTokens).text.toList =
      longText manifest.detectionTokens := String.toList_ofList
  have hword : p.isWord 'v' = true := rfl
  have hfound := group_versionText maxLinesPerArtifact PyValue.maxStrDigits hword hrest
  rw [← htake, ← htext] at hfound
  refine runtimeVersion_eq_some p htokens htype ?_ hfound
  intro token htoken
  rw [htext]
  exact occursIn_long p htoken

/-- The runtime profiles raise, and with them profile resolution. -/
theorem resolveProfile_long {manifest : DeviceManifest} {evidenceType : ArtifactEvidenceType}
    (htokens : manifest.detectionTokens ≠ [])
    (htoken : ∀ token ∈ manifest.detectionTokens, isToken token = true)
    (htype : evidenceType ∈ manifest.acceptedEvidenceTypes) :
    resolveProfile p ⟨[longDocument evidenceType manifest.detectionTokens], []⟩ [manifest] =
      .error (.raised (.python .valueError)) := by
  have hversion := runtimeVersion_long p htokens htype
  have hraised : runtimeMatch p manifest
      (longDocument evidenceType manifest.detectionTokens) = .error (.python .valueError) := by
    unfold runtimeMatch
    rw [hversion]
    dsimp only
    rw [VersionConstraint.accepts, parse_longVersion (Nat.le_refl _)]
    rfl
  have hmatches : runtimeMatches p [longDocument evidenceType manifest.detectionTokens]
      [manifest] = .error (.python .valueError) := by
    rw [runtimeMatches_eq]
    simp only [turns, List.flatMap_cons, List.flatMap_nil, List.map_cons, List.map_nil,
      List.append_nil, List.mapM_cons, turn, hraised]
    rfl
  exact resolveProfile_raised p (explicitIdentities_long p evidenceType htoken [manifest]) hmatches

end Reading

theorem tokensOf_eq_ok {raw : List (String × PyValue)} {tokens : List String}
    (h : tokensOf raw = .ok tokens) : tokens ≠ [] ∧ ∀ token ∈ tokens, isToken token = true := by
  unfold tokensOf at h
  split at h
  · dsimp only at h
    split at h
    · split at h
      · next found hfound =>
        simp only [except_bind_eq_ok, except_pure_eq_ok, raiseIf_eq_ok, Bool.or_eq_false_iff,
          Bool.not_eq_false', List.all_eq_true, List.isEmpty_eq_false_iff] at h
        obtain ⟨-, ⟨⟨⟨hne, -⟩, hall⟩, -⟩, rfl⟩ := h
        exact ⟨hne, hall⟩
      · cases h
    · cases h
  · cases h

theorem membersOf_nil {α : Type} {names : List (String × α)} {items : List PyValue}
    (h : membersOf names items = some []) : items = [] := by
  cases items with
  | nil => rfl
  | cons item rest =>
    simp only [membersOf, List.mapM_cons, bind, Option.bind_eq_some_iff] at h
    obtain ⟨first, -, found, -, h⟩ := h
    cases h

theorem evidenceTypesOf_ne_nil {raw : List (String × PyValue)} {reader : String}
    {types : List ArtifactEvidenceType} (h : evidenceTypesOf raw reader = .ok types) :
    types ≠ [] := by
  unfold evidenceTypesOf at h
  split at h
  · next items hitems =>
    split at h
    · cases h
    · next hsome =>
      split at h
      · next found hfound =>
        simp only [except_bind_eq_ok, except_pure_eq_ok] at h
        obtain ⟨-, -, rfl⟩ := h
        rw [Ne, List.dedup_eq_nil]
        rintro rfl
        rw [membersOf_nil hfound] at hsome
        exact hsome rfl
      · cases h
  · cases h

/-- An accepted manifest has tokens to detect it by, and evidence it accepts. -/
theorem manifestOf_eq_ok {raw : List (String × PyValue)} {profile : DeviceManifest}
    (h : manifestOf raw = .ok profile) :
    profile.detectionTokens ≠ [] ∧ (∀ token ∈ profile.detectionTokens, isToken token = true) ∧
      profile.acceptedEvidenceTypes ≠ [] := by
  simp only [manifestOf, except_bind_eq_ok, except_pure_eq_ok] at h
  obtain ⟨-, -, ⟨profileId, profileVersion⟩, -, reader, -, types, htypes, tokens, htokens, -, -,
    majors, -, excluded, -, classes, -, capabilities, -, canonicalFields, -, selectors, -, vendor,
    -, productFamily, -, os, -, least, -, most, -, rfl⟩ := h
  obtain ⟨hne, hall⟩ := tokensOf_eq_ok htokens
  exact ⟨hne, hall, evidenceTypesOf_ne_nil htypes⟩

section Profiles

variable (p : Platform) (loads : String → Except LoadsError PyValue)

theorem parseRuntimeProfile_eq_ok {content : ByteArray} {profile : DeviceManifest}
    (h : parseRuntimeProfile loads content = .ok profile) :
    ∃ raw, decoded loads content = .ok (.dict raw) ∧ manifestOf raw = .ok profile := by
  simp only [parseRuntimeProfile, except_bind_eq_ok] at h
  obtain ⟨-, -, value, hvalue, h⟩ := h
  cases value with
  | dict raw => exact ⟨raw, hvalue, h⟩
  | none | bool | int | float | str | list => cases h

/-- What publication promises: the stored value of an accepted manifest is accepted again as the
same profile, it is the profile of its version, and no evidence makes profile resolution raise. -/
def Survives (content : ByteArray) : Prop :=
  ∀ raw profile, decoded loads content = .ok raw →
    parseRuntimeProfile loads content = .ok profile →
      reload loads raw = .ok profile ∧
      (∀ rows rows' organizationId,
        publishRuntimeProfile rows organizationId profile raw = .ok rows' →
          profileFor loads rows' organizationId profile.profileVersionId = .ok (some profile)) ∧
      ∀ evidence, ∃ result, resolveProfile p evidence [profile] = .ok result

/-- Every accepted manifest can meet evidence on which profile resolution raises. -/
theorem accepted_never_survives {content : ByteArray} {profile : DeviceManifest}
    (h : parseRuntimeProfile loads content = .ok profile) : ¬ Survives p loads content := by
  intro hsurvives
  obtain ⟨raw, hdecoded, hmanifest⟩ := parseRuntimeProfile_eq_ok loads h
  obtain ⟨hne, htoken, htypes⟩ := manifestOf_eq_ok hmanifest
  obtain ⟨evidenceType, htype⟩ := List.exists_mem_of_ne_nil _ htypes
  obtain ⟨-, -, hresolves⟩ := hsurvives _ profile hdecoded h
  obtain ⟨result, hresult⟩ :=
    hresolves ⟨[longDocument evidenceType profile.detectionTokens], []⟩
  rw [resolveProfile_long p hne htoken htype] at hresult
  cases hresult

end Profiles

theorem fromUTF8?_toUTF8 (text : String) : String.fromUTF8? text.toUTF8 = some text := by
  unfold String.fromUTF8?
  rw [dif_pos (show text.toUTF8.IsValidUTF8 from text.isValidUTF8)]
  rfl

/-- The JSON reader on one text. -/
def readsOnly (text : String) (value : PyValue) (asked : String) : Except LoadsError PyValue :=
  if asked = text then .ok value else .error .decodeError

theorem parseRuntimeProfile_readsOnly {text : String} {raw : List (String × PyValue)}
    (hsize : (text.toUTF8.size = 0 || 128 * 1024 < text.toUTF8.size : Bool) = false) :
    parseRuntimeProfile (readsOnly text (.dict raw)) text.toUTF8 = manifestOf raw := by
  have hdecoded : decoded (readsOnly text (.dict raw)) text.toUTF8 = .ok (.dict raw) := by
    unfold decoded
    rw [fromUTF8?_toUTF8]
    simp [readsOnly]
  unfold parseRuntimeProfile
  rw [hsize, hdecoded]
  rfl

/-- The manifest of a profile without device classes. -/
def classlessText : String :=
  "\x7b\"schema_version\": \"1.0.0\", \"profile_id\": \"runtime.stage8\", " ++
  "\"profile_version\": \"1.0.0\", \"profile_version_id\": \"runtime.stage8@1.0.0\", " ++
  "\"vendor\": \"Stage Eight\", \"product_family\": \"Runtime\", \"os\": \"TestOS\", " ++
  "\"structural_reader\": \"indentation_cli.v1\", \"evidence_types\": [\"configuration\"], " ++
  "\"device_classes\": [], \"detection\": \x7b\"tokens\": [\"StageEight\"]\x7d\x7d"

def classlessRaw : List (String × PyValue) :=
  [("schema_version", .str "1.0.0"), ("profile_id", .str "runtime.stage8"),
    ("profile_version", .str "1.0.0"), ("profile_version_id", .str "runtime.stage8@1.0.0"),
    ("vendor", .str "Stage Eight"), ("product_family", .str "Runtime"), ("os", .str "TestOS"),
    ("structural_reader", .str "indentation_cli.v1"),
    ("evidence_types", .list [.str "configuration"]), ("device_classes", .list []),
    ("detection", .dict [("tokens", .list [.str "StageEight"])])]

def classlessProfile : DeviceManifest where
  profileId := "runtime.stage8"
  profileVersionId := "runtime.stage8@1.0.0"
  structuralReaderName := some "indentation_cli.v1"
  knowledgePackName := some "runtime.runtime.stage8@1.0.0"
  profileVersion := "1.0.0"
  vendor := "Stage Eight"
  productFamily := "Runtime"
  os := "TestOS"
  versionConstraint := {}
  deviceClasses := []
  acceptedEvidenceTypes := [.configuration]
  capabilities := capabilityNames
  detectionTokens := ["StageEight"]
  structuralEvidenceTypes := [.configuration]

theorem classless_accepted :
    parseRuntimeProfile (readsOnly classlessText (.dict classlessRaw)) classlessText.toUTF8 =
      .ok classlessProfile := by
  rw [parseRuntimeProfile_readsOnly (by decide +kernel)]
  decide +kernel

theorem classless_never_survives :
    parseRuntimeProfile (readsOnly classlessText (.dict classlessRaw)) classlessText.toUTF8 =
        .ok classlessProfile ∧
      ¬ Survives {} (readsOnly classlessText (.dict classlessRaw)) classlessText.toUTF8 :=
  ⟨classless_accepted, accepted_never_survives {} _ classless_accepted⟩

/-- Evidence the profile is detected in. -/
def classlessEvidence : SnapshotEvidence where
  documents :=
    [{ artifactId := .ofNat 1, snapshotId := .ofNat 9, evidenceType := .configuration,
       originalFilename := "running.cfg", text := "version 1.0\nStageEight\n" }]

set_option maxRecDepth 4000 in
/-- A detected profile without a device class stops the resolution. -/
theorem classless_raises :
    resolveProfile {} classlessEvidence [classlessProfile] = .error .stopIteration := by
  decide +kernel

theorem publication_breaks_resolution :
    ¬ ∀ (loads : String → Except LoadsError PyValue) (content : ByteArray)
      (profile : DeviceManifest), parseRuntimeProfile loads content = .ok profile →
        Survives {} loads content := by
  intro h
  obtain ⟨raw, hdecoded, -⟩ := parseRuntimeProfile_eq_ok _ classless_accepted
  obtain ⟨-, -, hresolves⟩ :=
    h _ _ classlessProfile classless_accepted _ classlessProfile hdecoded classless_accepted
  obtain ⟨result, hresult⟩ := hresolves classlessEvidence
  rw [classless_raises] at hresult
  cases hresult

end ConfigAuditor.ProfileResolution.RuntimeRoundTrip
