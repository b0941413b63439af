import ConfigAuditor.Parsing.BannerNodes
import ConfigAuditor.ProfileResolution.DataLines

/-!
# Two readings of banners

Profile resolution and the indentation reader both pass over the banners of a configuration. The
reader takes a delimiter of one or two characters, profile resolution the third word of the line,
so they agree only where the word cuts the banners of the reader into whole banners.
-/
namespace ConfigAuditor.ProfileResolution.BannerAgreement

open Library Parsing IndentationCli Spans BannerNodes

/-- What profile resolution makes of a part of a source line, a line of `str.splitlines`, is what
the reader makes of the line: it is text of a banner for both or for neither. -/
def Agreement (document : EvidenceDocument) (ir : StructuralIR) : Prop :=
  ∀ i line, (Text.lines document.text.toList)[i]? = some line →
    ∀ k < (Text.splitLines line).length,
      ((lineUses document)[(((Text.lines document.text.toList).take i).flatMap
          Text.splitLines).length + k]? = some .banner ↔
        ∃ node ∈ ir.nodes, bannerNode node = true ∧ (spanOf node).covers (i + 1))

/-- Neither reading meets a limit. -/
structure WithinLimits (document : EvidenceDocument) (ir : StructuralIR) : Prop where
  lines : (Text.splitLines document.text.toList).length ≤ maxLinesPerArtifact
  characters : ∀ line ∈ Text.splitLines document.text.toList, line.length ≤ maxLineCharacters
  reader : ir.truncated = false

/-- The source lines, each with whether it belongs to a banner of the reader, and its parts. -/
def bannerRows (content : List Char) : List (Bool × List (List Char)) :=
  (bannerMarks none (sourceLines content)).zip ((Text.lines content).map Text.splitLines)

theorem bannerRows_parts (content : List Char) :
    (bannerRows content).map (·.2) = (Text.lines content).map Text.splitLines := by
  rw [bannerRows, List.map_snd_zip]
  simp [sourceLines]

theorem getElem?_bannerRows {content : List Char} {i : Nat} {row : Bool × List (List Char)} :
    (bannerRows content)[i]? = some row ↔
      (bannerMarks none (sourceLines content))[i]? = some row.1 ∧
        ∃ line, (Text.lines content)[i]? = some line ∧ Text.splitLines line = row.2 := by
  rw [bannerRows, List.getElem?_zip_eq_some, List.getElem?_map, Option.map_eq_some_iff]

theorem splitLines_ne_nil_of_mem {content line : List Char} (h : line ∈ Text.lines content) :
    Text.splitLines line ≠ [] := by
  obtain ⟨c, cs, rfl⟩ := List.exists_cons_of_ne_nil (Text.ne_nil_of_mem_lines h)
  exact Text.splitLines_ne_nil

/-- Within the limits the uses of the lines are the marks of the third words. -/
theorem lineUses_marks {document : EvidenceDocument} {ir : StructuralIR}
    (htype : document.evidenceType = .configuration) (hlimits : WithinLimits document ir) :
    (lineUses document).map (· == .banner) =
      wordScanner.marks none (Text.splitLines document.text.toList) := by
  have hlines : boundedLines document = Text.splitLines document.text.toList := by
    rw [boundedLines, List.take_of_length_le hlimits.lines]
    conv_rhs => rw [← List.map_id (Text.splitLines document.text.toList)]
    exact List.map_congr_left fun line hline =>
      List.take_of_length_le (hlimits.characters line hline)
  rw [lineUses, if_pos htype, configurationUses_banner, hlines]

/-- Both readings of a configuration within the limits agree exactly when the third words cut the
banners of the reader into whole banners, and open nothing elsewhere. -/
theorem banner_agreement_iff (sha256 : String → String) {document : EvidenceDocument}
    {request : StructuralParseRequest} (htext : request.content = document.text)
    (htype : document.evidenceType = .configuration)
    (hlimits : WithinLimits document (parse sha256 request)) :
    Agreement document (parse sha256 request) ↔
      wordScanner.WholeBlocks (bannerRows document.text.toList) := by
  have hall : (bannerRows document.text.toList).flatMap (·.2) =
      Text.splitLines document.text.toList := by
    rw [List.flatMap_def, bannerRows_parts, ← List.flatMap_def, ← Text.splitLines_eq_flatMap]
  have hbefore : ∀ i, ((bannerRows document.text.toList).take i).flatMap (·.2) =
      ((Text.lines document.text.toList).take i).flatMap Text.splitLines := by
    intro i
    rw [List.flatMap_def, List.map_take, bannerRows_parts, ← List.map_take, ← List.flatMap_def]
  have hparts : ∀ row ∈ bannerRows document.text.toList, row.2 ≠ [] := by
    intro row hrow
    have hmem := List.mem_map_of_mem (f := (·.2)) hrow
    rw [bannerRows_parts] at hmem
    obtain ⟨line, hline, hsplit⟩ := List.mem_map.mp hmem
    rw [← hsplit]
    exact splitLines_ne_nil_of_mem hline
  have hmarks := lineUses_marks htype hlimits
  -- a part of a source line has a use, which the marks of the third words tell
  have hplace : ∀ i line, (Text.lines document.text.toList)[i]? = some line →
      ∀ k < (Text.splitLines line).length, ∀ mark,
        ((wordScanner.marks none (Text.splitLines document.text.toList))[
          (((Text.lines document.text.toList).take i).flatMap Text.splitLines).length + k]? =
            some mark ↔
        ((lineUses document)[(((Text.lines document.text.toList).take i).flatMap
          Text.splitLines).length + k]? = some .banner ↔ mark = true)) := by
    intro i line hline k hk mark
    obtain ⟨hi, rfl⟩ := List.getElem?_eq_some_iff.mp hline
    have hlength := congrArg List.length hmarks
    rw [List.length_map, Scanner.length_marks, Text.splitLines_eq_flatMap] at hlength
    have hsplit := List.take_append_drop i (Text.lines document.text.toList)
    rw [List.drop_eq_getElem_cons hi] at hsplit
    rw [← hsplit, List.flatMap_append, List.flatMap_cons, List.length_append,
      List.length_append] at hlength
    obtain ⟨use, huse⟩ : ∃ use, (lineUses document)[(((Text.lines document.text.toList).take
        i).flatMap Text.splitLines).length + k]? = some use :=
      ⟨_, List.getElem?_eq_getElem (by omega)⟩
    rw [← hmarks, List.getElem?_map, huse, Option.map_some, Option.some.injEq, Option.some.injEq]
    cases mark with
    | true => simp
    | false => simp
  rw [← Scanner.agrees_iff hparts, Scanner.agrees_iff_getElem?, hall]
  constructor
  · intro h i row hrow k hk
    obtain ⟨hmark, line, hline, hsplit⟩ := getElem?_bannerRows.mp hrow
    rw [← hsplit] at hk
    rw [hbefore, hplace i line hline k hk, h i line hline k hk,
      ← parse_banner hlimits.reader, htext, hmark, Option.some.injEq]
  · intro h i line hline k hk
    obtain ⟨mark, hmark⟩ : ∃ mark,
        (bannerMarks none (sourceLines document.text.toList))[i]? = some mark := by
      obtain ⟨hi, -⟩ := List.getElem?_eq_some_iff.mp hline
      refine ⟨_, List.getElem?_eq_getElem ?_⟩
      rw [length_bannerMarks, sourceLines, List.length_map]
      exact hi
    have hrow := h i (mark, Text.splitLines line)
      (getElem?_bannerRows.mpr ⟨hmark, line, hline, rfl⟩) k hk
    rw [hbefore, hplace i line hline k hk] at hrow
    rw [hrow, ← parse_banner hlimits.reader, htext, hmark, Option.some.injEq]

def bannerSource : ArtifactProvenance :=
  { artifactId := UUID.ofNat 1, snapshotId := none, sourceLabel := "running-config" }

def bannerDocument (text : String) : EvidenceDocument :=
  { artifactId := UUID.ofNat 1, snapshotId := UUID.ofNat 2, evidenceType := .configuration,
    originalFilename := "running-config", text }

def bannerRequest (text : String) : StructuralParseRequest :=
  { content := text, source := bannerSource }

/-- A banner of three lines, within the limits. -/
theorem banner_agreement_iff_login :
    Agreement (bannerDocument "banner login ^C\nhello\n^C\nhostname r1\n")
        (parse (tabulated []) (bannerRequest "banner login ^C\nhello\n^C\nhostname r1\n")) ↔
      wordScanner.WholeBlocks
        (bannerRows "banner login ^C\nhello\n^C\nhostname r1\n".toList) :=
  banner_agreement_iff (tabulated []) rfl rfl
    ⟨by decide +kernel, by decide +kernel, by decide +kernel⟩

/-- `#Hello#` is one word: the banner ends in its line for the reader, and for profile resolution
the line after it is banner text. -/
theorem hostname_after_banner_hidden :
    WithinLimits (bannerDocument "banner motd #Hello#\nhostname r1\n")
        (parse (tabulated []) (bannerRequest "banner motd #Hello#\nhostname r1\n")) ∧
      ¬Agreement (bannerDocument "banner motd #Hello#\nhostname r1\n")
        (parse (tabulated []) (bannerRequest "banner motd #Hello#\nhostname r1\n")) := by
  refine ⟨⟨by decide +kernel, by decide +kernel, by decide +kernel⟩, fun h => ?_⟩
  have hline := h 1 "hostname r1\n".toList (by decide +kernel) 0 (by decide +kernel)
  obtain ⟨node, hnode, hbanner, hcovers⟩ := hline.mp (by decide +kernel)
  have hnone : ∀ node ∈ (parse (tabulated [])
      (bannerRequest "banner motd #Hello#\nhostname r1\n")).nodes, bannerNode node = true →
        ¬(node.sourceStart ≤ 2 ∧ 2 ≤ node.sourceEnd) := by
    decide +kernel
  exact hnone node hnode hbanner hcovers

end ConfigAuditor.ProfileResolution.BannerAgreement
