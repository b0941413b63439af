import ConfigAuditor.Library.Lines
import ConfigAuditor.Library.Scanner
import ConfigAuditor.ProfileResolution.Evidence

/-!
# The lines profile resolution reads

`_data_lines` of `app.profile_resolution.resolver`: the numbered lines of a document, without the
comments and banners of a configuration.
-/
namespace ConfigAuditor.ProfileResolution

open Library SecurityModel

def maxLineCharacters : Nat := 4096
def maxLinesPerArtifact : Nat := 10000

/-- What `_data_lines` does with a line. -/
inductive LineUse where
  | data
  | passed
  | banner
  deriving DecidableEq, Repr

/-- The group of `^banner\s+\S+\s+(\S+)`. -/
def bannerWord (stripped : List Char) : Option (List Char) :=
  match Text.words stripped with
  | first :: _ :: word :: _ =>
    if first.map Text.foldCase = "banner".toList then some word else none
  | _ => none

/-- The body of the loop of `_data_lines` on a line of a configuration, with
`banner_delimiter`. -/
def readConfigurationLine (delimiter : Option (List Char)) (line : List Char) :
    Option (List Char) × LineUse :=
  let stripped := Text.stripList Text.isSpace line
  match delimiter with
  | some waited => (if Text.occursIn waited stripped then none else some waited, .banner)
  | none =>
    if stripped.isEmpty || stripped.head?.any ['!', '#', ';'].contains then (none, .passed)
    else match bannerWord stripped with
      | some word => (if Text.count word stripped < 2 then some word else none, .banner)
      | none => (none, .data)

/-- The uses of the lines of a configuration. -/
def configurationUses : Option (List Char) → List (List Char) → List LineUse
  | _, [] => []
  | delimiter, line :: rest =>
    (readConfigurationLine delimiter line).2 ::
      configurationUses (readConfigurationLine delimiter line).1 rest

/-- The lines of a document within the limits. -/
def boundedLines (document : EvidenceDocument) : List (List Char) :=
  ((Text.splitLines document.text.toList).take maxLinesPerArtifact).map (·.take maxLineCharacters)

def lineUses (document : EvidenceDocument) : List LineUse :=
  if document.evidenceType = .configuration then configurationUses none (boundedLines document)
  else (boundedLines document).map fun _ => .data

/-- `_data_lines`. -/
def dataLines (document : EvidenceDocument) : List (Nat × List Char) :=
  let numbered := (List.range' 1 (boundedLines document).length).zip (boundedLines document)
  ((numbered.zip (lineUses document)).filter (·.2 == .data)).map (·.1)

/-- Banners as `_data_lines` knows them: their third word opens and closes them. -/
def wordScanner : Scanner (List Char) (List Char) where
  opens line :=
    let stripped := Text.stripList Text.isSpace line
    if stripped.isEmpty || stripped.head?.any ['!', '#', ';'].contains then none
    else (bannerWord stripped).map fun word =>
      if Text.count word stripped < 2 then some word else none
  closes word line := Text.occursIn word (Text.stripList Text.isSpace line)

theorem readConfigurationLine_eq (delimiter : Option (List Char)) (line : List Char) :
    (readConfigurationLine delimiter line).1 = wordScanner.next delimiter line ∧
      ((readConfigurationLine delimiter line).2 = .banner ↔
        wordScanner.inBlock delimiter line = true) := by
  cases delimiter with
  | some waited => exact ⟨rfl, by simp [readConfigurationLine, Scanner.inBlock]⟩
  | none =>
    simp only [readConfigurationLine, Scanner.next, Scanner.inBlock, wordScanner]
    split
    · exact ⟨rfl, by simp⟩
    · cases hword : bannerWord (Text.stripList Text.isSpace line) with
      | none => exact ⟨rfl, by simp⟩
      | some word => exact ⟨rfl, by simp⟩

/-- The lines taken for banners are those in a block. -/
theorem configurationUses_banner (delimiter : Option (List Char)) (lines : List (List Char)) :
    (configurationUses delimiter lines).map (· == .banner) = wordScanner.marks delimiter lines := by
  induction lines generalizing delimiter with
  | nil => rfl
  | cons line rest ih =>
    obtain ⟨hnext, hbanner⟩ := readConfigurationLine_eq delimiter line
    rw [configurationUses, List.map_cons, ih, Scanner.marks, hnext, ← hnext]
    congr 1
    rw [Bool.eq_iff_iff, ← hbanner, beq_iff_eq]

end ConfigAuditor.ProfileResolution
