import Mathlib
import ConfigAuditor.Interpretation.Mapping
import ConfigAuditor.Library.LineEnds
import ConfigAuditor.Library.Utf8
import ConfigAuditor.Parsing.LosslessCli

/-!
# Excerpts of evidence

`_excerpt` of `app.findings.service`: the lines a reference names, cut from the first bytes
of the stored file and split by `str.splitlines()`, next to the lines the readers numbered.
-/
namespace ConfigAuditor.Findings

open Library Library.Utf8 SecurityModel

def maxExcerptBytes : Nat := 64 * 1024
def maxExcerptLines : Nat := 200

/-- The encodings the ingestion records. -/
inductive TextEncoding where
  | utf8
  | utf8Sig
  deriving DecidableEq, Repr

def byteOrderMark : ByteArray := ⟨#[0xef, 0xbb, 0xbf]⟩

/-- An artifact stored as UTF-8 text. Its encoding says whether a byte order mark comes first. -/
structure StoredText where
  text : String
  encoding : TextEncoding
  marked : encoding = .utf8 → text.toList.head? ≠ some (Char.ofNat 0xfeff)

/-- The stored bytes. -/
def StoredText.bytes (stored : StoredText) : ByteArray :=
  match stored.encoding with
  | .utf8 => stored.text.toUTF8
  | .utf8Sig => byteOrderMark ++ stored.text.toUTF8

/-- `storage.read_prefix(reference, max_bytes)`. -/
def readPrefix (bytes : ByteArray) (maxBytes : Nat) : ByteArray := bytes.extract 0 maxBytes

/-- `data.decode(encoding)`, `none` where it raises `UnicodeDecodeError`. -/
def decode (encoding : TextEncoding) (data : ByteArray) : Option String :=
  match encoding with
  | .utf8 => String.fromUTF8? data
  | .utf8Sig =>
    if data.extract 0 3 = byteOrderMark then String.fromUTF8? (data.extract 3 data.size)
    else String.fromUTF8? data

/-- What `_excerpt` returns: the excerpt, whether it is truncated, whether it is available. -/
structure Excerpt where
  excerpt : Option String
  truncated : Bool
  available : Bool
  deriving DecidableEq

/-- `_excerpt`; `none` is a storage error. -/
def excerpt (data : Option ByteArray) (encoding : TextEncoding) (startLine endLine : Option Nat) :
    Excerpt :=
  match data.bind (decode encoding) with
  | none => ⟨none, false, false⟩
  | some text =>
    match startLine, endLine with
    | some start, some stop =>
      if start < 1 ∨ stop < start then ⟨none, false, true⟩
      else
        let lines := (Text.splitLines text.toList).map String.ofList
        let selected := (lines.take (min stop (start - 1 + maxExcerptLines))).drop (start - 1)
        ⟨some (Text.join "\n" selected),
          decide (maxExcerptLines < stop - start + 1) || data.any (·.size == maxExcerptBytes), true⟩
    | _, _ => ⟨none, false, true⟩

/-- The excerpt that is shown for a reference into a stored artifact. -/
def StoredText.excerpt (stored : StoredText) (reference : EvidenceRef) : Excerpt :=
  Findings.excerpt (some (readPrefix stored.bytes maxExcerptBytes)) stored.encoding
    reference.startLine reference.endLine

/-- The source lines of a range, as a reader sees them. -/
def StoredText.ownLines (stored : StoredText) (first last : Nat) : List (List Char) :=
  ((Parsing.Spans.sourceLines stored.text.toList).take last).drop (first - 1)

/-- The excerpt is available and shows the lines of a range. -/
def StoredText.Shows (stored : StoredText) (reference : EvidenceRef) (first last : Nat) : Prop :=
  (stored.excerpt reference).available = true ∧
    (stored.excerpt reference).excerpt =
      some (Text.join "\n" ((stored.ownLines first last).map String.ofList))

/-- The bytes of the text among the first bytes of the file. -/
def StoredText.room (stored : StoredText) : Nat :=
  match stored.encoding with
  | .utf8 => maxExcerptBytes
  | .utf8Sig => maxExcerptBytes - 3

theorem decode_prefix (stored : StoredText) :
    decode stored.encoding (readPrefix stored.bytes maxExcerptBytes) =
      String.fromUTF8? (stored.text.toUTF8.extract 0 stored.room) := by
  unfold decode readPrefix StoredText.bytes StoredText.room
  cases stored.encoding with
  | utf8 => rfl
  | utf8Sig =>
    have hmark : byteOrderMark.size = 3 := rfl
    have hread : (byteOrderMark ++ stored.text.toUTF8).extract 0 maxExcerptBytes =
        byteOrderMark ++ stored.text.toUTF8.extract 0 (maxExcerptBytes - 3) := by
      rw [ByteArray.extract_append, hmark, extract_all (by rw [hmark]; decide)]
    dsimp only
    rw [hread, ByteArray.extract_append_eq_left hmark.symm, if_pos rfl,
      ByteArray.extract_append_eq_right hmark.symm (by rw [ByteArray.size_append])]

/-- The lines a reference names stand whole among the first bytes, and are not too many. -/
structure Within (stored : StoredText) (reference : EvidenceRef) (start stop : Nat) : Prop where
  startLine : reference.startLine = some start
  endLine : reference.endLine = some stop
  ordered : 1 ≤ start ∧ start ≤ stop
  few : stop - start + 1 ≤ maxExcerptLines
  exist : stop ≤ (Text.lines stored.text.toList).length
  fit : byteLength ((Text.lines stored.text.toList).take stop).flatten ≤ stored.room

/-- The lines `str.splitlines()` makes of the whole text, from one number to another. -/
def StoredText.shownLines (stored : StoredText) (start stop : Nat) : List (List Char) :=
  ((Text.splitLines stored.text.toList).take stop).drop (start - 1)

theorem length_le_flatMap {lines : List (List Char)} (h : ∀ line ∈ lines, line ≠ []) :
    lines.length ≤ (lines.flatMap Text.splitLines).length := by
  induction lines with
  | nil => exact Nat.le_refl 0
  | cons line lines ih =>
    obtain ⟨c, cs, rfl⟩ := List.exists_cons_of_ne_nil (h line List.mem_cons_self)
    have hpos := List.length_pos_iff.mpr (Text.splitLines_ne_nil : Text.splitLines (c :: cs) ≠ [])
    have := ih fun l hl => h l (List.mem_cons_of_mem _ hl)
    rw [List.flatMap_cons, List.length_append, List.length_cons]
    omega

/-- Of a beginning of the text that holds some lines whole, the first lines are those of the
text. -/
theorem splitLines_begin {cs t rest : List Char} (h : cs = t ++ rest) {stop : Nat}
    (hstop : stop ≤ (Text.lines cs).length)
    (hfront : ((Text.lines cs).take stop).flatten <+: t) :
    (Text.splitLines t).take stop = (Text.splitLines cs).take stop := by
  have hsplit : Text.lines cs = (Text.lines cs).take stop ++ (Text.lines cs).drop stop :=
    (List.take_append_drop _ _).symm
  obtain ⟨tail, rfl⟩ := hfront
  have htail : tail <+: ((Text.lines cs).drop stop).flatten := by
    have hwhole : ((Text.lines cs).take stop).flatten ++ ((Text.lines cs).drop stop).flatten = cs := by
      rw [← List.flatten_append, List.take_append_drop, Text.lines_flatten]
    have hcommon : ((Text.lines cs).take stop).flatten ++ (tail ++ rest) =
        ((Text.lines cs).take stop).flatten ++ ((Text.lines cs).drop stop).flatten := by
      rw [← List.append_assoc]
      exact h.symm.trans hwhole.symm
    exact ⟨rest, List.append_cancel_left hcommon⟩
  have hlines := Text.lines_begin hsplit htail
  have hmany : stop ≤ (((Text.lines cs).take stop).flatMap Text.splitLines).length := by
    refine le_trans ?_ (length_le_flatMap fun line hline =>
      Text.ne_nil_of_mem_lines (List.mem_of_mem_take hline))
    rw [List.length_take]
    omega
  rw [Text.splitLines_eq_flatMap (_ ++ tail), hlines, List.flatMap_append,
    List.take_append_of_le_length hmany, Text.splitLines_eq_flatMap cs]
  conv_rhs => rw [hsplit, List.flatMap_append, List.take_append_of_le_length hmany]

theorem prefix_of_fit {cs ds t rest : List Char} (h : cs = t ++ rest) (hds : ds <+: cs)
    (hfit : rest = [] ∨ byteLength ds ≤ byteLength t) : ds <+: t := by
  obtain rfl | hfit := hfit
  · rwa [h, List.append_nil] at hds
  · obtain hle | hlt := Nat.le_total ds.length t.length
    · exact List.prefix_of_prefix_length_le hds ⟨rest, h.symm⟩ hle
    · obtain ⟨more, rfl⟩ := List.prefix_of_prefix_length_le ⟨rest, h.symm⟩ hds hlt
      rw [byteLength_append] at hfit
      obtain rfl := byteLength_eq_zero.mp (show byteLength more = 0 by omega)
      rw [List.append_nil]

/-- Where the first bytes end between characters, the excerpt shows the lines that
`str.splitlines()` gives the numbers of the reference in the whole text; where they end inside
a character, it is not available. -/
theorem excerpt_spec {stored : StoredText} {reference : EvidenceRef} {start stop : Nat}
    (h : Within stored reference start stop) :
    (CutBetween stored.text.toList stored.room →
      (stored.excerpt reference).available = true ∧ (stored.excerpt reference).excerpt =
        some (Text.join "\n" ((stored.shownLines start stop).map String.ofList))) ∧
    (¬ CutBetween stored.text.toList stored.room → (stored.excerpt reference).available = false) := by
  obtain ⟨hstart, hend, ⟨hone, hordered⟩, hfew, hexist, hfit⟩ := h
  refine ⟨fun hcut => ?_, fun hcut => ?_⟩
  · obtain ⟨t, ht⟩ := exists_fromUTF8?_extract hcut
    obtain ⟨rest, hrest, hbytes⟩ := fromUTF8?_extract ht
    have hfront : ((Text.lines stored.text.toList).take stop).flatten <+: t.toList := by
      refine prefix_of_fit hrest ?_ (hbytes.imp_right fun heq => by rwa [heq])
      refine ⟨((Text.lines stored.text.toList).drop stop).flatten, ?_⟩
      rw [← List.flatten_append, List.take_append_drop, Text.lines_flatten]
    have hmin : min stop (start - 1 + maxExcerptLines) = stop := by omega
    unfold StoredText.excerpt excerpt
    rw [Option.bind_some, decode_prefix, ht, hstart, hend]
    dsimp only
    rw [if_neg (by omega)]
    refine ⟨rfl, ?_⟩
    dsimp only
    rw [hmin, StoredText.shownLines, ← splitLines_begin hrest hexist hfront, List.map_drop,
      List.map_take]
  · have hnone : String.fromUTF8? (stored.text.toUTF8.extract 0 stored.room) = none := by
      cases ht : String.fromUTF8? (stored.text.toUTF8.extract 0 stored.room) with
      | none => rfl
      | some t => exact absurd (cutBetween_of_fromUTF8? ht) hcut
    unfold StoredText.excerpt excerpt
    rw [Option.bind_some, decode_prefix, hnone]

end ConfigAuditor.Findings
