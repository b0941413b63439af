import ConfigAuditor.Findings.SourceLines
import ConfigAuditor.Parsing.FortiosCli
import ConfigAuditor.Parsing.XmlTree

/-!
# Excerpts of the evidence of facts

The references of facts that are built from nodes of a stored artifact, with the source
lines of those nodes, and when `_excerpt` shows these lines for them.
-/
namespace ConfigAuditor.Findings

open Library Library.Utf8 SecurityModel Parsing KnowledgePacks Interpretation.Mapping

def maxConfigurationBytes : Nat := 2 * 1024 * 1024

/-- The characters whose bytes are all among the first `room` bytes. -/
def wholeChars : Nat → List Char → List Char
  | _, [] => []
  | room, c :: cs => if c.utf8Size ≤ room then c :: wholeChars (room - c.utf8Size) cs else []

/-- The text `parse_artifact` decodes: a character that is cut becomes a replacement character. -/
def StoredText.read (stored : StoredText) : String :=
  let mark := match stored.encoding with
    | .utf8 => 0
    | .utf8Sig => 3
  let room := maxConfigurationBytes - mark
  let whole := wholeChars room stored.text.toList
  let cut := byteLength whole < min room (byteLength stored.text.toList)
  String.ofList (if cut then whole ++ [Char.ofNat 0xfffd] else whole)

section Facts

variable (sha256 : String → String) (reprPath : List String → String) (isWord : Char → Bool)
  (fromString : String → Option XmlTree.Element) (uuid5 : UUID → String → UUID)
  (context : InterpretationContext) (pack : KnowledgePack) (mapping : DeclarativeMapping)
  (stored : StoredText)

/-- A reference of a fact that is built from nodes of the artifact, and the first and the last
source line of its node. The document parser keeps no lines of an element: where the element
stands is given. -/
inductive Cites : SecurityFactDraft → EvidenceRef → Nat → Nat → Prop where
  | indentation {request : StructuralParseRequest} {nodes : List ConfigNode} {node : ConfigNode}
      {fact : SecurityFactDraft} {value : TypedValue} {scope : ScopeRef}
      {quality : FactQuality} {versionId : Option UUID}
      (hread : request.content = stored.read)
      (hnodes : ∀ node ∈ nodes, node ∈ (IndentationCli.parse sha256 request).nodes)
      (hfact : buildFact uuid5 context pack mapping value scope nodes quality versionId =
        .ok fact)
      (hnode : node ∈ nodes) :
      Cites fact (nodeEvidence node) node.sourceStart node.sourceEnd
  | fortios {request : StructuralParseRequest} {nodes : List ConfigNode} {node : ConfigNode}
      {fact : SecurityFactDraft} {value : TypedValue} {scope : ScopeRef}
      {quality : FactQuality} {versionId : Option UUID}
      (hread : request.content = stored.read)
      (hnodes : ∀ node ∈ nodes, node ∈ (FortiosCli.parse sha256 request).nodes)
      (hfact : buildFact uuid5 context pack mapping value scope nodes quality versionId =
        .ok fact)
      (hnode : node ∈ nodes) :
      Cites fact (nodeEvidence node) node.sourceStart node.sourceEnd
  | xml {request : StructuralParseRequest} {ir : XmlStructuralIR} {node : XmlNode}
      {fact : SecurityFactDraft} {value : TypedValue} {scope : ScopeRef} {reference : EvidenceRef}
      {first last : Nat} (hread : request.content = stored.read)
      (hir : XmlTree.parse sha256 reprPath isWord fromString request = .ok ir)
      (hnode : node ∈ ir.nodes)
      (hfact : buildXmlFact uuid5 context pack mapping value scope node = .ok fact)
      (hreference : reference ∈ fact.evidenceRefs)
      (hlines : 1 ≤ first ∧ first ≤ last ∧ last ≤ (Text.lines stored.text.toList).length) :
      Cites fact reference first last

end Facts

/-- The lines of a node of a line reader count up from one. -/
theorem node_lines {b : IRBuilder} {sha256 : String → String} {readerId : String}
    {source : ArtifactProvenance} (h : IRBuilder.Inv sha256 readerId source b) {truncated : Bool}
    {node : ConfigNode} (hnode : node ∈ (b.build truncated).nodes) :
    1 ≤ node.sourceStart ∧ node.sourceStart ≤ node.sourceEnd := by
  have hspan : Spans.spanOf node ∈ (b.build truncated).nodes.map Spans.spanOf :=
    List.mem_map_of_mem hnode
  rw [Spans.spans_build] at hspan
  obtain ⟨d, hd, heq⟩ := List.mem_map.mp hspan
  obtain ⟨hstart, hend⟩ := h.lines d hd
  have hfirst : d.node.sourceStart = node.sourceStart := congrArg Spans.LineSpan.first heq
  have hlast : d.node.sourceEnd = node.sourceEnd := congrArg Spans.LineSpan.last heq
  exact ⟨hfirst ▸ hstart, hfirst ▸ hlast ▸ hend⟩

section Excerpts

variable {sha256 : String → String} {reprPath : List String → String} {isWord : Char → Bool}
  {fromString : String → Option XmlTree.Element} {uuid5 : UUID → String → UUID}
  {context : InterpretationContext} {pack : KnowledgePack} {mapping : DeclarativeMapping}
  {stored : StoredText} {fact : SecurityFactDraft} {reference : EvidenceRef}
  {start stop first last : Nat}

/-- The source lines of a node that is cited are lines of the file. -/
theorem Cites.range
    (h : Cites sha256 reprPath isWord fromString uuid5 context pack mapping stored fact reference
      first last) (hwithin : Within stored reference start stop) :
    1 ≤ first ∧ first ≤ last ∧ last ≤ (Text.lines stored.text.toList).length := by
  cases h with
  | indentation hread hnodes hfact hnode =>
    obtain ⟨b, truncated, hinv, hparse⟩ := IndentationCli.parse_eq sha256 _
    have hmem := hnodes _ hnode
    rw [hparse] at hmem
    obtain ⟨hstart, hend⟩ := node_lines hinv hmem
    refine ⟨hstart, hend, ?_⟩
    rw [Option.some.inj hwithin.endLine]
    exact hwithin.exist
  | fortios hread hnodes hfact hnode =>
    obtain ⟨b, truncated, hinv, hparse⟩ := FortiosCli.parse_eq sha256 _
    have hmem := hnodes _ hnode
    rw [hparse] at hmem
    obtain ⟨hstart, hend⟩ := node_lines hinv hmem
    refine ⟨hstart, hend, ?_⟩
    rw [Option.some.inj hwithin.endLine]
    exact hwithin.exist
  | xml hread hir hnode hfact hreference hlines => exact hlines

theorem join_inj {xs ys : List (List Char)} (hx : xs ≠ []) (hy : ys ≠ [])
    (hxs : ∀ line ∈ xs, '\n' ∉ line) (hys : ∀ line ∈ ys, '\n' ∉ line)
    (h : Text.join "\n" (xs.map String.ofList) = Text.join "\n" (ys.map String.ofList)) : xs = ys := by
  have hlist : ∀ zs : List (List Char), (Text.join "\n" (zs.map String.ofList)).toList =
      ['\n'].intercalate zs := by
    intro zs
    refine (Text.toList_join '\n' _).trans ?_
    rw [List.map_map]
    exact congrArg _ (List.map_id'' (fun _ => String.toList_ofList) zs)
  have hboth := congrArg String.toList h
  rw [hlist, hlist] at hboth
  rw [← Text.splitAll_intercalate hx hxs, hboth, Text.splitAll_intercalate hy hys]

/-- The excerpt for a reference of a fact shows the source lines of its node where the first
bytes end between characters and both ways of splitting the text agree up to the node. It shows
them nowhere else, unless the first of these lines stands in the file a second time, or one of
the others is empty. -/
theorem excerpt_shows
    (hcites : Cites sha256 reprPath isWord fromString uuid5 context pack mapping stored fact
      reference first last) (hwithin : Within stored reference start stop) :
    (Aligned stored start stop first last → stored.Shows reference first last) ∧
    (stored.Shows reference first last → Aligned stored start stop first last ∨
      (∃ line ∈ (stored.ownLines first last).head?, StandsTwice stored line) ∨
      [] ∈ (stored.ownLines first last).tail) := by
  obtain ⟨hfirst, hordered, hlast⟩ := hcites.range hwithin
  obtain ⟨hshown, hhidden⟩ := excerpt_spec hwithin
  refine ⟨fun haligned => ?_, fun hshows => ?_⟩
  · obtain ⟨havailable, htext⟩ := hshown haligned.cut
    exact ⟨havailable, by rw [htext, shownLines_of_aligned haligned hfirst hordered hlast]⟩
  · have hcut : CutBetween stored.text.toList stored.room := by
      by_contra hcut
      exact Bool.false_ne_true ((hhidden hcut).symm.trans hshows.1)
    have htext := Option.some.inj ((hshown hcut).2.symm.trans hshows.2)
    have hstart := hwithin.ordered.1
    have hstop := hwithin.ordered.2
    have hexist := hwithin.exist
    have hcount := lines_le_splitLines stored
    have hshownLength : (stored.shownLines start stop).length = stop - (start - 1) := by
      rw [StoredText.shownLines, List.length_drop, List.length_take]
      omega
    have hownLength : (stored.ownLines first last).length = last - (first - 1) := by
      rw [ownLines_eq, stripped, List.length_map, length_rawLines first hlast]
    have hshownFree : ∀ line ∈ stored.shownLines start stop, '\n' ∉ line := fun line hline hmem =>
      Bool.false_ne_true
        (Text.mem_splitLines (List.mem_of_mem_take (List.mem_of_mem_drop hline)) hmem).symm
    have hownFree : ∀ line ∈ stored.ownLines first last, '\n' ∉ line := by
      rw [ownLines_eq]
      intro line hline
      obtain ⟨raw, hraw, rfl⟩ := List.mem_map.mp hline
      exact Text.lineFeed_not_mem (List.mem_of_mem_take (List.mem_of_mem_drop hraw))
    refine aligned_of_shownLines hcut hstart hstop hexist hfirst hordered hlast ?_
    exact join_inj (List.ne_nil_of_length_pos (by omega)) (List.ne_nil_of_length_pos (by omega))
      hshownFree hownFree htext

end Excerpts

def routerSource : ArtifactProvenance :=
  { artifactId := UUID.ofNat 1, snapshotId := some (UUID.ofNat 4), sourceLabel := "router.cfg" }

/-- The statement `no ip http server` in the second line of a file. -/
def httpServerNode : ConfigNode :=
  { nodeId := "irn_", artifactId := UUID.ofNat 1, sourceLabel := "router.cfg",
    rawText := "no ip http server", command := some "ip", arguments := ["http", "server"],
    parentId := none, children := [], depth := 0, order := 2, contextPath := [],
    sourceStart := 2, sourceEnd := 2, negated := true, inactive := false, comments := [],
    kind := .statement, parseStatus := .parsed }

def httpServerMapping : DeclarativeMapping :=
  { mappingId := UUID.ofNat 6, mappingVersionId := UUID.ofNat 7, fieldId := "management.http.enabled",
    matcher := { command := "ip" }, extractor := "boolean", scopeResolver := "device",
    declaredValueTypes := [.boolean], negationBehavior := .invertBoolean }

/-- A file whose second line is `no ip http server`. -/
def httpServerFile : StoredText where
  text := "hostname edge\nno ip http server\n"
  encoding := .utf8
  marked _ := by decide

/-- The same file with a form feed in its first line. -/
def formFeedFile : StoredText where
  text := "hostname edge\x0c core\nno ip http server\n"
  encoding := .utf8
  marked _ := by decide

def httpServerContext : InterpretationContext :=
  { auditId := UUID.ofNat 2, deviceId := UUID.ofNat 3, snapshotId := UUID.ofNat 4 }

/-- A fact that is built from the statement cites its line. -/
theorem httpServer_cited {stored : StoredText}
    (h : httpServerNode ∈ (IndentationCli.parse (fun _ => "")
      { content := stored.read, source := routerSource }).nodes) :
    ∃ fact, Cites (fun _ => "") (fun _ => "") (fun _ => false) (fun _ => none)
      (fun _ _ => UUID.ofNat 0) httpServerContext Sealed.Generic.cli httpServerMapping stored fact
      (nodeEvidence httpServerNode) 2 2 := by
  have hbuilt : (buildFact (fun _ _ => UUID.ofNat 0) httpServerContext Sealed.Generic.cli
      httpServerMapping { type := .boolean, value := .bool false, unit := none }
      { type := "device", key := "device", attributes := [] } [httpServerNode] {} none).isOk =
      true := by decide +kernel
  obtain ⟨fact, hfact⟩ := exists_of_isOk hbuilt
  exact ⟨fact, .indentation rfl (fun node hnode => List.mem_singleton.mp hnode ▸ h) hfact
    List.mem_cons_self⟩

/-- Of a plain file the second line is shown. -/
theorem excerpt_shows_httpServer :
    httpServerFile.Shows (nodeEvidence httpServerNode) 2 2 := by
  have hnode : httpServerNode ∈ (IndentationCli.parse (fun _ => "")
      { content := httpServerFile.read, source := routerSource }).nodes := by decide +kernel
  obtain ⟨fact, hcites⟩ := httpServer_cited hnode
  have hwithin : Within httpServerFile (nodeEvidence httpServerNode) 2 2 :=
    ⟨rfl, rfl, by decide, by decide, by decide +kernel, by decide +kernel⟩
  refine (excerpt_shows hcites hwithin).1 ⟨.inl (by decide +kernel), by decide +kernel, rfl, ?_, ?_⟩
  · intro line hline
    have hraw : httpServerFile.rawLines 2 2 = ["no ip http server\n".toList] := by decide +kernel
    rw [hraw] at hline
    rw [List.mem_singleton.mp hline]
    have hfree : ((Text.rstripChars ['\r', '\n'] "no ip http server\n".toList).all
        fun c => !Text.isLineBreak c) = true := by decide +kernel
    intro c hc
    simpa using List.all_eq_true.mp hfree c hc
  · intro line hline
    have hraw : httpServerFile.rawLines 2 2 = ["no ip http server\n".toList] := by decide +kernel
    rw [hraw] at hline
    cases hline

/-- Behind a form feed the excerpt for the second line is the end of the first. -/
theorem formFeed_shifts :
    ¬ ∀ (sha256 : String → String) (reprPath : List String → String) (isWord : Char → Bool)
      (fromString : String → Option XmlTree.Element) (uuid5 : UUID → String → UUID)
      (context : InterpretationContext) (pack : KnowledgePack) (mapping : DeclarativeMapping)
      (stored : StoredText) (fact : SecurityFactDraft) (reference : EvidenceRef)
      (start stop first last : Nat),
      Cites sha256 reprPath isWord fromString uuid5 context pack mapping stored fact reference
        first last → Within stored reference start stop → stored.Shows reference first last := by
  intro h
  have hnode : httpServerNode ∈ (IndentationCli.parse (fun _ => "")
      { content := formFeedFile.read, source := routerSource }).nodes := by decide +kernel
  obtain ⟨fact, hcites⟩ := httpServer_cited hnode
  have hwithin : Within formFeedFile (nodeEvidence httpServerNode) 2 2 :=
    ⟨rfl, rfl, by decide, by decide, by decide +kernel, by decide +kernel⟩
  have hshown := ((excerpt_spec hwithin).1 (.inl (by decide +kernel))).2
  have hclaimed := (h _ _ _ _ _ _ _ _ _ _ _ _ _ _ _ hcites hwithin).2
  rw [hclaimed] at hshown
  revert hshown
  decide +kernel

end ConfigAuditor.Findings
