import ConfigAuditor.Library.Lines
import ConfigAuditor.Library.Outlines
import ConfigAuditor.Remediation.RoundTrip

/-!
# Rendered steps keep the structure of their template

A rendered step is pasted into a device. Its structure is its words, lines and blocks. An
address keeps the scope id of its text, and nothing looks at the characters of a scope id.
-/
namespace ConfigAuditor.Remediation

open Library Outlines

/-- The control characters of the basic and the Latin blocks. -/
def isControl (c : Char) : Bool := c.toNat < 32 || (127 ≤ c.toNat && c.toNat < 160)

/-- What ends a word of a command: white space, a line separator, a control character, a
semicolon or a brace. -/
def separates (c : Char) : Bool :=
  Text.isSpace c || Text.isLineBreak c || isControl c || c == ';' || c == '\x7b' || c == '\x7d'

/-- One token: at least one character, and none that separates. -/
def IsToken (t : String) : Prop := t.toList ≠ [] ∧ ∀ c ∈ t.toList, separates c = false

def markOf (c : Char) : Option Char := if separates c then some c else none

/-- The command structure of a text: its separators, and one mark for each word. -/
def structureOf (text : String) : List (Option Char) := outline (text.toList.map markOf)

/-- A placeholder of a typed value is a word of its template; another one stands for its
text. -/
def pieceMarks (isWord : String → Bool) (values : List (String × String)) :
    Piece → List (Option Char)
  | .char c => [markOf c]
  | .hole name =>
    if isWord name then [none] else ((Dict.get? values name).getD "").toList.map markOf

def templateStructure (isWord : String → Bool) (values : List (String × String))
    (text : String) : List (Option Char) :=
  outline ((pieces none text.toList).map (pieceMarks isWord values)).flatten

/-- The text of a piece. -/
def pieceText (values : List (String × String)) : Piece → Except PyError (List Char)
  | .hole name => match Dict.get? values name with
    | some value => .ok value.toList
    | none => .error .keyError
  | .char c => .ok [c]

theorem substitute_eq (values : List (String × String)) (text : String) :
    substitute values text = (do
      let parts ← (pieces none text.toList).mapM (pieceText values)
      return String.ofList parts.flatten) := by
  unfold substitute
  congr 2

/-- Tokens in the place of the placeholders keep the structure of a template. -/
theorem structureOf_substitute {isWord : String → Bool} {values : List (String × String)}
    {text rendered : String} (h : substitute values text = .ok rendered)
    (htoken : ∀ name t, isWord name = true → Dict.get? values name = some t → IsToken t) :
    structureOf rendered = templateStructure isWord values text := by
  rw [substitute_eq] at h
  obtain ⟨parts, hparts, hrendered⟩ := except_bind_eq_ok.mp h
  obtain rfl := except_pure_eq_ok.mp hrendered
  rw [structureOf, templateStructure, String.toList_ofList, List.map_flatten]
  apply outline_flatten
  rw [List.forall₂_map_left_iff, List.forall₂_map_right_iff]
  refine List.Forall₂.imp ?_ (mapM_eq_ok.mp hparts).flip
  intro part piece htext
  cases piece with
  | char c =>
    obtain rfl := Except.ok.inj htext
    exact .inl rfl
  | hole name =>
    rw [pieceText] at htext
    split at htext
    · rename_i t ht
      obtain rfl := Except.ok.inj htext
      rw [pieceMarks, ht]
      split
      · rename_i hword
        obtain ⟨hne, hplain⟩ := htoken name t hword ht
        refine .inr ⟨rfl, by simpa using hne, fun m hm => ?_⟩
        obtain ⟨c, hc, rfl⟩ := List.mem_map.mp hm
        rw [markOf, hplain c hc]
        rfl
      · exact .inl rfl
    · cases htext

theorem separates_ascii : ∀ n < 128, 33 ≤ n ∧ n < 127 ∧ n ≠ 59 ∧ n ≠ 123 ∧ n ≠ 125 →
    separates (Char.ofNat n) = false := by decide +kernel

theorem separates_of_ascii {c : Char} (hlow : 33 ≤ c.toNat) (hhigh : c.toNat < 127)
    (hplain : c.toNat ≠ 59 ∧ c.toNat ≠ 123 ∧ c.toNat ≠ 125) : separates c = false := by
  rw [← Char.ofNat_toNat c]
  exact separates_ascii c.toNat (by omega) ⟨hlow, hhigh, hplain⟩

theorem separates_digit : ∀ d < 16, separates (Nat.digitChar d) = false := by decide

theorem separates_of_isAsciiDigit {c : Char} (h : Text.isAsciiDigit c = true) :
    separates c = false := by
  obtain ⟨d, hd, rfl⟩ := IpAddress.digitChar_of_isAsciiDigit h
  exact separates_digit d hd

theorem separates_of_isHostChar {c : Char} (h : isHostChar c = true) : separates c = false := by
  simp only [isHostChar, Text.isAsciiAlnum, Text.isAsciiLetter, Text.isAsciiUpper,
    Text.isAsciiLower, Text.isAsciiDigit, Bool.or_eq_true, Bool.and_eq_true, decide_eq_true_eq,
    beq_iff_eq] at h
  obtain (h | rfl) | rfl := h
  · exact separates_of_ascii (by omega) (by omega) (by omega)
  · decide
  · decide

/-- The address part of a text is a token. -/
theorem addressText_token (n : Nat) : IsToken (IpAddress.addressText n) := by
  refine ⟨fun hnil => ?_, fun c hc => ?_⟩
  · have hcolon := IpAddress.colon_mem_addressText n
    rw [hnil] at hcolon
    cases hcolon
  · exact IpAddress.addressText_all (p := fun c => separates c = false) separates_digit (by decide)
      (by decide) hc

theorem v4Text_token (n : Nat) : IsToken (IpAddress.v4Text n) := by
  refine ⟨fun hnil => ?_, fun c hc => ?_⟩
  · rw [IpAddress.v4Text_toList, List.intercalate_cons_cons] at hnil
    simp at hnil
  · obtain hdigit | rfl := IpAddress.mem_v4Text hc
    · exact separates_of_isAsciiDigit hdigit
    · decide

theorem IsToken.append {a b : String} (ha : IsToken a)
    (hb : ∀ c ∈ b.toList, separates c = false) : IsToken (a ++ b) := by
  refine ⟨fun hnil => ha.1 ?_, fun c hc => ?_⟩
  · rw [String.toList_append, List.append_eq_nil_iff] at hnil
    exact hnil.1
  · rw [String.toList_append, List.mem_append] at hc
    exact hc.elim (ha.2 c) (hb c)

/-- An address is a token when its scope id has no separator. -/
theorem text_token_iff (n : Nat) (zone : Option String) :
    IsToken (IpAddress.text (.v6 n zone)) ↔
      ∀ z, zone = some z → ∀ c ∈ z.toList, separates c = false := by
  rw [IpAddress.text_v6]
  cases zone with
  | none => simpa using addressText_token n
  | some z =>
    dsimp only
    constructor
    · intro htoken z' hz c hc
      obtain rfl := Option.some.inj hz
      refine htoken.2 c ?_
      rw [String.toList_append]
      exact List.mem_append_right _ hc
    · intro hzone
      have hpercent : ∀ c ∈ ("%" : String).toList, separates c = false := by
        intro c hc
        obtain rfl := List.mem_singleton.mp hc
        decide
      exact ((addressText_token n).append hpercent).append (hzone z rfl)

theorem IsToken.append_iff {a b : String} (hne : a.toList ≠ [])
    (hb : ∀ c ∈ b.toList, separates c = false) : IsToken (a ++ b) ↔ IsToken a := by
  refine ⟨fun h => ⟨hne, fun c hc => h.2 c ?_⟩, fun h => h.append hb⟩
  rw [String.toList_append]
  exact List.mem_append_left _ hc

/-- What stands behind the percent sign. -/
def zoneOf (cs : List Char) : List Char :=
  match Text.splitFirst '%' cs with
  | none => []
  | some (_, zone) => zone

/-- The address has bits behind the prefix; the network is another address, without a scope. -/
def hostBits (address mask : List Char) : Bool :=
  match IpAddress.readV6 address, IpAddress.prefixOfDigits 128 mask with
  | some (.v6 n _), some length => IpAddress.maskTo 128 length n != n
  | _, _ => false

theorem zoneOf_whole {cs : List Char} (h : Text.splitFirst '%' cs = none) : zoneOf cs = [] := by
  rw [zoneOf, h]

theorem zoneOf_parts {cs address zone : List Char}
    (h : Text.splitFirst '%' cs = some (address, zone)) : zoneOf cs = zone := by
  rw [zoneOf, h]

/-- The scope id that the text of a network keeps. -/
def networkZone (s : String) : List Char :=
  match Text.splitAll '/' s.toList with
  | [address] => zoneOf address
  | [address, mask] => if hostBits address mask then [] else zoneOf address
  | _ => []

theorem networkZone_address {s : String} {address : List Char}
    (h : Text.splitAll '/' s.toList = [address]) : networkZone s = zoneOf address := by
  rw [networkZone, h]

theorem networkZone_masked {s : String} {address mask : List Char}
    (h : Text.splitAll '/' s.toList = [address, mask]) :
    networkZone s = if hostBits address mask then [] else zoneOf address := by
  rw [networkZone, h]

theorem hostBits_read {address mask : List Char} {n length : Nat} {zone : Option String}
    (hread : IpAddress.readV6 address = some (.v6 n zone))
    (hlength : IpAddress.prefixOfDigits 128 mask = some length) :
    hostBits address mask = (IpAddress.maskTo 128 length n != n) := by
  rw [hostBits, hread, hlength]

/-- The scope id that the value of a kind keeps. -/
def keptZone (kind s : String) : List Char :=
  if kind = "ip_address" ∨ kind = "hostname" then zoneOf s.toList
  else if kind = "ip_network" then networkZone s
  else []

/-- No character of the scope id that is kept separates. -/
def Harmless (definition : Definition) (given : PyValue) : Prop :=
  ∀ kind s, Dict.get? definition "type" = some (.str kind) → given = .str s →
    ∀ c ∈ keptZone kind s, separates c = false

theorem zoneOf_free {cs : List Char} (h : '%' ∉ cs) : zoneOf cs = [] := by
  unfold zoneOf
  cases hsplit : Text.splitFirst '%' cs with
  | none => rfl
  | some parts =>
    have heq := (Text.splitFirst_some (l := parts.1) (r := parts.2) hsplit).1
    rw [heq] at h
    exact absurd (List.mem_append_right _ List.mem_cons_self) h

theorem readV6_token_iff {cs : List Char} {n : Nat} {zone : Option String}
    (h : IpAddress.readV6 cs = some (.v6 n zone)) :
    (∀ z, zone = some z → ∀ c ∈ z.toList, separates c = false) ↔
      ∀ c ∈ zoneOf cs, separates c = false := by
  unfold IpAddress.readV6 at h
  split at h
  · rename_i hsplit
    obtain ⟨m, -, heq⟩ := Option.map_eq_some_iff.mp h
    obtain ⟨-, rfl⟩ := IpAddress.v6.inj heq
    rw [zoneOf_whole hsplit]
    simp
  · rename_i address found hsplit
    rw [zoneOf_parts hsplit]
    split at h
    · cases h
    · obtain ⟨m, -, heq⟩ := Option.map_eq_some_iff.mp h
      obtain ⟨-, rfl⟩ := IpAddress.v6.inj heq
      simp

theorem zoneOf_v4 {cs : List Char} {n : Nat} (h : IpAddress.parseV4 cs = some n) :
    zoneOf cs = [] := by
  refine zoneOf_free fun hmem => ?_
  obtain hdigit | hdot := (IpAddress.parseV4_spec h).2 '%' hmem
  · exact absurd hdigit (by decide)
  · exact absurd hdot (by decide)

/-- The value of an address is a token when its scope id is harmless. -/
theorem ofText_token_iff {s : String} {a : IpAddress} (h : IpAddress.ofText? s = some a) :
    IsToken a.text ↔ ∀ c ∈ zoneOf s.toList, separates c = false := by
  unfold IpAddress.ofText? at h
  dsimp only at h
  split at h
  · cases h
  · split at h
    · rename_i n hn
      obtain rfl := Option.some.inj h
      rw [zoneOf_v4 hn]
      simpa [IpAddress.text] using v4Text_token n
    · obtain ⟨n, zone, rfl, -⟩ := IpAddress.readV6_spec h
      rw [text_token_iff, readV6_token_iff h]

theorem prefix_plain (length : Nat) :
    ∀ c ∈ ("/" ++ toString length).toList, separates c = false := by
  intro c hc
  rw [String.toList_append, List.mem_append] at hc
  obtain hc | hc := hc
  · obtain rfl := List.mem_singleton.mp hc
    decide
  · exact separates_of_isAsciiDigit
      (Bool.of_not_eq_false fun hdigit => Text.not_mem_toString _ hdigit hc)

theorem text_ne_nil (n : Nat) (zone : Option String) :
    (IpAddress.text (.v6 n zone)).toList ≠ [] := by
  intro hnil
  have hne := (addressText_token n).1
  rw [IpAddress.text_v6] at hnil
  cases zone with
  | none => exact hne hnil
  | some z =>
    dsimp only at hnil
    rw [String.toList_append, String.toList_append, List.append_eq_nil_iff,
      List.append_eq_nil_iff] at hnil
    exact hne hnil.1.1

/-- The value of a network is a token when the scope id it keeps is harmless. -/
theorem networkOfText_token_iff {s t : String} (h : IpAddress.networkOfText? s = some t) :
    IsToken t ↔ ∀ c ∈ networkZone s, separates c = false := by
  have hv4 : ∀ n length : Nat, IsToken (IpAddress.v4Text n ++ "/" ++ toString length) := by
    intro n length
    rw [String.append_assoc]
    exact (v4Text_token n).append (prefix_plain length)
  have hv6 : ∀ (n : Nat) (zone : Option String) (length : Nat),
      IsToken (IpAddress.text (.v6 n zone) ++ "/" ++ toString length) ↔
      ∀ z, zone = some z → ∀ c ∈ z.toList, separates c = false := by
    intro n zone length
    rw [String.append_assoc, IsToken.append_iff (text_ne_nil n zone) (prefix_plain length),
      text_token_iff]
  unfold IpAddress.networkOfText? at h
  split at h
  · rename_i address hsplit
    rw [networkZone_address hsplit]
    split at h
    · rename_i n hn
      obtain rfl := Option.some.inj h
      rw [zoneOf_v4 hn]
      simpa using hv4 n 32
    · obtain ⟨a, ha, rfl⟩ := Option.map_eq_some_iff.mp h
      obtain ⟨n, zone, rfl, -⟩ := IpAddress.readV6_spec ha
      rw [hv6, readV6_token_iff ha]
  · rename_i address mask hsplit
    have hwhole : (String.ofList address ++ "/" ++ String.ofList mask).toList = s.toList := by
      have hslash : ("/" : String).toList = ['/'] := rfl
      rw [Text.splitAll_eq_pair hsplit, String.toList_append, String.toList_append,
        String.toList_ofList, hslash, List.append_assoc, List.singleton_append,
        String.toList_ofList]
    unfold IpAddress.networkText? at h
    rw [hwhole, hsplit] at h
    dsimp only at h
    rw [networkZone_masked hsplit]
    split at h
    · rename_i n length hn hlength
      obtain rfl := Option.some.inj h
      rw [zoneOf_v4 hn, ite_self]
      simpa using hv4 (IpAddress.maskTo 32 length n) length
    · split at h
      · rename_i n zone length hread hlength
        obtain rfl := Option.some.inj h
        rw [hostBits_read hread hlength, hv6]
        by_cases hnetwork : IpAddress.maskTo 128 length n = n
        · rw [if_pos hnetwork, if_neg (by simpa using hnetwork), readV6_token_iff hread]
        · rw [if_neg hnetwork, if_pos (by simpa using hnetwork)]
          simp
      · cases h
  · cases h

/-- The types of parameters whose values are not fixed texts. -/
def tokenKinds : List String := ["ip_address", "ip_network", "hostname", "integer", "port"]

def isTokenParameter (definition : Definition) : Bool :=
  tokenKinds.any fun kind => Dict.get? definition "type" == some (.str kind)

theorem intText_token {i : Int} {t : String} (h : PyValue.intText i = .ok t) : IsToken t := by
  have hdigits : ∀ n : Nat, ∀ c ∈ Nat.toDigits 10 n, separates c = false := fun n c hc =>
    separates_of_isAsciiDigit (List.all_eq_true.mp (Text.toDigits_all_digits n) c hc)
  unfold PyValue.intText at h
  split at h
  · obtain rfl := Except.ok.inj h
    cases i with
    | ofNat n =>
      have htext : (toString (Int.ofNat n)).toList = Nat.toDigits 10 n := String.toList_ofList
      rw [IsToken, htext]
      exact ⟨Nat.toDigits_ne_nil, hdigits n⟩
    | negSucc n =>
      have htext : (toString (Int.negSucc n)).toList = '-' :: Nat.toDigits 10 (n + 1) := by
        change ("-" ++ Nat.repr (n + 1)).toList = _
        rw [String.toList_append, Nat.toList_repr]
        rfl
      rw [IsToken, htext]
      refine ⟨List.cons_ne_nil _ _, fun c hc => ?_⟩
      obtain rfl | hc := List.mem_cons.mp hc
      · decide
      · exact hdigits _ c hc
  · cases h

theorem integerValue_token {definition : Definition} {kind s t : String}
    (h : integerValue definition kind s = .ok t) : IsToken t := by
  unfold integerValue at h
  split at h
  · cases h
  · obtain ⟨u, -, h⟩ := except_bind_eq_ok.mp h
    obtain ⟨v, -, h⟩ := except_bind_eq_ok.mp h
    obtain ⟨w, -, htext⟩ := except_bind_eq_ok.mp h
    exact intText_token (lift_eq_ok.mp htext)

/-- A host name in lower case is a token, and has no scope id. -/
theorem hostname_token {s : String} (h : isHostname s = true) :
    IsToken (Text.lower s) ∧ zoneOf s.toList = [] := by
  have hhost := (isHostname_iff s).mp h
  have hlower := hostName_lowered hhost
  rw [← lower_toList hhost.2.1] at hlower
  have hne : (Text.lower s).toList ≠ [] := by
    obtain ⟨first, hfirst, -⟩ := hlower.2.2.1
    intro hnil
    rw [hnil] at hfirst
    cases hfirst
  refine ⟨⟨hne, fun c hc => separates_of_isHostChar (hlower.2.1 c hc)⟩, ?_⟩
  refine zoneOf_free fun hmem => ?_
  exact absurd (hhost.2.1 '%' hmem) (by decide)

theorem valueOfKind_token_iff {definition : Definition} {kind s t : String}
    (hkind : kind ∈ tokenKinds) (h : valueOfKind definition s (.str kind) = .ok t) :
    IsToken t ↔ ∀ c ∈ keptZone kind s, separates c = false := by
  simp only [tokenKinds, List.mem_cons, List.not_mem_nil, or_false] at hkind
  obtain rfl | rfl | rfl | rfl | rfl := hkind
  · simp only [valueOfKind] at h
    split at h
    · rename_i a ha
      obtain rfl := Except.ok.inj h
      exact ofText_token_iff ha
    · cases h
  · simp only [valueOfKind] at h
    split at h
    · rename_i network hnetwork
      obtain rfl := Except.ok.inj h
      exact networkOfText_token_iff hnetwork
    · cases h
  · simp only [valueOfKind] at h
    split at h
    · rename_i a ha
      obtain rfl := Except.ok.inj h
      exact ofText_token_iff ha
    · split at h
      · rename_i hname
        obtain rfl := Except.ok.inj h
        obtain ⟨htoken, hzone⟩ := hostname_token hname
        change _ ↔ ∀ c ∈ zoneOf s.toList, separates c = false
        rw [hzone]
        simpa using htoken
      · cases h
  · simpa [keptZone] using integerValue_token h
  · simpa [keptZone] using integerValue_token h

/-- An accepted value is one token exactly where the scope id it keeps is harmless. -/
theorem value_token_iff {definition : Definition} {given : PyValue} {t : String}
    (hparameter : isTokenParameter definition = true) (h : value definition given = .ok t) :
    IsToken t ↔ Harmless definition given := by
  obtain ⟨kind, hkind, htype⟩ := List.any_eq_true.mp hparameter
  rw [beq_iff_eq] at htype
  cases given with
  | str s =>
    obtain ⟨u, -, h⟩ := except_bind_eq_ok.mp h
    rw [htype] at h
    rw [valueOfKind_token_iff hkind h]
    constructor
    · rintro hzone kind' s' htype' hgiven
      rw [htype, Option.some.injEq, PyValue.str.injEq] at htype'
      obtain rfl := htype'
      obtain rfl := PyValue.str.inj hgiven
      exact hzone
    · intro hharmless
      exact hharmless kind s htype rfl
  | _ => cases h

/-- A name that stands for a value of one of the kinds. -/
def isWordOf (definitions : List (String × Definition)) (name : String) : Bool :=
  definitions.any fun d => d.1 == name && isTokenParameter d.2

/-- A rendered step has the structure of its template. -/
def StepKept (definitions : List (String × Definition)) (values : List (String × String))
    (step : PyValue) (rendered : String) : Prop :=
  ∃ entries text, step = .dict entries ∧ Dict.get? entries "text" = some (.str text) ∧
    structureOf rendered = templateStructure (isWordOf definitions) values text

/-- Each value is one token, and each rendered step has the structure of its template. -/
structure Uninjected (procedure : RemediationProcedure) (values : List (String × String)) :
    Prop where
  tokens : ∀ name definition t, (name, definition) ∈ definitionsOf procedure →
    isTokenParameter definition = true → Dict.get? values name = some t → IsToken t
  steps : ∀ rendered, renderSections procedure values = .ok rendered →
    List.Forall₂ (StepKept (definitionsOf procedure) values) procedure.orderedSteps
      rendered.renderedSteps ∧
    List.Forall₂ (StepKept (definitionsOf procedure) values) procedure.verificationSteps
      rendered.renderedVerificationSteps ∧
    List.Forall₂ (StepKept (definitionsOf procedure) values) procedure.rollbackSteps
      rendered.renderedRollbackSteps

theorem renderStep_kept {definitions : List (String × Definition)}
    {values : List (String × String)} {step : PyValue} {rendered : String}
    (htoken : ∀ name t, isWordOf definitions name = true → Dict.get? values name = some t →
      IsToken t) (h : renderStep values step = .ok rendered) :
    StepKept definitions values step rendered := by
  unfold renderStep at h
  split at h
  · rename_i entries
    split at h
    · rename_i text htext
      split at h
      · rename_i found hfound
        obtain rfl := except_pure_eq_ok.mp h
        exact ⟨entries, text, rfl, htext, structureOf_substitute hfound htoken⟩
      · cases h
      · cases h
    · cases h
  · cases h

/-- The value of a name is that of its parameter, normalised by its definition. -/
theorem givenValues_get {parameters : List (String × PyValue)}
    {definitions : List (String × Definition)} {values : List (String × String)}
    (hnodup : (definitions.map (·.1)).Nodup)
    (h : givenValues parameters definitions = .ok values) {name : String} {definition : Definition}
    (hmem : (name, definition) ∈ definitions) :
    match Dict.get? parameters name with
    | none => Dict.get? values name = none
    | some given => ∃ t, Dict.get? values name = some t ∧ value definition given = .ok t := by
  induction definitions generalizing values with
  | nil => cases hmem
  | cons d rest ih =>
    obtain ⟨first, own⟩ := d
    obtain ⟨hfirst, hrest⟩ := List.nodup_cons.mp hnodup
    have habsent : ∀ others : List (String × String),
        givenValues parameters rest = .ok others → Dict.get? others first = none := by
      intro others hothers
      cases hget : Dict.get? others first with
      | none => rfl
      | some t =>
        have hkey := (givenValues_spec hothers).1.subset
          (List.mem_map.mpr ⟨_, Dict.mem_of_get? hget, rfl⟩)
        exact absurd hkey hfirst
    have htail : name ≠ first → (name, definition) ∈ rest := by
      intro hne
      rcases List.mem_cons.mp hmem with heq | hin
      · exact absurd (Prod.mk.inj heq).1 hne
      · exact hin
    have hhead : name = first → definition = own := by
      rintro rfl
      rcases List.mem_cons.mp hmem with heq | hin
      · exact (Prod.mk.inj heq).2
      · exact absurd (List.mem_map.mpr ⟨_, hin, rfl⟩) hfirst
    unfold givenValues at h
    by_cases hname : name = first
    · obtain rfl := hhead hname
      subst hname
      cases hgiven : Dict.get? parameters name with
      | none =>
        simp only [hgiven] at h
        obtain ⟨u, -, h⟩ := except_bind_eq_ok.mp h
        exact habsent _ h
      | some given =>
        simp only [hgiven] at h
        obtain ⟨normal, hnormal, h⟩ := except_bind_eq_ok.mp h
        obtain ⟨others, -, h⟩ := except_bind_eq_ok.mp h
        obtain rfl := except_pure_eq_ok.mp h
        exact ⟨normal, by rw [Dict.get?_cons, if_pos rfl], hnormal⟩
    · cases hgiven : Dict.get? parameters first with
      | none =>
        simp only [hgiven] at h
        obtain ⟨u, -, h⟩ := except_bind_eq_ok.mp h
        exact ih hrest h (htail hname)
      | some given =>
        simp only [hgiven] at h
        obtain ⟨normal, -, h⟩ := except_bind_eq_ok.mp h
        obtain ⟨others, hothers, h⟩ := except_bind_eq_ok.mp h
        obtain rfl := except_pure_eq_ok.mp h
        rw [Dict.get?_cons, if_neg (Ne.symm hname)]
        exact ih hrest hothers (htail hname)

/-- What is rendered with the values of a preview is free of injected structure exactly where
the scope ids that the values keep are harmless. -/
theorem rendered_structure_iff {procedure : RemediationProcedure}
    {parameters : List (String × PyValue)} {values : List (String × String)}
    (hvalid : validateProcedure procedure = .ok ())
    (hgiven : givenValues parameters (definitionsOf procedure) = .ok values) :
    Uninjected procedure values ↔
      ∀ name definition given, (name, definition) ∈ definitionsOf procedure →
        isTokenParameter definition = true → Dict.get? parameters name = some given →
        Harmless definition given := by
  have hnodup := definitionsOf_nodup hvalid
  constructor
  · intro h name definition given hmem hparameter hname
    have hvalue := givenValues_get hnodup hgiven hmem
    rw [hname] at hvalue
    obtain ⟨t, hget, hvalue⟩ := hvalue
    exact (value_token_iff hparameter hvalue).mp (h.tokens name definition t hmem hparameter hget)
  · intro h
    have htokens : ∀ name definition t, (name, definition) ∈ definitionsOf procedure →
        isTokenParameter definition = true → Dict.get? values name = some t → IsToken t := by
      intro name definition t hmem hparameter hget
      have hvalue := givenValues_get hnodup hgiven hmem
      cases hname : Dict.get? parameters name with
      | none =>
        rw [hname] at hvalue
        dsimp only at hvalue
        rw [hvalue] at hget
        cases hget
      | some given =>
        rw [hname] at hvalue
        obtain ⟨t', hget', hvalue⟩ := hvalue
        obtain rfl := Option.some.inj (hget.symm.trans hget')
        exact (value_token_iff hparameter hvalue).mpr
          (h name definition given hmem hparameter hname)
    have hwords : ∀ name t, isWordOf (definitionsOf procedure) name = true →
        Dict.get? values name = some t → IsToken t := by
      intro name t hword hget
      obtain ⟨⟨_, definition⟩, hmem, hboth⟩ := List.any_eq_true.mp hword
      rw [Bool.and_eq_true, beq_iff_eq] at hboth
      obtain ⟨rfl, hparameter⟩ := hboth
      exact htokens _ definition t hmem hparameter hget
    have hsection : ∀ (steps : List PyValue) (texts : List String),
        steps.mapM (renderStep values) = .ok texts →
        List.Forall₂ (StepKept (definitionsOf procedure) values) steps texts :=
      fun _ _ htexts => (mapM_eq_ok.mp htexts).imp fun _ _ hstep => renderStep_kept hwords hstep
    refine ⟨htokens, fun rendered hrendered => ?_⟩
    obtain ⟨steps, hsteps, hrendered⟩ := except_bind_eq_ok.mp hrendered
    obtain ⟨verification, hverification, hrendered⟩ := except_bind_eq_ok.mp hrendered
    obtain ⟨rollback, hrollback, hrendered⟩ := except_bind_eq_ok.mp hrendered
    obtain rfl := except_pure_eq_ok.mp hrendered
    exact ⟨hsection _ _ hsteps, hsection _ _ hverification, hsection _ _ hrollback⟩

/-- The reviewed procedure for a remote logging host, with the parts that are rendered. -/
def loggingHost : RemediationProcedure where
  procedureId := ⟨45, by decide⟩
  procedureKey := "cisco.iosxe.17.remote-logging-host"
  version := 1
  ruleId := "logging.remote.destination.configured"
  title := "Configure a Cisco IOS XE remote logging host"
  securityObjective := "Send system messages to the reviewed remote logging destination."
  description := "Preview of the remote logging destination"
  status := .published
  profileApplicability := [("profile_version_ids", .list [.str "cisco.ios_xe.17@1.0.0"])]
  prerequisites := [.str "Confirm the destination"]
  safetyWarnings := [.str "Advisory preview only"]
  requiredParameters := [.dict [("name", .str "destination"), ("type", .str "hostname")]]
  configurationContext := []
  orderedSteps := [.dict [("text", .str "logging host {destination}")]]
  verificationSteps := [.dict [("text", .str "show running-config | include logging host")]]
  rollbackSteps := [.dict [("text", .str "no logging host {destination}")]]
  validationResults := [.str "passed"]
  sourceReferences := [.str "vendor guide"]
  reviewedAt := .none
  validatedAt := .none
  schemaVersion := "1.0.0"

theorem loggingHost_given (s t : String) (h : value
    [("name", .str "destination"), ("type", .str "hostname")] (.str s) = .ok t) :
    givenValues [("destination", .str s)] (definitionsOf loggingHost) =
      .ok [("destination", t)] := by
  have hdefinitions : definitionsOf loggingHost =
      [("destination", [("name", .str "destination"), ("type", .str "hostname")])] := rfl
  have hget : Dict.get? [("destination", PyValue.str s)] "destination" = some (.str s) := rfl
  rw [hdefinitions]
  simp only [givenValues, hget]
  rw [h]
  rfl

/-- An address with a plain scope id is rendered as one word. -/
theorem rendered_structure_linkLocal :
    Uninjected loggingHost [("destination", "fe80::1%eth0")] ↔
      ∀ name definition given, (name, definition) ∈ definitionsOf loggingHost →
        isTokenParameter definition = true →
        Dict.get? [("destination", PyValue.str "FE80:0::1%eth0")] name = some given →
        Harmless definition given :=
  rendered_structure_iff rfl (loggingHost_given "FE80:0::1%eth0" "fe80::1%eth0" rfl)

/-- A scope id carries a second command into the rendered step. -/
theorem scope_id_injects :
    validateProcedure loggingHost = .ok () ∧
      givenValues [("destination", .str "fe80::1%eth0;reload")] (definitionsOf loggingHost) =
        .ok [("destination", "fe80::1%eth0;reload")] ∧
      (renderSections loggingHost [("destination", "fe80::1%eth0;reload")]).toOption.map
        (·.renderedSteps) = some ["logging host fe80::1%eth0;reload"] ∧
      ¬Uninjected loggingHost [("destination", "fe80::1%eth0;reload")] := by
  refine ⟨rfl, loggingHost_given _ _ rfl, rfl, fun h => ?_⟩
  have htoken := h.tokens "destination"
    [("name", .str "destination"), ("type", .str "hostname")] "fe80::1%eth0;reload"
    (List.mem_singleton.mpr rfl) rfl rfl
  exact absurd (htoken.2 ';' (by decide)) (by decide)

end ConfigAuditor.Remediation
