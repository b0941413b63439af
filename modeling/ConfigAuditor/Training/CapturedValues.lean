import ConfigAuditor.Library.Decimals
import ConfigAuditor.Library.IpAddress
import ConfigAuditor.Training.Matcher

/-!
# What a captured value says about the evidence

A reading is a value in the evidence with the capture it is read for. `_typed` and
`extract` keep what the evidence says where it is a plain number, and not where
`int` cuts a fraction off, where `int` and `float` read texts that are no plain
numerals, and where the text of an address is not checked.
-/
namespace ConfigAuditor.Training.CapturedValues

open Library SecurityModel Dsl Parsing Matcher

/-! ## Readings -/

/-- A value in the evidence, with the name and the declared type of its capture. -/
structure Reading where
  name : String
  type : CaptureType
  evidence : PyValue

/-- `captures[name] = _typed(evidence, type)`. -/
def Reading.store (captures : Captures) (r : Reading) : Except PyError Captures := do
  let value ← typed r.evidence r.type
  return Dict.set captures r.name value

def capturedFrom (readings : List Reading) : Except PyError Captures :=
  readings.foldlM Reading.store []

/-- The reading that `captures[name]` is of: the last one of that name. -/
def reading (readings : List Reading) (name : Option String) : Option Reading :=
  readings.reverse.find? (·.name == name.getD "")

/-! ### Every match stores readings -/

section Matches

variable {captures result : Captures}

theorem foldlM_store_cons {r : Reading} {rest : List Reading} {value : PyValue}
    (hvalue : typed r.evidence r.type = .ok value)
    (hrest : rest.foldlM Reading.store (Dict.set captures r.name value) = .ok result) :
    (r :: rest).foldlM Reading.store captures = .ok result := by
  rw [List.foldlM_cons, Reading.store, hvalue]
  exact hrest

/-- The captures of a command line are read from its arguments. -/
theorem matchArguments_readings {patterns : List ArgumentPattern} {arguments : List String}
    (h : matchArguments patterns arguments captures = some result) :
    ∃ readings : List Reading, readings.foldlM Reading.store captures = .ok result ∧
      ∀ r ∈ readings, ∃ token ∈ arguments, r.evidence = .str token := by
  induction patterns generalizing arguments captures with
  | nil =>
    rw [matchArguments] at h
    exact ⟨[], congrArg Except.ok (Option.some.inj h), by simp⟩
  | cons pattern patterns ih =>
    have hskip : ∀ {arguments rest : List String} {captures : Captures},
        matchArguments patterns rest captures = some result → rest ⊆ arguments →
        ∃ readings : List Reading, readings.foldlM Reading.store captures = .ok result ∧
          ∀ r ∈ readings, ∃ token ∈ arguments, r.evidence = .str token := by
      intro arguments rest captures hmatch hsubset
      obtain ⟨readings, hstore, htokens⟩ := ih hmatch
      refine ⟨readings, hstore, fun r hr => ?_⟩
      obtain ⟨token, htoken, hevidence⟩ := htokens r hr
      exact ⟨token, hsubset htoken, hevidence⟩
    unfold matchArguments at h
    split at h
    · split at h
      · exact hskip h (List.subset_cons_self _ _)
      · exact hskip h (List.Subset.refl _)
    · exact hskip h (List.Subset.refl _)
    · cases h
    · split at h
      · exact hskip h (List.subset_cons_self _ _)
      · cases h
    · split at h
      · exact hskip h (List.subset_cons_self _ _)
      · cases h
    · rename_i token rest hoperation
      split at h
      · rename_i value hvalue
        obtain ⟨readings, hstore, htokens⟩ := ih h
        refine ⟨⟨pattern.name.getD "", pattern.valueType.getD .string, .str token⟩ :: readings,
          foldlM_store_cons hvalue hstore, fun r hr => ?_⟩
        obtain rfl | hr := List.mem_cons.mp hr
        · exact ⟨token, List.mem_cons_self, rfl⟩
        · obtain ⟨other, hother, hevidence⟩ := htokens r hr
          exact ⟨other, List.mem_cons_of_mem _ hother, hevidence⟩
      · cases h

theorem matchNode_readings {definition : MappingDefinition} {node : ValidationNode}
    (h : matchNode definition node = some captures) :
    ∃ readings, capturedFrom readings = .ok captures ∧
      ∀ r ∈ readings, ∃ token ∈ node.arguments, r.evidence = .str token := by
  unfold matchNode at h
  split at h
  · exact matchArguments_readings h
  · cases h

/-- The capture of an element is read from its text or its attribute. -/
theorem matchXmlNode_readings {source : XmlPathMatch} {node : XmlNode}
    (h : matchXmlNode source node = .ok (some captures)) :
    ∃ readings, capturedFrom readings = .ok captures ∧
      ∀ r ∈ readings, ∃ raw, xmlRaw source node = some raw ∧ r.evidence = .str raw := by
  unfold matchXmlNode at h
  split at h
  · cases h
  · obtain ⟨found, -, h⟩ := except_bind_eq_ok.mp h
    have hcaptures := Except.ok.inj h
    split at hcaptures
    · obtain ⟨raw, hraw, hcaptures⟩ := Option.bind_eq_some_iff.mp hcaptures
      unfold xmlCaptures at hcaptures
      split at hcaptures
      · split at hcaptures
        · rename_i value hvalue
          refine ⟨[⟨source.capture.getD "", source.valueType.getD .string, .str raw⟩], ?_, ?_⟩
          · rw [← Option.some.inj hcaptures]
            exact foldlM_store_cons hvalue rfl
          · intro r hr
            obtain rfl := List.mem_singleton.mp hr
            exact ⟨raw, hraw, rfl⟩
        · cases hcaptures
      · rw [← Option.some.inj hcaptures]
        exact ⟨[], rfl, by simp⟩
    · cases hcaptures

/-- The capture of a JSON node is read from its scalar, or from its presence. -/
theorem matchJsonNode_readings {source : JsonPathMatch} {node : JsonNode}
    (h : matchJsonNode source node = .ok (some captures)) :
    ∃ readings, capturedFrom readings = .ok captures ∧
      ∀ r ∈ readings, match source.source with
        | .presence => r.evidence = .bool true
        | .value => r.evidence = node.value ∧ node.value.isContainer = false := by
  have hread : ∀ raw : PyValue, jsonCaptures source raw = .ok (some captures) →
      ∃ readings, capturedFrom readings = .ok captures ∧ ∀ r ∈ readings, r.evidence = raw := by
    intro raw hraw
    unfold jsonCaptures at hraw
    split at hraw
    · split at hraw
      · rename_i value hvalue
        refine ⟨[⟨source.capture.getD "", source.valueType.getD .string, raw⟩], ?_, ?_⟩
        · rw [← Option.some.inj (Except.ok.inj hraw)]
          exact foldlM_store_cons hvalue rfl
        · intro r hr
          rw [List.mem_singleton.mp hr]
      · split at hraw
        · cases hraw
        · cases hraw
    · rw [← Option.some.inj (Except.ok.inj hraw)]
      exact ⟨[], rfl, by simp⟩
  unfold matchJsonNode at h
  split at h
  · cases h
  · revert h
    cases hsource : source.source with
    | presence =>
      intro h
      exact hread _ h
    | value =>
      intro h
      dsimp only at h ⊢
      split at h
      · cases h
      · rename_i hscalar
        obtain ⟨readings, hstore, hevidence⟩ := hread _ h
        exact ⟨readings, hstore, fun r hr => ⟨hevidence r hr, by simpa using hscalar⟩⟩

end Matches

/-- What a capture holds is its last reading in its declared type. -/
theorem captured_reading {readings : List Reading} {captures : Captures}
    (h : capturedFrom readings = .ok captures) {name : Option String} {value : PyValue}
    (hvalue : captured captures name = .ok value) :
    ∃ r, reading readings name = some r ∧ r ∈ readings ∧
      typed r.evidence r.type = .ok value := by
  induction readings using List.reverseRecOn generalizing captures with
  | nil =>
    obtain rfl := Except.ok.inj h
    cases hvalue
  | append_singleton readings r ih =>
    unfold capturedFrom at h
    rw [List.foldlM_append, except_bind_eq_ok] at h
    obtain ⟨before, hbefore, h⟩ := h
    rw [List.foldlM_cons, except_bind_eq_ok] at h
    obtain ⟨after, hstore, h⟩ := h
    obtain rfl := Except.ok.inj h
    obtain ⟨stored, hstored, hset⟩ := except_bind_eq_ok.mp hstore
    obtain rfl := Except.ok.inj hset
    unfold reading
    rw [List.reverse_append, List.reverse_singleton, List.singleton_append]
    unfold captured at hvalue
    rw [Dict.get?_set] at hvalue
    by_cases hname : r.name = name.getD ""
    · rw [if_pos hname] at hvalue
      obtain rfl := Except.ok.inj hvalue
      refine ⟨r, ?_, by simp, hstored⟩
      rw [List.find?_cons_of_pos (by simpa using hname)]
    · rw [if_neg hname] at hvalue
      obtain ⟨found, hfound, hmem, htyped⟩ := ih hbefore hvalue
      refine ⟨found, ?_, List.mem_append_left _ hmem, htyped⟩
      rw [List.find?_cons_of_neg (by simpa using hname)]
      exact hfound

/-- Every reading of a successful match has a value in its declared type. -/
theorem typed_of_capturedFrom {readings : List Reading} {captures result : Captures}
    (h : readings.foldlM Reading.store captures = .ok result) {r : Reading} (hr : r ∈ readings) :
    ∃ value, typed r.evidence r.type = .ok value := by
  induction readings generalizing captures with
  | nil => cases hr
  | cons first rest ih =>
    rw [List.foldlM_cons, except_bind_eq_ok] at h
    obtain ⟨after, hstore, h⟩ := h
    obtain ⟨value, hvalue, -⟩ := except_bind_eq_ok.mp hstore
    obtain rfl | hr := List.mem_cons.mp hr
    · exact ⟨value, hvalue⟩
    · exact ih h hr

/-! ## What evidence denotes -/

/-- The number that a JSON number or the text of a plain numeral denotes. -/
def denoted : PyValue → Option Rat
  | .int i => some i
  | .float x => x.toRat?
  | .str s => Decimals.numeral? s
  | _ => none

/-- A finite float that is the number the evidence denotes, or the double nearest to it. -/
def IsNumberOf (evidence : PyValue) (x : PyFloat) : Prop :=
  ∃ q r, denoted evidence = some q ∧ x.toRat? = some r ∧
    (r = q ∨ (PyFloat.round q false).toRat? = some r)

def isAddress (s : String) : Bool := (IpAddress.ofText? s).isSome

/-- A captured value denotes the evidence in the declared type of its capture. -/
def Reading.Faithful (r : Reading) (value : PyValue) : Prop :=
  match r.type with
  | .integer => ∃ i : Int, value = .int i ∧ denoted r.evidence = some (i : Rat)
  | .number => ∃ x, value = .float x ∧ IsNumberOf r.evidence x
  | .boolean => ∃ b, value = .bool b ∧
      (r.evidence = .bool b ∨ r.evidence = .str (if b then "true" else "false"))
  | .string => ∃ s, value = .str s ∧ r.evidence = .str s
  | .ipAddress => ∃ s, value = .str s ∧ r.evidence = .str s ∧ isAddress s = true

/-- A value before its unit conversion is taken from evidence that denotes it, and a value of the
address type is the text of an address. -/
structure ExtractionFaithful (definition : MappingDefinition) (readings : List Reading)
    (raw value : PyValue) : Prop where
  integer : definition.valueExtraction.operation = .integer →
    ∃ r i, reading readings definition.valueExtraction.capture = some r ∧ raw = .int i ∧
      denoted r.evidence = some (i : Rat)
  number : definition.valueExtraction.operation = .number →
    ∃ r x, reading readings definition.valueExtraction.capture = some r ∧ raw = .float x ∧
      IsNumberOf r.evidence x
  duration : definition.valueExtraction.operation = .durationFromParts →
    ∀ name ∈ definition.valueExtraction.parts, ∃ r kept x, reading readings (some name) = some r ∧
      typed r.evidence r.type = .ok kept ∧ kept.toFloat = .ok x ∧ IsNumberOf r.evidence x
  address : definition.valueExtraction.outputType = .ipAddress →
    ∀ s, value = .str s → isAddress s = true

/-- Captures and extraction say what the evidence says. -/
structure Faithful (definition : MappingDefinition) (readings : List Reading)
    (captures : Captures) (value : PyValue) : Prop where
  captured : ∀ r ∈ readings, ∃ kept, typed r.evidence r.type = .ok kept ∧ r.Faithful kept
  extracted : ∃ raw, extractRaw definition.valueExtraction captures = .ok raw ∧
    convert definition.unitConversion raw = .ok value ∧
    ExtractionFaithful definition readings raw value

/-! ## Plain evidence -/

/-- No fraction, and no underscore in a text. -/
def PlainInteger : PyValue → Prop
  | .float x => ∃ i : Int, x.toRat? = some (i : Rat)
  | .str s => '_' ∉ s.toList
  | _ => True

/-- No infinity and no NaN, and a text is a plain numeral that a double can hold. -/
def PlainNumber : PyValue → Prop
  | .float x => x.isFinite = true
  | .str s => ∃ q, Decimals.numeral? s = some q ∧ (PyFloat.round q false).isFinite = true
  | _ => True

def Reading.Plain (r : Reading) : Prop :=
  match r.type with
  | .integer => PlainInteger r.evidence
  | .number => PlainNumber r.evidence
  | .ipAddress => ∀ s, r.evidence = .str s → isAddress s = true
  | _ => True

/-- Evidence that a double holds as an integer. -/
def HeldInteger : PyValue → Prop
  | .int i => (PyFloat.round (i : Rat) false).toRat?.map PyFloat.truncate = some i
  | .float x => ∃ i : Int, x.toRat? = some (i : Rat)
  | .str s => ∃ i : Int, Decimals.numeral? s = some (i : Rat) ∧
      (PyFloat.round (i : Rat) false).toRat?.map PyFloat.truncate = some i
  | _ => False

/-- A reading that `int` is applied to once more. -/
def Reading.PlainAsInteger (r : Reading) : Prop :=
  match r.type with
  | .integer => True
  | .number => HeldInteger r.evidence
  | .boolean => False
  | .string | .ipAddress => PlainInteger r.evidence

/-- A reading that `float` is applied to once more. -/
def Reading.PlainAsNumber (r : Reading) : Prop :=
  match r.type with
  | .integer | .number => True
  | .boolean => False
  | .string | .ipAddress => PlainNumber r.evidence

/-- The text of a capture of a text. -/
def Reading.text? (r : Reading) : Option String :=
  match r.type with
  | .string | .ipAddress => r.evidence.str?
  | _ => none

/-- The key of a capture in `enum_map`. -/
def Reading.label? (r : Reading) : Option String :=
  match r.type, r.evidence with
  | .integer, evidence => (evidence.toInt.bind PyValue.intText).toOption
  | .number, evidence => evidence.toFloat.toOption.map PyFloat.repr
  | .boolean, .bool b => some (if b then "True" else "False")
  | .boolean, .str s => some (if s = "true" then "True" else "False")
  | .boolean, _ => none
  | .string, evidence | .ipAddress, evidence => evidence.str?

/-- A text after a unit conversion, which repeats it. -/
def repeated (conversion : UnitConversion) (s : String) : String :=
  match conversion with
  | .minutesToSeconds => String.ofList (List.replicate 60 s.toList).flatten
  | .hoursToSeconds => String.ofList (List.replicate 3600 s.toList).flatten
  | _ => s

/-- The text that a definition stores, where it stores one. -/
def storedText? (definition : MappingDefinition) (readings : List Reading) : Option String :=
  let rule := definition.valueExtraction
  let text := match rule.operation with
    | .constant => rule.value.str?
    | .capture => (reading readings rule.capture).bind Reading.text?
    | .enumMapping => do
      let key ← (← reading readings rule.capture).label?
      Dict.get? rule.enumMap key
    | _ => none
  text.map (repeated definition.unitConversion)

/-- The evidence is plain for everything that the definition reads in it. -/
structure Plain (definition : MappingDefinition) (readings : List Reading) : Prop where
  captured : ∀ r ∈ readings, r.Plain
  integer : definition.valueExtraction.operation = .integer →
    ∀ r, reading readings definition.valueExtraction.capture = some r → r.PlainAsInteger
  number : definition.valueExtraction.operation = .number →
    ∀ r, reading readings definition.valueExtraction.capture = some r → r.PlainAsNumber
  duration : definition.valueExtraction.operation = .durationFromParts →
    ∀ name ∈ definition.valueExtraction.parts, ∀ r, reading readings (some name) = some r →
      r.PlainAsNumber
  address : definition.valueExtraction.outputType = .ipAddress →
    ∀ s, storedText? definition readings = some s → isAddress s = true

/-! ## Conversions of plain evidence -/

theorem truncate_intCast (i : Int) : PyFloat.truncate (i : Rat) = i := by
  unfold PyFloat.truncate
  split
  · exact Rat.floor_intCast i
  · rw [← Rat.intCast_neg, Rat.floor_intCast, Int.neg_neg]

section Converted

variable {evidence : PyValue} {i : Int} {x : PyFloat}

/-- What `int` gives is denoted by the evidence exactly where the evidence is plain. -/
theorem toInt_iff (h : evidence.toInt = .ok i) (hbool : evidence.isBool = false) :
    denoted evidence = some (i : Rat) ↔ PlainInteger evidence := by
  cases evidence with
  | bool b => cases hbool
  | int j =>
    obtain rfl := Except.ok.inj h
    exact iff_of_true rfl trivial
  | float x =>
    rw [PyValue.toInt] at h
    cases hx : x.toRat? with
    | none =>
      rw [hx] at h
      cases h
    | some q =>
      rw [hx] at h
      obtain rfl := Except.ok.inj h
      unfold denoted PlainInteger
      dsimp only
      rw [hx]
      constructor
      · intro hq
        exact ⟨_, hq⟩
      · rintro ⟨j, hj⟩
        obtain rfl := Option.some.inj hj
        rw [truncate_intCast]
  | str s =>
    constructor
    · exact Decimals.numeral_free
    · exact Decimals.numeral_of_intOfText h
  | none | list | dict => cases h

/-- The float of an integer is the double nearest to it. -/
theorem ofInt_eq_some (h : PyFloat.ofInt? i = some x) :
    ∃ r, x.toRat? = some r ∧ (PyFloat.round (i : Rat) false).toRat? = some r := by
  unfold PyFloat.ofInt? at h
  dsimp only at h
  split at h
  · rename_i hfinite
    obtain rfl := Option.some.inj h
    obtain ⟨r, hr⟩ := Option.isSome_iff_exists.mp hfinite
    exact ⟨r, hr, hr⟩
  · cases h

theorem toFloat_int (h : (PyValue.int i).toFloat = .ok x) : PyFloat.ofInt? i = some x := by
  rw [PyValue.toFloat] at h
  cases hx : PyFloat.ofInt? i with
  | none =>
    rw [hx] at h
    cases h
  | some y =>
    rw [hx] at h
    rw [Except.ok.inj h]

/-- The float of a plain numeral is the double nearest to it. -/
theorem toFloat_str {s : String} (h : (PyValue.str s).toFloat = .ok x) {q : Rat}
    (hq : Decimals.numeral? s = some q) : x.toRat? = (PyFloat.round q false).toRat? := by
  obtain ⟨y, hy, hround⟩ := Decimals.ofText_numeral hq
  rw [PyValue.toFloat, hy] at h
  rw [← Except.ok.inj h, hround]

/-- What `float` gives is the number of the evidence exactly where the evidence is plain. -/
theorem toFloat_iff (h : evidence.toFloat = .ok x) (hbool : evidence.isBool = false) :
    IsNumberOf evidence x ↔ PlainNumber evidence := by
  cases evidence with
  | bool b => cases hbool
  | int j =>
    obtain ⟨r, hr, hround⟩ := ofInt_eq_some (toFloat_int h)
    exact iff_of_true ⟨_, r, rfl, hr, .inr hround⟩ trivial
  | float y =>
    obtain rfl := Except.ok.inj h
    unfold PlainNumber PyFloat.isFinite
    dsimp only
    rw [Option.isSome_iff_exists]
    constructor
    · rintro ⟨q, r, -, hr, -⟩
      exact ⟨r, hr⟩
    · rintro ⟨r, hr⟩
      exact ⟨r, r, hr, hr, .inl rfl⟩
  | str s =>
    unfold PlainNumber PyFloat.isFinite
    dsimp only
    constructor
    · rintro ⟨q, r, hq, hr, -⟩
      rw [toFloat_str h hq] at hr
      exact ⟨q, hq, Option.isSome_iff_exists.mpr ⟨r, hr⟩⟩
    · rintro ⟨q, hq, hfinite⟩
      obtain ⟨r, hr⟩ := Option.isSome_iff_exists.mp hfinite
      exact ⟨q, r, hq, by rw [toFloat_str h hq, hr], .inr hr⟩
  | none | list | dict => cases h

/-- A float cut to an integer denotes the evidence exactly where a double holds it. -/
theorem truncated_iff (h : evidence.toFloat = .ok x) (hbool : evidence.isBool = false)
    (hint : (PyValue.float x).toInt = .ok i) :
    denoted evidence = some (i : Rat) ↔ HeldInteger evidence := by
  obtain ⟨r, hr, rfl⟩ : ∃ r, x.toRat? = some r ∧ PyFloat.truncate r = i := by
    rw [PyValue.toInt] at hint
    cases hx : x.toRat? with
    | none =>
      rw [hx] at hint
      cases hint
    | some r =>
      rw [hx] at hint
      exact ⟨r, rfl, Except.ok.inj hint⟩
  cases evidence with
  | bool b => cases hbool
  | int j =>
    obtain ⟨r', hr', hround⟩ := ofInt_eq_some (toFloat_int h)
    obtain rfl := Option.some.inj (hr'.symm.trans hr)
    unfold denoted HeldInteger
    dsimp only
    rw [hround, Option.map_some, Option.some.injEq, Option.some.injEq, Rat.intCast_inj]
    exact eq_comm
  | float y =>
    obtain rfl := Except.ok.inj h
    unfold denoted HeldInteger
    dsimp only
    rw [hr]
    constructor
    · intro hq
      exact ⟨_, hq⟩
    · rintro ⟨j, hj⟩
      obtain rfl := Option.some.inj hj
      rw [truncate_intCast]
  | str s =>
    unfold denoted HeldInteger
    dsimp only
    constructor
    · intro hq
      refine ⟨_, hq, ?_⟩
      rw [← toFloat_str h hq, hr]
      rfl
    · rintro ⟨j, hq, hheld⟩
      rw [← toFloat_str h hq, hr] at hheld
      rw [hq, ← Option.some.inj hheld]
  | none | list | dict => cases h

end Converted

/-! ## One reading -/

section OneReading

variable {r : Reading} {kept : PyValue} {i : Int} {x : PyFloat}

theorem typed_text (htype : r.type = .string ∨ r.type = .ipAddress)
    (h : typed r.evidence r.type = .ok kept) : ∃ s, r.evidence = .str s ∧ kept = .str s := by
  have htext : (if r.evidence.isStr then .ok r.evidence else .error .valueError :
      Except PyError PyValue) = .ok kept := by
    obtain htype | htype := htype
    · rwa [htype] at h
    · rwa [htype] at h
  cases hevidence : r.evidence with
  | str s =>
    rw [hevidence] at htext
    exact ⟨s, rfl, (Except.ok.inj htext).symm⟩
  | _ =>
    rw [hevidence] at htext
    cases htext

theorem typed_integer (htype : r.type = .integer) (h : typed r.evidence r.type = .ok kept) :
    ∃ i, kept = .int i ∧ r.evidence.toInt = .ok i ∧ r.evidence.isBool = false := by
  rw [htype, typed] at h
  split at h
  · cases h
  · rename_i hbool
    obtain ⟨i, hi, hkept⟩ := except_bind_eq_ok.mp h
    exact ⟨i, (Except.ok.inj hkept).symm, hi, by simpa using hbool⟩

theorem typed_number (htype : r.type = .number) (h : typed r.evidence r.type = .ok kept) :
    ∃ x, kept = .float x ∧ r.evidence.toFloat = .ok x ∧ r.evidence.isBool = false := by
  rw [htype, typed] at h
  split at h
  · cases h
  · rename_i hbool
    obtain ⟨x, hx, hkept⟩ := except_bind_eq_ok.mp h
    exact ⟨x, (Except.ok.inj hkept).symm, hx, by simpa using hbool⟩

theorem typed_boolean (htype : r.type = .boolean) (h : typed r.evidence r.type = .ok kept) :
    ∃ b, kept = .bool b ∧
      (r.evidence = .bool b ∨ r.evidence = .str (if b then "true" else "false")) := by
  rw [htype] at h
  unfold typed at h
  dsimp only at h
  split at h
  · rename_i b hevidence
    exact ⟨b, (Except.ok.inj h).symm, .inl hevidence⟩
  · rename_i hevidence
    exact ⟨true, (Except.ok.inj h).symm, .inr hevidence⟩
  · rename_i hevidence
    exact ⟨false, (Except.ok.inj h).symm, .inr hevidence⟩
  · cases h

/-- A boolean has no number. -/
theorem denoted_boolean {b : Bool}
    (h : r.evidence = .bool b ∨ r.evidence = .str (if b then "true" else "false")) :
    denoted r.evidence = none := by
  obtain h | h := h
  · rw [h]
    rfl
  · rw [h]
    cases b
    · decide +kernel
    · decide +kernel

theorem faithful_iff (h : typed r.evidence r.type = .ok kept) : r.Faithful kept ↔ r.Plain := by
  unfold Reading.Faithful Reading.Plain
  cases htype : r.type with
  | integer =>
    obtain ⟨i, rfl, hi, hbool⟩ := typed_integer htype h
    dsimp only
    rw [← toInt_iff hi hbool]
    simp
  | number =>
    obtain ⟨x, rfl, hx, hbool⟩ := typed_number htype h
    dsimp only
    rw [← toFloat_iff hx hbool]
    simp
  | boolean => exact iff_of_true (typed_boolean htype h) trivial
  | string =>
    obtain ⟨s, hevidence, hkept⟩ := typed_text (.inl htype) h
    exact iff_of_true ⟨s, hkept, hevidence⟩ trivial
  | ipAddress =>
    obtain ⟨s, hevidence, rfl⟩ := typed_text (.inr htype) h
    dsimp only
    rw [hevidence]
    simp

/-- `int` of a capture denotes the evidence of its reading exactly where that is plain. -/
theorem asInteger_iff (h : typed r.evidence r.type = .ok kept) (hplain : r.Plain)
    (hint : kept.toInt = .ok i) : denoted r.evidence = some (i : Rat) ↔ r.PlainAsInteger := by
  unfold Reading.Plain at hplain
  unfold Reading.PlainAsInteger
  cases htype : r.type with
  | integer =>
    rw [htype] at hplain
    obtain ⟨j, rfl, hj, hbool⟩ := typed_integer htype h
    obtain rfl := Except.ok.inj hint
    exact iff_of_true ((toInt_iff hj hbool).mpr hplain) trivial
  | number =>
    obtain ⟨x, rfl, hx, hbool⟩ := typed_number htype h
    exact truncated_iff hx hbool hint
  | boolean =>
    obtain ⟨b, -, hevidence⟩ := typed_boolean htype h
    rw [denoted_boolean hevidence]
    simp
  | string =>
    obtain ⟨s, hevidence, rfl⟩ := typed_text (.inl htype) h
    rw [hevidence]
    exact toInt_iff hint rfl
  | ipAddress =>
    obtain ⟨s, hevidence, rfl⟩ := typed_text (.inr htype) h
    rw [hevidence]
    exact toInt_iff hint rfl

/-- `float` of a capture is the number of its reading exactly where that is plain. -/
theorem asNumber_iff (h : typed r.evidence r.type = .ok kept) (hplain : r.Plain)
    (hfloat : kept.toFloat = .ok x) : IsNumberOf r.evidence x ↔ r.PlainAsNumber := by
  unfold Reading.Plain at hplain
  unfold Reading.PlainAsNumber
  cases htype : r.type with
  | integer =>
    rw [htype] at hplain
    obtain ⟨j, rfl, hj, hbool⟩ := typed_integer htype h
    obtain ⟨y, hy, hround⟩ := ofInt_eq_some (toFloat_int hfloat)
    exact iff_of_true ⟨_, y, (toInt_iff hj hbool).mpr hplain, hy, .inr hround⟩ trivial
  | number =>
    rw [htype] at hplain
    obtain ⟨y, rfl, hy, hbool⟩ := typed_number htype h
    obtain rfl := Except.ok.inj hfloat
    exact iff_of_true ((toFloat_iff hy hbool).mpr hplain) trivial
  | boolean =>
    obtain ⟨b, -, hevidence⟩ := typed_boolean htype h
    unfold IsNumberOf
    rw [denoted_boolean hevidence]
    simp
  | string =>
    obtain ⟨s, hevidence, rfl⟩ := typed_text (.inl htype) h
    rw [hevidence]
    exact toFloat_iff hfloat rfl
  | ipAddress =>
    obtain ⟨s, hevidence, rfl⟩ := typed_text (.inr htype) h
    rw [hevidence]
    exact toFloat_iff hfloat rfl

/-- The text of a capture, and the key it selects in `enum_map`. -/
theorem text_of_typed (h : typed r.evidence r.type = .ok kept) :
    kept.str? = r.text? ∧ kept.text.toOption = r.label? := by
  unfold Reading.text? Reading.label?
  cases htype : r.type with
  | integer =>
    obtain ⟨j, rfl, hj, -⟩ := typed_integer htype h
    dsimp only
    rw [hj]
    exact ⟨rfl, rfl⟩
  | number =>
    obtain ⟨x, rfl, hx, -⟩ := typed_number htype h
    dsimp only
    rw [hx]
    exact ⟨rfl, rfl⟩
  | boolean =>
    obtain ⟨b, rfl, hevidence | hevidence⟩ := typed_boolean htype h
    · rw [hevidence]
      exact ⟨rfl, rfl⟩
    · rw [hevidence]
      cases b
      · exact ⟨rfl, rfl⟩
      · exact ⟨rfl, rfl⟩
  | string =>
    obtain ⟨s, hevidence, rfl⟩ := typed_text (.inl htype) h
    rw [hevidence]
    exact ⟨rfl, rfl⟩
  | ipAddress =>
    obtain ⟨s, hevidence, rfl⟩ := typed_text (.inr htype) h
    rw [hevidence]
    exact ⟨rfl, rfl⟩

end OneReading

/-! ## The extraction -/

section Extraction

variable {definition : MappingDefinition} {readings : List Reading} {captures : Captures}
  {raw value : PyValue}

/-- A unit conversion leaves a text a text, and a number a number. -/
theorem convert_str {conversion : UnitConversion} (h : convert conversion raw = .ok value) :
    value.str? = raw.str?.map (repeated conversion) := by
  unfold convert at h
  cases conversion with
  | none =>
    obtain rfl := Except.ok.inj h
    cases raw <;> rfl
  | minutesToSeconds | hoursToSeconds =>
    cases raw with
    | none | dict => cases h
    | _ =>
      obtain rfl := Except.ok.inj h
      rfl
  | millisecondsToSeconds =>
    cases raw with
    | bool b =>
      obtain rfl := Except.ok.inj h
      rfl
    | float x =>
      obtain rfl := Except.ok.inj h
      rfl
    | int i =>
      unfold PyValue.dividedBy at h
      dsimp only at h
      split at h
      · obtain rfl := Except.ok.inj h
        rfl
      · cases h
    | _ => cases h

theorem text_some {kept : PyValue} {key : String} (h : kept.text = .ok key) :
    kept.text.toOption = some key := by
  rw [h]
  rfl

/-- The text that is stored is the one of the definition or of the evidence. -/
theorem stored_text (hcaptures : capturedFrom readings = .ok captures)
    (hraw : extractRaw definition.valueExtraction captures = .ok raw)
    (hvalue : convert definition.unitConversion raw = .ok value) :
    value.str? = storedText? definition readings := by
  rw [convert_str hvalue]
  unfold storedText?
  unfold extractRaw at hraw
  dsimp only
  congr 1
  cases hoperation : definition.valueExtraction.operation with
  | constant =>
    rw [hoperation] at hraw
    rw [Except.ok.inj hraw]
  | booleanFromPresence =>
    rw [hoperation] at hraw
    obtain rfl := Except.ok.inj hraw
    rfl
  | capture =>
    rw [hoperation] at hraw
    obtain ⟨r, hr, -, htyped⟩ := captured_reading hcaptures hraw
    dsimp only
    rw [hr, (text_of_typed htyped).1]
    rfl
  | integer =>
    rw [hoperation] at hraw
    simp only [except_bind_eq_ok, except_pure_eq_ok] at hraw
    obtain ⟨-, -, -, -, rfl⟩ := hraw
    rfl
  | number =>
    rw [hoperation] at hraw
    simp only [except_bind_eq_ok, except_pure_eq_ok] at hraw
    obtain ⟨-, -, -, -, rfl⟩ := hraw
    rfl
  | enumMapping =>
    rw [hoperation] at hraw
    dsimp only at hraw ⊢
    obtain ⟨kept, hkept, hraw⟩ := except_bind_eq_ok.mp hraw
    obtain ⟨key, hkey, hraw⟩ := except_bind_eq_ok.mp hraw
    obtain ⟨r, hr, -, htyped⟩ := captured_reading hcaptures hkept
    rw [hr]
    change _ = r.label?.bind fun key => Dict.get? definition.valueExtraction.enumMap key
    rw [← (text_of_typed htyped).2, text_some hkey, Option.bind_some]
    cases hmapped : Dict.get? definition.valueExtraction.enumMap key with
    | none =>
      rw [hmapped] at hraw
      cases hraw
    | some text =>
      rw [hmapped] at hraw
      rw [← Except.ok.inj hraw]
      rfl
  | list =>
    rw [hoperation] at hraw
    obtain ⟨items, -, hraw⟩ := except_bind_eq_ok.mp hraw
    rw [← Except.ok.inj hraw]
    rfl
  | durationFromParts =>
    rw [hoperation] at hraw
    obtain ⟨parts, -, hraw⟩ := except_bind_eq_ok.mp hraw
    rw [← Except.ok.inj hraw]
    split
    · rfl
    · rfl

/-- Every step of a successful loop succeeds. -/
theorem step_of_mapM {ε α β : Type} {f : α → Except ε β} {items : List α} {results : List β}
    (h : items.mapM f = .ok results) {item : α} (hitem : item ∈ items) :
    ∃ result, f item = .ok result := by
  induction items generalizing results with
  | nil => cases hitem
  | cons first rest ih =>
    rw [List.mapM_cons, except_bind_eq_ok] at h
    obtain ⟨result, hfirst, h⟩ := h
    obtain ⟨others, hothers, -⟩ := except_bind_eq_ok.mp h
    obtain rfl | hitem := List.mem_cons.mp hitem
    · exact ⟨result, hfirst⟩
    · exact ih hothers hitem

/-- The floats that a duration is added up from. -/
theorem duration_part (hcaptures : capturedFrom readings = .ok captures)
    (hraw : extractRaw definition.valueExtraction captures = .ok raw)
    (hoperation : definition.valueExtraction.operation = .durationFromParts) {name : String}
    (hname : name ∈ definition.valueExtraction.parts) :
    ∃ r kept x, reading readings (some name) = some r ∧ r ∈ readings ∧
      typed r.evidence r.type = .ok kept ∧ kept.toFloat = .ok x := by
  unfold extractRaw at hraw
  rw [hoperation] at hraw
  obtain ⟨products, hproducts, -⟩ := except_bind_eq_ok.mp hraw
  generalize definition.valueExtraction.parts = parts at hname hproducts
  have hlength : parts.length = (multipliers parts).length := by
    unfold multipliers
    split
    · assumption
    · rw [List.length_replicate]
  obtain ⟨factor, hpart⟩ : ∃ factor, (name, factor) ∈ parts.zip (multipliers parts) := by
    rw [← @List.map_fst_zip _ _ _ (multipliers parts) hlength.le] at hname
    obtain ⟨⟨other, factor⟩, hpart, rfl⟩ := List.mem_map.mp hname
    exact ⟨factor, hpart⟩
  obtain ⟨product, hproduct⟩ := step_of_mapM hproducts hpart
  obtain ⟨kept, hkept, hproduct⟩ := except_bind_eq_ok.mp hproduct
  obtain ⟨x, hx, -⟩ := except_bind_eq_ok.mp hproduct
  obtain ⟨r, hr, hmem, htyped⟩ := captured_reading hcaptures hkept
  exact ⟨r, kept, x, hr, hmem, htyped, hx⟩

/-- What `extract` keeps says what the evidence says exactly where the evidence is plain. -/
theorem extractionFaithful_iff (hcaptures : capturedFrom readings = .ok captures)
    (hplain : ∀ r ∈ readings, r.Plain)
    (hraw : extractRaw definition.valueExtraction captures = .ok raw)
    (hvalue : convert definition.unitConversion raw = .ok value) :
    ExtractionFaithful definition readings raw value ↔ Plain definition readings := by
  have hinteger : definition.valueExtraction.operation = .integer →
      ∃ r kept i, reading readings definition.valueExtraction.capture = some r ∧ r.Plain ∧
        typed r.evidence r.type = .ok kept ∧ kept.toInt = .ok i ∧ raw = .int i := by
    intro hoperation
    unfold extractRaw at hraw
    rw [hoperation] at hraw
    obtain ⟨kept, hkept, hraw⟩ := except_bind_eq_ok.mp hraw
    obtain ⟨i, hi, hraw⟩ := except_bind_eq_ok.mp hraw
    obtain ⟨r, hr, hmem, htyped⟩ := captured_reading hcaptures hkept
    exact ⟨r, kept, i, hr, hplain r hmem, htyped, hi, (Except.ok.inj hraw).symm⟩
  have hnumber : definition.valueExtraction.operation = .number →
      ∃ r kept x, reading readings definition.valueExtraction.capture = some r ∧ r.Plain ∧
        typed r.evidence r.type = .ok kept ∧ kept.toFloat = .ok x ∧ raw = .float x := by
    intro hoperation
    unfold extractRaw at hraw
    rw [hoperation] at hraw
    obtain ⟨kept, hkept, hraw⟩ := except_bind_eq_ok.mp hraw
    obtain ⟨x, hx, hraw⟩ := except_bind_eq_ok.mp hraw
    obtain ⟨r, hr, hmem, htyped⟩ := captured_reading hcaptures hkept
    exact ⟨r, kept, x, hr, hplain r hmem, htyped, hx, (Except.ok.inj hraw).symm⟩
  have hstored := stored_text hcaptures hraw hvalue
  constructor
  · intro h
    refine ⟨hplain, fun hoperation r hr => ?_, fun hoperation r hr => ?_,
      fun hoperation name hname r hr => ?_, fun houtput s hs => ?_⟩
    · obtain ⟨found, kept, i, hfound, hfoundPlain, htyped, hi, hrawInt⟩ := hinteger hoperation
      obtain rfl := Option.some.inj (hfound.symm.trans hr)
      obtain ⟨other, j, hother, hj, hdenoted⟩ := h.integer hoperation
      obtain rfl := Option.some.inj (hother.symm.trans hr)
      obtain rfl := PyValue.int.inj (hj.symm.trans hrawInt)
      exact (asInteger_iff htyped hfoundPlain hi).mp hdenoted
    · obtain ⟨found, kept, x, hfound, hfoundPlain, htyped, hx, hrawFloat⟩ := hnumber hoperation
      obtain rfl := Option.some.inj (hfound.symm.trans hr)
      obtain ⟨other, y, hother, hy, hdenoted⟩ := h.number hoperation
      obtain rfl := Option.some.inj (hother.symm.trans hr)
      obtain rfl := PyValue.float.inj (hy.symm.trans hrawFloat)
      exact (asNumber_iff htyped hfoundPlain hx).mp hdenoted
    · obtain ⟨found, kept, x, hfound, hmem, htyped, hx⟩ :=
        duration_part hcaptures hraw hoperation hname
      obtain rfl := Option.some.inj (hfound.symm.trans hr)
      obtain ⟨other, otherKept, y, hother, hotherTyped, hy, hdenoted⟩ :=
        h.duration hoperation name hname
      obtain rfl := Option.some.inj (hother.symm.trans hr)
      obtain rfl := Except.ok.inj (hotherTyped.symm.trans htyped)
      obtain rfl := Except.ok.inj (hy.symm.trans hx)
      exact (asNumber_iff htyped (hplain _ hmem) hx).mp hdenoted
    · rw [← hstored] at hs
      cases value with
      | str text =>
        obtain rfl := Option.some.inj hs
        exact h.address houtput _ rfl
      | _ => cases hs
  · intro h
    refine ⟨fun hoperation => ?_, fun hoperation => ?_, fun hoperation name hname => ?_,
      fun houtput s hs => ?_⟩
    · obtain ⟨r, kept, i, hr, hrPlain, htyped, hi, hrawInt⟩ := hinteger hoperation
      exact ⟨r, i, hr, hrawInt, (asInteger_iff htyped hrPlain hi).mpr (h.integer hoperation r hr)⟩
    · obtain ⟨r, kept, x, hr, hrPlain, htyped, hx, hrawFloat⟩ := hnumber hoperation
      exact ⟨r, x, hr, hrawFloat, (asNumber_iff htyped hrPlain hx).mpr (h.number hoperation r hr)⟩
    · obtain ⟨r, kept, x, hr, hmem, htyped, hx⟩ := duration_part hcaptures hraw hoperation hname
      exact ⟨r, kept, x, hr, htyped, hx,
        (asNumber_iff htyped (hplain _ hmem) hx).mpr (h.duration hoperation name hname r hr)⟩
    · subst hs
      exact h.address houtput s hstored.symm

end Extraction

theorem faithful_iff_plain {definition : MappingDefinition} {readings : List Reading}
    {captures : Captures} {value : PyValue} (hcaptures : capturedFrom readings = .ok captures)
    (hvalue : extract definition captures = .ok value) :
    Faithful definition readings captures value ↔ Plain definition readings := by
  obtain ⟨raw, hraw, hconvert⟩ := except_bind_eq_ok.mp hvalue
  constructor
  · intro h
    have hplain : ∀ r ∈ readings, r.Plain := fun r hr => by
      obtain ⟨kept, htyped, hfaithful⟩ := h.captured r hr
      exact (faithful_iff htyped).mp hfaithful
    obtain ⟨other, hother, -, hextracted⟩ := h.extracted
    obtain rfl := Except.ok.inj (hraw.symm.trans hother)
    exact (extractionFaithful_iff hcaptures hplain hraw hconvert).mp hextracted
  · intro h
    refine ⟨fun r hr => ?_, raw, hraw, hconvert,
      (extractionFaithful_iff hcaptures h.captured hraw hconvert).mpr h⟩
    obtain ⟨kept, htyped⟩ := typed_of_capturedFrom hcaptures hr
    exact ⟨kept, htyped, (faithful_iff htyped).mpr (h.captured r hr)⟩

/-- Wherever `_typed` and `extract` succeed, what they keep says what the evidence says if and only
if the evidence is plain for everything the definition reads in it. -/
theorem captures_faithful_iff (definition : MappingDefinition) (readings : List Reading)
    (captures : Captures) (value : PyValue) (hcaptures : capturedFrom readings = .ok captures)
    (hvalue : extract definition captures = .ok value) :
    Faithful definition readings captures value ↔ Plain definition readings :=
  faithful_iff_plain hcaptures hvalue

/-- What the matchers of the three formats keep is read from the arguments of the line, from the
text or the attribute of the element, or from the scalar or the presence of the JSON node, and it
says what this evidence says if and only if the evidence is plain. -/
theorem matched_values_faithful_iff (definition : MappingDefinition) {captures : Captures}
    {value : PyValue} (hvalue : extract definition captures = .ok value) :
    (∀ node, matchNode definition node = some captures →
      ∃ readings, (∀ r ∈ readings, ∃ token ∈ node.arguments, r.evidence = .str token) ∧
        (Faithful definition readings captures value ↔ Plain definition readings)) ∧
    (∀ source node, matchXmlNode source node = .ok (some captures) →
      ∃ readings, (∀ r ∈ readings, ∃ raw, xmlRaw source node = some raw ∧ r.evidence = .str raw) ∧
        (Faithful definition readings captures value ↔ Plain definition readings)) ∧
    ∀ source node, matchJsonNode source node = .ok (some captures) →
      ∃ readings, (∀ r ∈ readings, match source.source with
          | .presence => r.evidence = .bool true
          | .value => r.evidence = node.value ∧ node.value.isContainer = false) ∧
        (Faithful definition readings captures value ↔ Plain definition readings) := by
  refine ⟨fun node hmatch => ?_, fun source node hmatch => ?_, fun source node hmatch => ?_⟩
  · obtain ⟨readings, hcaptures, hevidence⟩ := matchNode_readings hmatch
    exact ⟨readings, hevidence, faithful_iff_plain hcaptures hvalue⟩
  · obtain ⟨readings, hcaptures, hevidence⟩ := matchXmlNode_readings hmatch
    exact ⟨readings, hevidence, faithful_iff_plain hcaptures hvalue⟩
  · obtain ⟨readings, hcaptures, hevidence⟩ := matchJsonNode_readings hmatch
    exact ⟨readings, hevidence, faithful_iff_plain hcaptures hvalue⟩

/-! ## A session limit with a fraction -/

def limitElement : JsonPathMatch where
  path := [{ key := some "idle-timeout" }]
  source := .value
  capture := some "minutes"
  valueType := some .integer

/-- An idle timeout is captured in minutes, as an integer. -/
def limitDefinition : MappingDefinition where
  profileApplicability := { profileVersionIds := ["acme@1.0.0"] }
  structuralMatch := { operation := .jsonPath, command := "json", jsonPath := some limitElement }
  targetFieldId := "management.session.idle_timeout"
  valueExtraction := { operation := .capture, capture := some "minutes", outputType := .duration }
  unitConversion := .minutesToSeconds
  scopeResolution := { strategy := .device }
  negationBehavior := .unsupported
  removalBehavior := .unsupported
  defaultBehavior := .unknown
  isValid := by decide +kernel

def minutesReading (evidence : PyValue) : List Reading := [⟨"minutes", .integer, evidence⟩]

theorem captures_faithful_ten :
    Faithful limitDefinition (minutesReading (.str "10")) [("minutes", .int 10)] (.int 600) ↔
      Plain limitDefinition (minutesReading (.str "10")) :=
  captures_faithful_iff limitDefinition (minutesReading (.str "10")) [("minutes", .int 10)]
    (.int 600) (by decide +kernel) (by decide +kernel)

/-- The JSON number 3.5 is captured as three minutes. -/
theorem fraction_cut_off :
    ¬ ∀ (definition : MappingDefinition) (readings : List Reading) (captures : Captures)
      (value : PyValue), capturedFrom readings = .ok captures →
      extract definition captures = .ok value → Faithful definition readings captures value := by
  intro h
  have hfaithful := h limitDefinition (minutesReading (.float (.finite (7 / 2))))
    [("minutes", .int 3)] (.int 180) (by decide +kernel) (by decide +kernel)
  obtain ⟨kept, -, i, -, hdenoted⟩ := hfaithful.captured _ List.mem_cons_self
  have hden : (7 / 2 : Rat).den = (i : Rat).den := congrArg Rat.den (Option.some.inj hdenoted)
  rw [Rat.den_intCast] at hden
  exact absurd hden (by decide +kernel)

end ConfigAuditor.Training.CapturedValues
