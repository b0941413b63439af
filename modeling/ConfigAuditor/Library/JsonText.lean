import ConfigAuditor.Errors

/-!
# Where the text of a JSON value ends

In a text that goes on with a comma, the encoding of a value ends at the first comma outside of
strings and brackets. Two texts that begin with encodings and are equal therefore begin with
equal encodings.
-/
namespace ConfigAuditor.Library.JsonText

inductive Mode where
  | plain
  | quoted
  | escaped

/-- The text from the first comma outside of strings and brackets on. -/
def skip : Nat → Mode → List Char → List Char
  | _, _, [] => []
  | depth, .plain, c :: cs =>
    if c = ',' ∧ depth = 0 then c :: cs
    else if c = '"' then skip depth .quoted cs
    else if c = '[' ∨ c = '\x7b' then skip (depth + 1) .plain cs
    else if c = ']' ∨ c = '\x7d' then skip (depth - 1) .plain cs
    else skip depth .plain cs
  | depth, .quoted, c :: cs =>
    if c = '\\' then skip depth .escaped cs
    else if c = '"' then skip depth .plain cs
    else skip depth .quoted cs
  | depth, .escaped, _ :: cs => skip depth .quoted cs

/-- A text that a scan passes, whatever follows it. -/
def Passed (cs : List Char) : Prop :=
  ∀ depth rest, skip depth .plain (cs ++ rest) = skip depth .plain rest

/-- Characters outside strings that are neither brackets nor separators. -/
def ordinary (c : Char) : Bool := !([',', '"', '[', ']', '\x7b', '\x7d'].contains c)

theorem passed_ordinary {cs : List Char} (h : ∀ c ∈ cs, ordinary c = true) : Passed cs := by
  intro depth rest
  induction cs with
  | nil => rfl
  | cons c cs ih =>
    have hc := h c List.mem_cons_self
    simp only [ordinary, List.contains_eq_mem, List.mem_cons, List.not_mem_nil, or_false,
      Bool.not_eq_true', decide_eq_false_iff_not, not_or] at hc
    obtain ⟨hcomma, hquote, hopen, hclose, hbrace, hbraceClose⟩ := hc
    rw [List.cons_append, skip]
    simp only [hcomma, hquote, hopen, hclose, hbrace, hbraceClose, false_and, or_self, if_false]
    exact ih fun c hc => h c (List.mem_cons_of_mem _ hc)

theorem ordinary_of_all {cs : List Char} (h : cs.all ordinary = true) :
    ∀ c ∈ cs, ordinary c = true :=
  List.all_eq_true.mp h

theorem Passed.append {cs ds : List Char} (hc : Passed cs) (hd : Passed ds) :
    Passed (cs ++ ds) := by
  intro depth rest
  rw [List.append_assoc, hc, hd]

theorem skip_quoted_ordinary {cs : List Char} (h : ∀ c ∈ cs, c ≠ '\\' ∧ c ≠ '"') (depth : Nat)
    (rest : List Char) : skip depth .quoted (cs ++ rest) = skip depth .quoted rest := by
  induction cs with
  | nil => rfl
  | cons c cs ih =>
    obtain ⟨hslash, hquote⟩ := h c List.mem_cons_self
    rw [List.cons_append, skip, if_neg hslash, if_neg hquote]
    exact ih fun c hc => h c (List.mem_cons_of_mem _ hc)

theorem hexDigits_plain (n : Nat) : ∀ c ∈ PyValue.hexDigits n, c ≠ '\\' ∧ c ≠ '"' := by
  have hdigit : ∀ d < 16, Nat.digitChar d ≠ '\\' ∧ Nat.digitChar d ≠ '"' := by decide
  intro c hc
  simp only [PyValue.hexDigits, List.mem_cons, List.not_mem_nil, or_false] at hc
  rcases hc with rfl | rfl | rfl | rfl <;> exact hdigit _ (Nat.mod_lt _ (by decide))

/-- The escape of a character stays inside the string. -/
theorem skip_escapeChar (c : Char) (depth : Nat) (rest : List Char) :
    skip depth .quoted (PyValue.escapeChar c ++ rest) = skip depth .quoted rest := by
  have hhex : ∀ (n : Nat) (rest : List Char),
      skip depth .quoted ('\\' :: 'u' :: PyValue.hexDigits n ++ rest) =
        skip depth .quoted rest := by
    intro n rest
    simp only [List.cons_append, skip, if_true]
    exact skip_quoted_ordinary (hexDigits_plain n) depth rest
  unfold PyValue.escapeChar
  simp only [beq_iff_eq, Bool.and_eq_true, decide_eq_true_eq]
  split_ifs with hquote hslash hn hr ht hf hb hprint hlow
  · simp [skip]
  · simp [skip]
  · simp [skip]
  · simp [skip]
  · simp [skip]
  · simp [skip]
  · simp [skip]
  · exact skip_quoted_ordinary (by simp [hquote, hslash]) depth rest
  · exact hhex _ rest
  · rw [List.append_assoc, hhex, hhex]

theorem passed_jsonString (s : String) : Passed (PyValue.jsonString s) := by
  intro depth rest
  have hinside : ∀ cs : List Char, skip depth .quoted (cs.flatMap PyValue.escapeChar ++
      '"' :: rest) = skip depth .plain rest := by
    intro cs
    induction cs with
    | nil => simp [skip]
    | cons c cs ih => rw [List.flatMap_cons, List.append_assoc, skip_escapeChar, ih]
  have hquote := hinside s.toList
  simp only [PyValue.jsonString, List.cons_append, List.append_assoc, List.nil_append]
  rw [skip]
  simpa using hquote

theorem ordinary_digit {c : Char} (h : Text.isAsciiDigit c = true) : ordinary c = true := by
  simp only [Text.isAsciiDigit, Bool.and_eq_true, decide_eq_true_eq] at h
  simp only [ordinary, List.contains_eq_mem, List.mem_cons, List.not_mem_nil, or_false,
    Bool.not_eq_true', decide_eq_false_iff_not, not_or]
  refine ⟨?_, ?_, ?_, ?_, ?_, ?_⟩ <;> rintro rfl <;> revert h <;> decide

theorem ordinary_nat (n : Nat) : ∀ c ∈ (toString n).toList, ordinary c = true := by
  intro c hc
  rw [Text.toString_toList] at hc
  exact ordinary_digit (List.all_eq_true.mp (Text.toDigits_all_digits n) c hc)

theorem ordinary_int (i : Int) : ∀ c ∈ (toString i).toList, ordinary c = true := by
  intro c hc
  cases i with
  | ofNat n => exact ordinary_nat n c hc
  | negSucc n =>
    have htext : (toString (Int.negSucc n)).toList = '-' :: (toString (n + 1)).toList := by
      show ("-" ++ toString (n + 1)).toList = _
      simp
    rw [htext] at hc
    rcases List.mem_cons.mp hc with rfl | hc
    · decide
    · exact ordinary_nat _ c hc

theorem ordinary_append {s t : String} (hs : ∀ c ∈ s.toList, ordinary c = true)
    (ht : ∀ c ∈ t.toList, ordinary c = true) : ∀ c ∈ (s ++ t).toList, ordinary c = true := by
  intro c hc
  rw [String.toList_append] at hc
  exact (List.mem_append.mp hc).elim (hs c) (ht c)

theorem ordinary_ofList {cs : List Char} (h : ∀ c ∈ cs, ordinary c = true) :
    ∀ c ∈ (String.ofList cs).toList, ordinary c = true := by
  rwa [String.toList_ofList]

theorem ordinary_reprPos (q : Rat) : ∀ c ∈ (PyFloat.reprPos q).toList, ordinary c = true := by
  have hdigits : ∀ n, ∀ c ∈ PyFloat.dropTrailingZeros (PyFloat.digitsOf n), ordinary c = true := by
    intro n c hc
    rw [PyFloat.dropTrailingZeros, List.mem_reverse] at hc
    exact ordinary_nat n c (List.mem_reverse.mp ((List.dropWhile_sublist _).mem hc))
  have hzeros : ∀ n, ∀ c ∈ List.replicate n '0', ordinary c = true := by
    intro n c hc
    rw [List.eq_of_mem_replicate hc]
    decide
  unfold PyFloat.reprPos
  dsimp only
  generalize PyFloat.shortest q (PyFloat.decimalPoint q) 16 1 = found
  have hall := hdigits found.1
  generalize PyFloat.dropTrailingZeros (PyFloat.digitsOf found.1) = digits at hall ⊢
  generalize ((PyFloat.digitsOf found.1).length : Int) + found.2 = point
  by_cases hplain : -4 < point ∧ point ≤ 16
  · rw [if_pos hplain]
    by_cases hsmall : point ≤ 0
    · rw [if_pos hsmall]
      refine ordinary_append (ordinary_of_all (by decide)) (ordinary_ofList fun c hc => ?_)
      exact (List.mem_append.mp hc).elim (hzeros _ c) (hall c)
    · rw [if_neg hsmall]
      refine ordinary_append
        (ordinary_append (ordinary_ofList fun c hc => ?_) (ordinary_of_all (by decide))) ?_
      · exact (List.mem_append.mp hc).elim (fun hc => hall c (List.mem_of_mem_take hc)) (hzeros _ c)
      · split_ifs
        · exact ordinary_of_all (by decide)
        · exact ordinary_ofList fun c hc => hall c (List.mem_of_mem_drop hc)
  · rw [if_neg hplain]
    refine ordinary_append
      (ordinary_append (ordinary_append ?_ (ordinary_of_all (by decide))) ?_) ?_
    · split
      · exact ordinary_of_all (by decide)
      · exact ordinary_ofList hall
      · refine ordinary_ofList fun c hc => ?_
        simp only [List.mem_cons] at hc hall
        rcases hc with rfl | rfl | hc
        · exact hall c (.inl rfl)
        · decide
        · exact hall c (.inr hc)
    · split_ifs <;> exact ordinary_of_all (by decide)
    · split_ifs
      · exact ordinary_append (ordinary_of_all (by decide)) (ordinary_nat _)
      · exact ordinary_nat _

theorem ordinary_jsonFloat (x : PyFloat) : ∀ c ∈ (PyValue.jsonFloat x).toList,
    ordinary c = true := by
  cases x with
  | finite q =>
    intro c hc
    simp only [PyValue.jsonFloat, PyFloat.repr] at hc
    split_ifs at hc with hzero hpos
    · exact ordinary_of_all (by decide) c hc
    · exact ordinary_reprPos q c hc
    · rw [String.toList_append, List.mem_append] at hc
      rcases hc with hc | hc
      · exact ordinary_of_all (by decide) c hc
      · exact ordinary_reprPos _ c hc
  | negZero => exact ordinary_of_all (by decide)
  | inf => exact ordinary_of_all (by decide)
  | negInf => exact ordinary_of_all (by decide)
  | nan => exact ordinary_of_all (by decide)

theorem passed_commaSeparated {parts : List (List Char)} (h : ∀ part ∈ parts, Passed part)
    (depth : Nat) (rest : List Char) :
    skip (depth + 1) .plain (PyValue.commaSeparated parts ++ rest) =
      skip (depth + 1) .plain rest := by
  induction parts with
  | nil => rfl
  | cons part parts ih =>
    have hpart := h part List.mem_cons_self
    have hparts := ih fun p hp => h p (List.mem_cons_of_mem _ hp)
    cases parts with
    | nil => simpa [PyValue.commaSeparated] using hpart (depth + 1) rest
    | cons next more =>
      have hsplit : PyValue.commaSeparated (part :: next :: more) =
          part ++ ',' :: PyValue.commaSeparated (next :: more) := by
        simp [PyValue.commaSeparated, List.intercalate, List.intersperse]
      rw [hsplit, List.append_assoc, hpart, List.cons_append, skip]
      simpa using hparts

/-- Brackets around passed parts. -/
theorem passed_bracketed {parts : List (List Char)} (h : ∀ part ∈ parts, Passed part)
    {start finish : Char} (hstart : start = '[' ∨ start = '\x7b')
    (hfinish : finish = ']' ∨ finish = '\x7d') :
    Passed (start :: PyValue.commaSeparated parts ++ [finish]) := by
  intro depth rest
  rw [List.append_assoc, List.cons_append, skip]
  have hopen : ¬(start = ',' ∧ depth = 0) ∧ start ≠ '"' := by
    rcases hstart with rfl | rfl <;> simp
  have hclose : (¬(finish = ',' ∧ depth + 1 = 0) ∧ finish ≠ '"') ∧
      ¬(finish = '[' ∨ finish = '\x7b') := by
    rcases hfinish with rfl | rfl <;> simp
  rw [if_neg hopen.1, if_neg hopen.2, if_pos hstart, passed_commaSeparated h, List.cons_append,
    skip, if_neg hclose.1.1, if_neg hclose.1.2, if_neg hclose.2, if_pos hfinish]
  rfl

mutual
theorem passed_encode (sortKeys : Bool) (value : PyValue) {cs : List Char}
    (h : PyValue.encode sortKeys value = .ok cs) : Passed cs := by
  cases value with
  | none =>
    cases h
    exact passed_ordinary (ordinary_of_all (by decide))
  | bool b =>
    cases h
    exact passed_ordinary (by cases b <;> exact ordinary_of_all (by decide))
  | int i =>
    rw [PyValue.encode, PyValue.intText] at h
    split at h
    · cases h
      exact passed_ordinary (ordinary_int i)
    · cases h
  | float x =>
    cases h
    exact passed_ordinary (ordinary_jsonFloat x)
  | str s =>
    cases h
    exact passed_jsonString s
  | list items =>
    simp only [PyValue.encode, except_bind_eq_ok, except_pure_eq_ok] at h
    obtain ⟨parts, hparts, rfl⟩ := h
    exact passed_bracketed (passed_encodeList sortKeys items hparts) (.inl rfl) (.inl rfl)
  | dict entries =>
    simp only [PyValue.encode, except_bind_eq_ok, except_pure_eq_ok] at h
    obtain ⟨parts, hparts, rfl⟩ := h
    refine passed_bracketed (fun member hmember => ?_) (.inr rfl) (.inr rfl)
    obtain ⟨part, hpart, rfl⟩ := List.mem_map.mp hmember
    have hin : part ∈ parts := by
      unfold PyValue.ordered at hpart
      split at hpart
      · exact (List.mem_insertionSort _).mp hpart
      · exact hpart
    refine (passed_jsonString part.1).append ?_
    exact (passed_ordinary (ordinary_of_all (by decide : [':'].all ordinary = true))).append
      (passed_encodeEntries sortKeys entries hparts part hin)

theorem passed_encodeList (sortKeys : Bool) (items : List PyValue) {parts : List (List Char)}
    (h : PyValue.encodeList sortKeys items = .ok parts) : ∀ part ∈ parts, Passed part := by
  cases items with
  | nil =>
    cases h
    intro part hpart
    cases hpart
  | cons item rest =>
    simp only [PyValue.encodeList, except_bind_eq_ok, except_pure_eq_ok] at h
    obtain ⟨first, hfirst, others, hothers, rfl⟩ := h
    intro part hpart
    rcases List.mem_cons.mp hpart with rfl | hpart
    · exact passed_encode sortKeys item hfirst
    · exact passed_encodeList sortKeys rest hothers part hpart

theorem passed_encodeEntries (sortKeys : Bool) (entries : List (String × PyValue))
    {parts : List (String × List Char)}
    (h : PyValue.encodeEntries sortKeys entries = .ok parts) : ∀ part ∈ parts, Passed part.2 := by
  cases entries with
  | nil =>
    cases h
    intro part hpart
    cases hpart
  | cons entry rest =>
    obtain ⟨key, value⟩ := entry
    simp only [PyValue.encodeEntries, except_bind_eq_ok, except_pure_eq_ok] at h
    obtain ⟨first, hfirst, others, hothers, rfl⟩ := h
    intro part hpart
    rcases List.mem_cons.mp hpart with rfl | hpart
    · exact passed_encode sortKeys value hfirst
    · exact passed_encodeEntries sortKeys rest hothers part hpart
end

/-- Before a comma the text of a value ends where it ends. -/
theorem passed_comma_cancel {cs ds rest rest' : List Char} (hc : Passed cs) (hd : Passed ds)
    (h : cs ++ ',' :: rest = ds ++ ',' :: rest') : cs = ds ∧ rest = rest' := by
  have hskip := congrArg (skip 0 .plain) h
  rw [hc, hd] at hskip
  simp only [skip, true_and, if_true, List.cons.injEq] at hskip
  subst hskip
  exact ⟨List.append_cancel_right h, rfl⟩

end ConfigAuditor.Library.JsonText
