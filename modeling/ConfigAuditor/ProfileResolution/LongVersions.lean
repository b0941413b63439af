import ConfigAuditor.ProfileResolution.Exits

/-!
# Versions too long to read

The patterns of `app.profile_resolution` take a version of any number of digits, and `int` refuses
a number of more than 4300. A version of `1.` and a longer run of ones is found by every pattern
and makes `VersionConstraint.parse` raise.
-/
namespace ConfigAuditor.ProfileResolution.LongVersions

open Library Regex

/-- `1.` and a number of ones. -/
def longVersion (m : Nat) : List Char := '1' :: '.' :: List.replicate (m + 1) '1'

theorem isDigit_one : PyFloat.isDigit '1' = true := by decide

theorem getLast?_ones (m : Nat) : (List.replicate m '1').getLast?.or (some '1') = some '1' := by
  cases m with
  | zero => rfl
  | succ m =>
    rw [List.getLast?_replicate, if_neg (by omega)]
    rfl

section Patterns

variable {isWord : Char → Bool} {k : Continuation} {found : Cursor} {before : Option Char}
  {groups : List (Nat × List Char)} {rest : List Char}

/-- `\d+` takes all the ones. -/
theorem run_ones (m : Nat) (hrest : ∀ x ∈ rest.head?, PyFloat.isDigit x = false)
    (hk : k { before := some '1', rest, groups } = some found) :
    run isWord (plus digit) k { before, rest := List.replicate (m + 1) '1' ++ rest, groups } =
      some found := by
  rw [List.replicate_succ, List.cons_append]
  change (if PyFloat.isDigit '1' = true then
    upTo (run isWord digit) true k (List.replicate m '1' ++ rest).length.succ _ else none) = _
  rw [if_pos isDigit_one]
  apply upTo_run
  · intro x hx
    rw [List.eq_of_mem_replicate hx]
    exact isDigit_one
  · simp
    omega
  · exact hrest
  · rw [getLast?_ones]
    exact hk

/-- `\.\d+`. -/
def dotted : Regex := .seq (.chars (· == '.')) (plus digit)

theorem run_dotted (m : Nat) (hrest : ∀ x ∈ rest.head?, PyFloat.isDigit x = false)
    (hk : k { before := some '1', rest, groups } = some found) :
    run isWord dotted k { before, rest := '.' :: (List.replicate (m + 1) '1' ++ rest), groups } =
      some found :=
  run_ones m hrest hk

/-- After the ones there is no further part. -/
theorem run_dotted_last (m n : Nat)
    (hrest : ∀ x ∈ rest.head?, PyFloat.isDigit x = false ∧ x ≠ '.')
    (hk : k { before := some '1', rest, groups } = some found) :
    run isWord dotted (upTo (run isWord dotted) true k n)
        { before, rest := '.' :: (List.replicate (m + 1) '1' ++ rest), groups } =
      some found := by
  apply run_dotted m fun x hx => (hrest x hx).1
  rw [upTo_none]
  · exact hk
  · intro k'
    exact @run_chars_none isWord _ _ _ _ _ fun x hx => by simpa using (hrest x hx).2

theorem run_numericPattern (m : Nat)
    (hrest : ∀ x ∈ rest.head?, PyFloat.isDigit x = false ∧ x ≠ '.')
    (hk : k { before := some '1', rest, groups } = some found) :
    run isWord VersionConstraint.numericPattern k { before, rest := longVersion m ++ rest, groups } =
      some found := by
  refine @run_ones _ _ _ _ _ ('.' :: (List.replicate (m + 1) '1' ++ rest)) 0 ?_ ?_
  · simp only [List.head?_cons, Option.mem_def, Option.some.injEq, forall_eq']
    decide
  · change upTo (run isWord dotted) true k ((List.replicate (m + 1) '1' ++ rest).length + 1) _ = _
    simp only [upTo, if_true]
    rw [run_dotted_last m _ hrest hk]

end Patterns

theorem noRest {P : Char → Prop} : ∀ x ∈ ([] : List Char).head?, P x := nofun

theorem fullMatch_longVersion (m : Nat) :
    fullMatch VersionConstraint.noWords VersionConstraint.versionPattern (longVersion m) =
      true := by
  have hrun : matchStart VersionConstraint.noWords (.seq VersionConstraint.versionPattern .textEnd)
      (longVersion m) = some { before := some '1', rest := [] } := by
    have h := @run_numericPattern VersionConstraint.noWords
      (run VersionConstraint.noWords (star (.chars fun c =>
        Text.isAsciiAlnum c || c == '.' || c == '-')) (run VersionConstraint.noWords .textEnd some))
      _ none [] [] m noRest rfl
    rw [List.append_nil] at h
    exact h
  unfold fullMatch
  rw [hrun]
  rfl

theorem numericPart_longVersion (m : Nat) :
    VersionConstraint.numericPart (longVersion m) = longVersion m := by
  have h := @run_numericPattern VersionConstraint.noWords
    (fun d => some { d with groups := (1, between { rest := longVersion m } d) :: d.groups })
    _ none [] [] m noRest rfl
  rw [List.append_nil] at h
  have hmatch : matchStart VersionConstraint.noWords (.group 1 VersionConstraint.numericPattern)
      (longVersion m) = _ := h
  unfold VersionConstraint.numericPart
  rw [hmatch]
  simp [Cursor.group?, between]

theorem splitAll_ones (m : Nat) :
    Text.splitAll '.' (List.replicate m '1') = [List.replicate m '1'] := by
  induction m with
  | zero => rfl
  | succ m ih =>
    rw [List.replicate_succ, Text.splitAll, ih]
    rfl

theorem splitAll_longVersion (m : Nat) :
    Text.splitAll '.' (longVersion m) = [['1'], List.replicate (m + 1) '1'] := by
  have h : Text.splitAll '.' ('.' :: List.replicate (m + 1) '1') =
      [[], List.replicate (m + 1) '1'] := by
    rw [Text.splitAll, splitAll_ones]
    rfl
  rw [longVersion, Text.splitAll, h]
  rfl

theorem digitTail_ones (m : Nat) :
    PyFloat.digitTail (List.replicate m '1') = (List.replicate m '1', []) := by
  induction m with
  | zero => rfl
  | succ m ih =>
    cases m with
    | zero => rfl
    | succ m =>
      rw [List.replicate_succ, List.replicate_succ, PyFloat.digitTail, if_pos isDigit_one,
        ← List.replicate_succ, ih]

theorem stripList_ones (m : Nat) :
    Text.stripList Text.isSpace (List.replicate m '1') = List.replicate m '1' := by
  have hkeep : (List.replicate m '1').dropWhile Text.isSpace = List.replicate m '1' := by
    cases m with
    | zero => rfl
    | succ m => rfl
  rw [Text.stripList, hkeep, List.reverse_replicate, hkeep, List.reverse_replicate]

/-- `int` refuses the second part. -/
theorem intOfText_ones {m : Nat} (hm : PyValue.maxStrDigits ≤ m) :
    PyValue.intOfText (String.ofList (List.replicate (m + 1) '1')) = .error .valueError := by
  unfold PyValue.intOfText
  rw [String.toList_ofList, stripList_ones]
  have hsign : PyFloat.splitSign (List.replicate (m + 1) '1') =
      (false, List.replicate (m + 1) '1') := rfl
  have hrun : PyFloat.digitRun (List.replicate (m + 1) '1') =
      some (List.replicate (m + 1) '1', []) := by
    rw [List.replicate_succ, PyFloat.digitRun, if_pos isDigit_one, digitTail_ones]
  have hlong : ¬ (List.replicate (m + 1) '1').length ≤ PyValue.maxStrDigits := by
    rw [List.length_replicate]
    omega
  simp only [hsign, hrun, if_neg hlong]

theorem parse_longVersion {m : Nat} (hm : PyValue.maxStrDigits ≤ m) :
    VersionConstraint.parse (String.ofList (longVersion m)) = .error (.python .valueError) := by
  have hmatch : fullMatch VersionConstraint.noWords VersionConstraint.versionPattern
      (String.ofList (longVersion m)).toList = true := by
    rw [String.toList_ofList]
    exact fullMatch_longVersion m
  have hempty : (String.ofList (longVersion m)).isEmpty = false := by
    simp [longVersion]
  unfold VersionConstraint.parse
  rw [hmatch, hempty, String.toList_ofList, numericPart_longVersion, splitAll_longVersion]
  have hone : PyValue.intOfText (String.ofList ['1']) = .ok 1 := by decide +kernel
  simp only [Bool.not_true, Bool.or_false, List.mapM_cons, hone, intOfText_ones hm]
  rfl

/-- The word, line feeds, a long version and what follows. -/
def versionText (n m : Nat) (rest : List Char) : List Char :=
  ['v', 'e', 'r', 's', 'i', 'o', 'n'] ++ (List.replicate n '\n' ++ (longVersion m ++ rest))

theorem versionText_append (n m : Nat) (rest more : List Char) :
    versionText n m (rest ++ more) = versionText n m rest ++ more := by
  simp [versionText]

theorem length_versionText (n m : Nat) : (versionText n m []).length = n + m + 10 := by
  simp only [versionText, longVersion, List.length_append, List.length_cons, List.length_nil,
    List.length_replicate]
  omega

section Search

variable {isWord : Char → Bool} {k : Continuation} {found : Cursor} {before : Option Char}
  {groups : List (Nat × List Char)} {rest : List Char}

/-- The group of the version pattern. -/
def versionNumber : Regex :=
  all [plus digit, plus dotted, optional (plus (alnumOr ['.', '-']))]

theorem run_versionNumber (m : Nat) (hrest : ∀ x ∈ rest.head?, x = '\n')
    (hk : k { before := some '1', rest, groups } = some found) :
    run isWord versionNumber k { before, rest := longVersion m ++ rest, groups } = some found := by
  refine @run_ones _ _ _ _ _ ('.' :: (List.replicate (m + 1) '1' ++ rest)) 0 ?_ ?_
  · simp only [List.head?_cons, Option.mem_def, Option.some.injEq, forall_eq']
    decide
  · refine run_dotted_last m _ (fun x hx => ?_) ?_
    · rw [hrest x hx]
      decide
    · change upTo (run isWord (plus (alnumOr ['.', '-']))) true k 1 _ = _
      rw [upTo_none]
      · exact hk
      · intro k'
        refine @run_chars_none isWord _ _ _ _ _ fun x hx => ?_
        rw [hrest x hx]
        decide

/-- White space that is not there. -/
theorem run_star_space (n : Nat)
    (hrest : ∀ x ∈ rest.head?, Text.isSpace x = false)
    (hk : ∀ before, k { before, rest, groups } = some found) :
    run isWord (star space) k { before, rest := List.replicate n '\n' ++ rest, groups } =
      some found := by
  change upTo (run isWord space) true k (List.replicate n '\n' ++ rest).length _ = _
  apply upTo_run
  · intro x hx
    rw [List.eq_of_mem_replicate hx]
    decide
  · simp
  · exact hrest
  · exact hk _

theorem run_optional_none {body : Regex}
    (hbody : ∀ k, run isWord body k { before, rest, groups } = none)
    (hk : k { before, rest, groups } = some found) :
    run isWord (optional body) k { before, rest, groups } = some found := by
  change upTo (run isWord body) true k 1 _ = _
  rw [upTo_none hbody]
  exact hk

theorem run_word_version (rest : List Char) :
    run isWord (word "version") k { before, rest := 'v' :: 'e' :: 'r' :: 's' :: 'i' :: 'o' :: 'n' :: rest, groups } =
      k { before := some 'n', rest, groups } :=
  rfl

/-- What follows the word. -/
def afterWord : Regex :=
  all [star space, maybe [':', '='], star space, optional (word "v"), .group 1 versionNumber]

theorem runtimeVersionPattern_eq :
    runtimeVersionPattern = .seq .wordBoundary (.seq (word "version") afterWord) :=
  rfl

theorem head?_longVersion {test : Char → Bool} (htest : test '1' = false) (m : Nat) :
    ∀ x ∈ (longVersion m ++ rest).head?, test x = false := by
  intro x hx
  rw [longVersion, List.cons_append, List.head?_cons, Option.mem_def, Option.some.injEq] at hx
  rw [← hx, htest]

theorem run_letter_none (m : Nat) :
    run isWord (word "v") k { before, rest := longVersion m ++ rest, groups } = none :=
  rfl

theorem run_afterWord (n m : Nat) (before : Option Char) (hrest : ∀ x ∈ rest.head?, x = '\n') :
    run isWord afterWord some
        { before, rest := List.replicate n '\n' ++ (longVersion m ++ rest) } =
      some { before := some '1', rest, groups := [(1, longVersion m)] } := by
  have hspace : Text.isSpace '1' = false := by decide
  have hseparator : [':', '='].contains '1' = false := by decide
  apply run_star_space n (head?_longVersion hspace m)
  intro before
  apply run_optional_none
  · intro k'
    exact @run_chars_none isWord _ _ _ _ _ (head?_longVersion hseparator m)
  apply run_star_space 0 (head?_longVersion hspace m)
  intro before
  apply run_optional_none
  · exact fun k' => run_letter_none m
  refine run_versionNumber m hrest ?_
  simp [run, between]

theorem search_versionText (n m : Nat) (hword : isWord 'v' = true)
    (hrest : ∀ x ∈ rest.head?, x = '\n') :
    search isWord runtimeVersionPattern (versionText n m rest) =
      some { before := some '1', rest, groups := [(1, longVersion m)] } := by
  have hboundary : atBoundary isWord { rest := versionText n m rest } = true := by
    change (false != isWord 'v') = true
    rw [hword]
    rfl
  have hstart : run isWord runtimeVersionPattern some { rest := versionText n m rest } =
      some { before := some '1', rest, groups := [(1, longVersion m)] } := by
    rw [runtimeVersionPattern_eq, run, run, if_pos hboundary, run]
    simp only [versionText, List.cons_append, List.nil_append]
    rw [run_word_version]
    exact run_afterWord n m (some 'n') hrest
  unfold search
  have hcons : versionText n m rest = 'v' :: (versionText n m rest).tail := rfl
  rw [hcons] at hstart ⊢
  rw [searchFrom, hstart]

theorem group_versionText (n m : Nat) (hword : isWord 'v' = true)
    (hrest : ∀ x ∈ rest.head?, x = '\n') :
    (search isWord runtimeVersionPattern (versionText n m rest)).map (·.group 1) =
      some (String.ofList (longVersion m)) := by
  rw [search_versionText n m hword hrest]
  rfl

end Search

end ConfigAuditor.ProfileResolution.LongVersions
