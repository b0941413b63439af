import ConfigAuditor.Library.Lines

/-!
# Two ways of splitting a text

A text read line by line ends its lines at line feeds only, `str.splitlines()` also at other
characters. A line that holds none of those is the first thing `str.splitlines()` makes of it.
-/
namespace ConfigAuditor.Library.Text

theorem lines_lineFeed {body : List Char} (h : '\n' ∉ body) (rest : List Char) :
    lines (body ++ '\n' :: rest) = (body ++ ['\n']) :: lines rest := by
  induction body with
  | nil => rfl
  | cons c body ih =>
    obtain ⟨hc, hbody⟩ := not_or.mp (List.mem_cons.not.mp h)
    rw [List.cons_append, lines, if_neg (by simpa using Ne.symm hc), ih hbody]
    rfl

/-- The first line of a text: it ends at the first line feed, or with the text. -/
theorem lines_cons {cs first : List Char} {rest : List (List Char)} (h : lines cs = first :: rest) :
    ∃ cs', cs = first ++ cs' ∧ lines cs' = rest ∧
      ((∃ body, first = body ++ ['\n'] ∧ '\n' ∉ body) ∨ (cs' = [] ∧ '\n' ∉ first)) := by
  induction cs generalizing first rest with
  | nil => cases h
  | cons c cs ih =>
    rw [lines] at h
    split at h
    · rename_i hfeed
      obtain ⟨rfl, rfl⟩ := List.cons.inj h
      exact ⟨cs, rfl, rfl, .inl ⟨[], by rw [beq_iff_eq.mp hfeed]; rfl, List.not_mem_nil⟩⟩
    · rename_i hfeed
      have hc : '\n' ≠ c := fun heq => hfeed (beq_iff_eq.mpr heq.symm)
      split at h
      · rename_i hnone
        obtain ⟨rfl, rfl⟩ := List.cons.inj h
        cases cs with
        | nil => exact ⟨[], rfl, rfl, .inr ⟨rfl, by simpa using hc⟩⟩
        | cons d ds => exact absurd hnone (lines_ne_nil d ds)
      · rename_i line rest' hlines
        obtain ⟨rfl, rfl⟩ := List.cons.inj h
        obtain ⟨cs', rfl, hrest, hend⟩ := ih hlines
        refine ⟨cs', rfl, hrest, ?_⟩
        obtain ⟨body, rfl, hfree⟩ | ⟨hnil, hfree⟩ := hend
        · exact .inl ⟨c :: body, rfl, List.mem_cons.not.mpr (not_or.mpr ⟨hc, hfree⟩)⟩
        · exact .inr ⟨hnil, List.mem_cons.not.mpr (not_or.mpr ⟨hc, hfree⟩)⟩

theorem lines_flatten (cs : List Char) : (lines cs).flatten = cs := by
  induction cs with
  | nil => rfl
  | cons c cs ih =>
    rw [lines]
    split
    · rw [List.flatten_cons, ih]
      rfl
    · split
      · rename_i hnone
        cases cs with
        | nil => rfl
        | cons d ds => exact absurd hnone (lines_ne_nil d ds)
      · rename_i line rest hlines
        rw [hlines, List.flatten_cons] at ih
        rw [List.flatten_cons, List.cons_append, ih]

/-- A text that goes on differently behind some of its lines still begins with them. -/
theorem lines_begin {cs tail : List Char} {front back : List (List Char)}
    (h : lines cs = front ++ back) (htail : tail <+: back.flatten) :
    lines (front.flatten ++ tail) = front ++ lines tail := by
  induction front generalizing cs with
  | nil => rfl
  | cons first front ih =>
    obtain ⟨cs', hcs, hrest, ⟨body, rfl, hfree⟩ | ⟨rfl, -⟩⟩ := lines_cons h
    · rw [List.flatten_cons, List.append_assoc, List.append_assoc, List.singleton_append,
        lines_lineFeed hfree, ih hrest, List.cons_append]
    · obtain ⟨rfl, rfl⟩ := List.append_eq_nil_iff.mp hrest.symm
      obtain rfl := List.prefix_nil.mp htail
      rw [List.append_nil] at hcs
      rw [List.flatten_singleton, List.append_nil, ← hcs, h, hcs]
      rfl

/-- A line that is read holds no line break once its end is stripped. -/
def BreakFree (line : List Char) : Prop :=
  ∀ c ∈ rstripChars ['\r', '\n'] line, isLineBreak c = false

theorem rstripChars_append (chars line : List Char) :
    ∃ ending, line = rstripChars chars line ++ ending ∧ ∀ c ∈ ending, c ∈ chars := by
  refine ⟨(line.reverse.takeWhile chars.contains).reverse, ?_, ?_⟩
  · rw [rstripChars, ← List.reverse_append, List.takeWhile_append_dropWhile, List.reverse_reverse]
  · intro c hc
    exact List.contains_iff_mem.mp (List.mem_takeWhile_imp (List.mem_reverse.mp hc))

/-- A stripped line holds no line feed. -/
theorem lineFeed_not_mem {cs line : List Char} (h : line ∈ lines cs) :
    '\n' ∉ rstripChars ['\r', '\n'] line := by
  have hstripped : ∀ body : List Char, '\n' ∉ body → '\n' ∉ rstripChars ['\r', '\n'] body := by
    intro body hbody hmem
    obtain ⟨ending, hend, -⟩ := rstripChars_append ['\r', '\n'] body
    exact hbody (hend ▸ List.mem_append_left _ hmem)
  generalize hall : lines cs = all at h
  induction all generalizing cs with
  | nil => cases h
  | cons first rest ih =>
    obtain ⟨cs', -, hrest, hend⟩ := lines_cons hall
    obtain rfl | h := List.mem_cons.mp h
    · obtain ⟨body, rfl, hbody⟩ | ⟨-, hfree⟩ := hend
      · have hdrop : rstripChars ['\r', '\n'] (body ++ ['\n']) = rstripChars ['\r', '\n'] body := by
          simp [rstripChars]
        rw [hdrop]
        exact hstripped body hbody
      · exact hstripped _ hfree
    · exact ih hrest h

theorem splitLines_ends {ending : List Char} (h : ∀ c ∈ ending, c ∈ ['\r', '\n']) :
    ∃ k, splitLines ending = List.replicate k [] := by
  induction ending with
  | nil => exact ⟨0, rfl⟩
  | cons c ending ih =>
    obtain ⟨k, hk⟩ := ih fun d hd => h d (List.mem_cons_of_mem _ hd)
    have hc : isLineBreak c = true := by
      obtain rfl | hc := List.mem_cons.mp (h c List.mem_cons_self)
      · rfl
      · obtain rfl := List.mem_singleton.mp hc
        rfl
    rw [splitLines, hk, hc]
    split
    · exact ⟨k, rfl⟩
    · exact ⟨k + 1, rfl⟩

/-- `str.splitlines()` shows a line without inner breaks first, and nothing but empty lines
behind it. -/
theorem splitLines_breakFree {line : List Char} (h : BreakFree line) (hne : line ≠ []) :
    ∃ k, splitLines line = rstripChars ['\r', '\n'] line :: List.replicate k [] := by
  obtain ⟨ending, hline, hending⟩ := rstripChars_append ['\r', '\n'] line
  unfold BreakFree at h
  generalize rstripChars ['\r', '\n'] line = body at h hline
  subst hline
  induction body with
  | nil =>
    obtain ⟨k, hk⟩ := splitLines_ends hending
    rw [List.nil_append] at hne ⊢
    obtain ⟨c, cs, rfl⟩ := List.exists_cons_of_ne_nil hne
    cases k with
    | zero => exact absurd hk splitLines_ne_nil
    | succ k => exact ⟨k, hk⟩
  | cons c body ih =>
    have hc := h c List.mem_cons_self
    have hreturn : (c == '\r') = false := by
      rw [beq_eq_false_iff_ne]
      rintro rfl
      cases hc
    rw [List.cons_append, splitLines, hreturn, Bool.false_and, if_neg Bool.false_ne_true, hc,
      if_neg Bool.false_ne_true]
    by_cases hrest : body ++ ending = []
    · obtain ⟨rfl, rfl⟩ := List.append_eq_nil_iff.mp hrest
      exact ⟨0, rfl⟩
    · obtain ⟨k, hk⟩ := ih (fun d hd => h d (List.mem_cons_of_mem _ hd)) hrest
      exact ⟨k, by rw [hk]⟩

/-- No line that `str.splitlines()` returns holds a line break. -/
theorem mem_splitLines {cs line : List Char} (h : line ∈ splitLines cs) {c : Char} (hc : c ∈ line) :
    isLineBreak c = false := by
  induction cs generalizing line c with
  | nil => cases h
  | cons d cs ih =>
    rw [splitLines] at h
    split at h
    · exact ih h hc
    · split at h
      · obtain rfl | h := List.mem_cons.mp h
        · cases hc
        · exact ih h hc
      · rename_i hd
        split at h
        · obtain rfl := List.mem_singleton.mp h
          obtain rfl := List.mem_singleton.mp hc
          simpa using hd
        · rename_i first rest hrest
          obtain rfl | h := List.mem_cons.mp h
          · obtain rfl | hc := List.mem_cons.mp hc
            · simpa using hd
            · exact ih (by rw [hrest]; exact List.mem_cons_self) hc
          · exact ih (by rw [hrest]; exact List.mem_cons_of_mem _ h) hc

end ConfigAuditor.Library.Text
