import ConfigAuditor.Library.Float

/-!
# Backtracking patterns

Patterns as `re` matches them: the alternatives are tried in order, a repetition takes as
much or as little as it can, and the first way through wins. The class of word characters
is a parameter. A matcher is given what is to be matched after it.
-/
namespace ConfigAuditor.Library

/-- A place in a text, and the groups captured on the way to it, the last one first. -/
structure Cursor where
  before : Option Char := none
  rest : List Char
  groups : List (Nat × List Char) := []
  deriving DecidableEq

/-- What comes after a pattern. -/
abbrev Continuation := Cursor → Option Cursor

inductive Regex where
  | empty
  /-- One character of a class. -/
  | chars (test : Char → Bool)
  | seq (first second : Regex)
  | alt (first second : Regex)
  /-- At least `least` and, if there is a bound, at most `least + more` times. -/
  | repeated (greedy : Bool) (least : Nat) (more : Option Nat) (body : Regex)
  | group (index : Nat) (body : Regex)
  /-- `\b`. -/
  | wordBoundary
  /-- `^`. -/
  | textStart
  /-- `$`. -/
  | lineEnd
  /-- The end of the text. -/
  | textEnd

namespace Regex

/-- The body `n` times, then the rest. -/
def exactly (body : Continuation → Continuation) (k : Continuation) : Nat → Continuation
  | 0 => k
  | n + 1 => body (exactly body k n)

/-- The body up to `n` times, then the rest: as often as possible first, or as rarely. -/
def upTo (body : Continuation → Continuation) (greedy : Bool) (k : Continuation) :
    Nat → Continuation
  | 0, c => k c
  | n + 1, c =>
    if greedy then
      match body (upTo body greedy k n) c with
      | some found => some found
      | none => k c
    else
      match k c with
      | some found => some found
      | none => body (upTo body greedy k n) c

section Matching

variable (isWord : Char → Bool)

/-- A word character on exactly one side. -/
def atBoundary (c : Cursor) : Bool := c.before.any isWord != c.rest.head?.any isWord

/-- The text between two places. -/
def between (start finish : Cursor) : List Char :=
  start.rest.take (start.rest.length - finish.rest.length)

def run : Regex → Continuation → Continuation
  | .empty, k, c => k c
  | .chars test, k, c =>
    match c.rest with
    | [] => none
    | x :: rest => if test x then k { c with before := some x, rest } else none
  | .seq first second, k, c => run first (run second k) c
  | .alt first second, k, c =>
    match run first k c with
    | some found => some found
    | none => run second k c
  | .repeated greedy least more body, k, c =>
    -- without a bound every turn but the last takes a character
    exactly (run body) (upTo (run body) greedy k (more.getD c.rest.length)) least c
  | .group index body, k, c =>
    run body (fun d => k { d with groups := (index, between c d) :: d.groups }) c
  | .wordBoundary, k, c => if atBoundary isWord c then k c else none
  | .textStart, k, c => if c.before.isNone then k c else none
  | .lineEnd, k, c => if c.rest = [] ∨ c.rest = ['\n'] then k c else none
  | .textEnd, k, c => if c.rest = [] then k c else none

/-- The first match from a place on. -/
def searchFrom (r : Regex) : Option Char → List Char → Option Cursor
  | before, [] => run isWord r some { before, rest := [] }
  | before, x :: rest =>
    match run isWord r some { before, rest := x :: rest } with
    | some found => some found
    | none => searchFrom r (some x) rest

/-- `pattern.search(text)`. -/
def search (r : Regex) (text : List Char) : Option Cursor := searchFrom isWord r none text

/-- `pattern.search(text) is not None`. -/
def found (r : Regex) (text : List Char) : Bool := (search isWord r text).isSome

/-- `pattern.match(text)`. -/
def matchStart (r : Regex) (text : List Char) : Option Cursor :=
  run isWord r some { rest := text }

/-- `pattern.fullmatch(text) is not None`. -/
def fullMatch (r : Regex) (text : List Char) : Bool :=
  (matchStart isWord (.seq r .textEnd) text).isSome

end Matching

end Regex

/-- `match.group(index)`. -/
def Cursor.group? (c : Cursor) (index : Nat) : Option (List Char) :=
  (c.groups.find? (·.1 == index)).map (·.2)

/-- `match.group(index)` of a group that every match sets. -/
def Cursor.group (c : Cursor) (index : Nat) : String := String.ofList ((c.group? index).getD [])

namespace Regex

/-- A text, in any case. -/
def word (text : String) : Regex :=
  text.toList.foldr (fun x rest =>
    .seq (.chars fun y => Text.foldCase y == Text.foldCase x) rest) .empty

/-- One of several patterns. -/
def oneOf : List Regex → Regex
  | [] => .chars fun _ => false
  | [r] => r
  | r :: rest => .alt r (oneOf rest)

/-- Patterns one after the other. -/
def all (parts : List Regex) : Regex := parts.foldr .seq .empty

def star (r : Regex) : Regex := .repeated true 0 none r
def plus (r : Regex) : Regex := .repeated true 1 none r
def optional (r : Regex) : Regex := .repeated true 0 (some 1) r

/-- `r{0,n}?`. -/
def fewUpTo (n : Nat) (r : Regex) : Regex := .repeated false 0 (some n) r

/-- `.`. -/
def anyChar : Regex := .chars fun c => c != '\n'

/-- `\s`. -/
def space : Regex := .chars Text.isSpace

/-- `\S`. -/
def visible : Regex := .chars fun c => !Text.isSpace c

/-- `\d`. -/
def digit : Regex := .chars PyFloat.isDigit

/-- A class of letters, digits and the given characters, in any case. -/
def alnumOr (others : List Char) : Regex :=
  .chars fun c => Text.isAsciiAlnum (Text.foldCase c) || others.contains c

variable {isWord : Char → Bool}

/-- A class that goes on is repeated to its end, when the rest matches there. -/
theorem upTo_run {test : Char → Bool} {k : Continuation} {found : Cursor} {taken rest : List Char}
    (htest : ∀ x ∈ taken, test x = true) :
    ∀ {n : Nat} {before : Option Char} {groups : List (Nat × List Char)},
      taken.length ≤ n → (∀ x ∈ rest.head?, test x = false) →
      k { before := taken.getLast?.or before, rest, groups } = some found →
      upTo (run isWord (.chars test)) true k n { before, rest := taken ++ rest, groups } =
        some found := by
  induction taken with
  | nil =>
    intro n before groups _ hrest hk
    cases n with
    | zero => simpa [upTo] using hk
    | succ n =>
      have hstop : run isWord (.chars test) (upTo (run isWord (.chars test)) true k n)
          { before, rest, groups } = none := by
        cases rest with
        | nil => rfl
        | cons x rest => simp [run, hrest x rfl]
      simp only [List.nil_append, upTo, if_true, hstop]
      simpa using hk
  | cons x taken ih =>
    intro n before groups hn hrest hk
    obtain ⟨m, rfl⟩ : ∃ m, n = m + 1 := ⟨n - 1, by simp at hn; omega⟩
    have hx : test x = true := htest x (by simp)
    have hlast : (x :: taken).getLast?.or before = taken.getLast?.or (some x) := by
      cases taken with
      | nil => rfl
      | cons y taken => simp [List.getLast?_cons]
    rw [hlast] at hk
    have hrun : upTo (run isWord (.chars test)) true k m
        { before := some x, rest := taken ++ rest, groups } = some found :=
      ih (fun y hy => htest y (by simp [hy])) (by simp at hn; omega) hrest hk
    have hbody : run isWord (.chars test) (upTo (run isWord (.chars test)) true k m)
        { before, rest := x :: (taken ++ rest), groups } = some found := by
      simpa [run, hx] using hrun
    simp only [upTo, if_true, List.cons_append, hbody]

/-- A class does not match what it does not contain. -/
theorem run_chars_none {test : Char → Bool} {k : Continuation} {before : Option Char}
    {rest : List Char} {groups : List (Nat × List Char)}
    (hrest : ∀ x ∈ rest.head?, test x = false) :
    run isWord (.chars test) k { before, rest, groups } = none := by
  cases rest with
  | nil => rfl
  | cons x rest => simp [run, hrest x rfl]

/-- What cannot start is not repeated. -/
theorem upTo_none {body : Continuation → Continuation} {c : Cursor} (h : ∀ k, body k c = none)
    (k : Continuation) (n : Nat) : upTo body true k n c = k c := by
  cases n with
  | zero => rfl
  | succ n => simp [upTo, h]

/-- The texts a pattern can take, whatever stands around them. -/
inductive Takes : Regex → List Char → Prop
  | empty : Takes .empty []
  | chars {test : Char → Bool} {x : Char} (hx : test x = true) : Takes (.chars test) [x]
  | seq {first second : Regex} {l m : List Char} (hl : Takes first l) (hm : Takes second m) :
      Takes (.seq first second) (l ++ m)
  | altFirst {first second : Regex} {l : List Char} (hl : Takes first l) :
      Takes (.alt first second) l
  | altSecond {first second : Regex} {l : List Char} (hl : Takes second l) :
      Takes (.alt first second) l
  | repeated {greedy : Bool} {least : Nat} {more : Option Nat} {body : Regex}
      {parts : List (List Char)} (hparts : ∀ part ∈ parts, Takes body part)
      (hleast : least ≤ parts.length) : Takes (.repeated greedy least more body) parts.flatten
  | group {index : Nat} {body : Regex} {l : List Char} (hl : Takes body l) :
      Takes (.group index body) l
  | wordBoundary : Takes .wordBoundary []
  | textStart : Takes .textStart []
  | lineEnd : Takes .lineEnd []
  | textEnd : Takes .textEnd []

/-- A matcher hands on the place behind a text that is taken. -/
def Sound (body : Continuation → Continuation) (taken : List Char → Prop) : Prop :=
  ∀ k c found, body k c = some found →
    ∃ d l, taken l ∧ c.rest = l ++ d.rest ∧ k d = some found

/-- A number of takings in a row. -/
def Turns (taken : List Char → Prop) (n : Nat) (l : List Char) : Prop :=
  ∃ parts : List (List Char), (∀ part ∈ parts, taken part) ∧ parts.length = n ∧ l = parts.flatten

theorem turns_zero {taken : List Char → Prop} : Turns taken 0 [] := ⟨[], by simp, rfl, rfl⟩

theorem turns_succ {taken : List Char → Prop} {n : Nat} {l m : List Char} (hl : taken l)
    (hm : Turns taken n m) : Turns taken (n + 1) (l ++ m) := by
  obtain ⟨parts, hparts, rfl, rfl⟩ := hm
  refine ⟨l :: parts, ?_, rfl, rfl⟩
  intro part hpart
  rcases List.mem_cons.mp hpart with rfl | hpart
  · exact hl
  · exact hparts part hpart

theorem upTo_sound {body : Continuation → Continuation} {taken : List Char → Prop}
    (hbody : Sound body taken) (greedy : Bool) (n : Nat) :
    Sound (fun k => upTo body greedy k n) (fun l => ∃ turns, Turns taken turns l) := by
  induction n with
  | zero =>
    intro k c found h
    exact ⟨c, [], ⟨0, turns_zero⟩, rfl, h⟩
  | succ n ih =>
    intro k c found h
    have hmore : body (upTo body greedy k n) c = some found →
        ∃ d l, (∃ turns, Turns taken turns l) ∧ c.rest = l ++ d.rest ∧ k d = some found := by
      intro hk
      obtain ⟨d, l, hl, hrest, hd⟩ := hbody _ _ _ hk
      obtain ⟨d', l', ⟨turns, hturns⟩, hrest', hd'⟩ := ih _ _ _ hd
      refine ⟨d', l ++ l', ⟨turns + 1, turns_succ hl hturns⟩, ?_, hd'⟩
      rw [hrest, hrest', List.append_assoc]
    dsimp only [upTo] at h
    split at h
    · split at h
      · rename_i first hfirst
        cases h
        exact hmore hfirst
      · exact ⟨c, [], ⟨0, turns_zero⟩, rfl, h⟩
    · split at h
      · rename_i first hfirst
        cases h
        exact ⟨c, [], ⟨0, turns_zero⟩, rfl, hfirst⟩
      · exact hmore h

theorem exactly_sound {body : Continuation → Continuation} {taken : List Char → Prop}
    (hbody : Sound body taken) (n : Nat) :
    Sound (fun k => exactly body k n) (Turns taken n) := by
  induction n with
  | zero =>
    intro k c found h
    exact ⟨c, [], turns_zero, rfl, h⟩
  | succ n ih =>
    intro k c found h
    obtain ⟨d, l, hl, hrest, hd⟩ := hbody _ _ _ h
    obtain ⟨d', l', hturns, hrest', hd'⟩ := ih _ _ _ hd
    refine ⟨d', l ++ l', turns_succ hl hturns, ?_, hd'⟩
    rw [hrest, hrest', List.append_assoc]

/-- What is matched is a text that the pattern takes, and what comes after it matches there. -/
theorem run_sound (r : Regex) : Sound (run isWord r) (Takes r) := by
  induction r with
  | empty => exact fun k c found h => ⟨c, [], .empty, rfl, h⟩
  | chars test =>
    intro k c found h
    dsimp only [run] at h
    split at h
    · cases h
    · rename_i x rest hrest
      split at h
      · rename_i hx
        exact ⟨{ c with before := some x, rest }, [x], .chars hx, hrest, h⟩
      · cases h
  | seq first second hfirst hsecond =>
    intro k c found h
    obtain ⟨d, l, hl, hrest, hd⟩ := hfirst _ _ _ h
    obtain ⟨d', m, hm, hrest', hd'⟩ := hsecond _ _ _ hd
    exact ⟨d', l ++ m, .seq hl hm, by rw [hrest, hrest', List.append_assoc], hd'⟩
  | alt first second hfirst hsecond =>
    intro k c found h
    dsimp only [run] at h
    split at h
    · rename_i one hone
      cases h
      obtain ⟨d, l, hl, hrest, hd⟩ := hfirst _ _ _ hone
      exact ⟨d, l, .altFirst hl, hrest, hd⟩
    · obtain ⟨d, l, hl, hrest, hd⟩ := hsecond _ _ _ h
      exact ⟨d, l, .altSecond hl, hrest, hd⟩
  | repeated greedy least more body hbody =>
    intro k c found h
    obtain ⟨d, l, ⟨parts, hparts, hlength, rfl⟩, hrest, hd⟩ :=
      exactly_sound hbody least _ _ _ h
    obtain ⟨d', l', ⟨turns, others, hothers, -, rfl⟩, hrest', hd'⟩ :=
      upTo_sound hbody greedy _ _ _ _ hd
    refine ⟨d', (parts ++ others).flatten, .repeated ?_ ?_, ?_, hd'⟩
    · intro part hpart
      exact (List.mem_append.mp hpart).elim (hparts part) (hothers part)
    · rw [List.length_append]
      omega
    · rw [hrest, hrest', List.flatten_append, List.append_assoc]
  | group index body hbody =>
    intro k c found h
    obtain ⟨d, l, hl, hrest, hd⟩ := hbody _ _ _ h
    exact ⟨{ d with groups := (index, between c d) :: d.groups }, l, .group hl, hrest, hd⟩
  | wordBoundary =>
    intro k c found h
    dsimp only [run] at h
    split at h
    · exact ⟨c, [], .wordBoundary, rfl, h⟩
    · cases h
  | textStart =>
    intro k c found h
    dsimp only [run] at h
    split at h
    · exact ⟨c, [], .textStart, rfl, h⟩
    · cases h
  | lineEnd =>
    intro k c found h
    dsimp only [run] at h
    split at h
    · exact ⟨c, [], .lineEnd, rfl, h⟩
    · cases h
  | textEnd =>
    intro k c found h
    dsimp only [run] at h
    split at h
    · exact ⟨c, [], .textEnd, rfl, h⟩
    · cases h

/-- A matcher that finds a way finds one when more continuations do. -/
def Monotone (body : Continuation → Continuation) : Prop :=
  ∀ k k' c, (∀ d, (k d).isSome = true → (k' d).isSome = true) →
    (body k c).isSome = true → (body k' c).isSome = true

theorem isSome_or {a b : Option Cursor} :
    (match a with
      | some found => some found
      | none => b).isSome = true ↔ a.isSome = true ∨ b.isSome = true := by
  cases a <;> simp

theorem upTo_mono {body : Continuation → Continuation} (hbody : Monotone body) (greedy : Bool)
    (n : Nat) : Monotone fun k => upTo body greedy k n := by
  induction n with
  | zero => exact fun k k' c hk h => hk c h
  | succ n ih =>
    intro k k' c hk h
    have hmore : (body (upTo body greedy k n) c).isSome = true →
        (body (upTo body greedy k' n) c).isSome = true :=
      hbody _ _ c fun d => ih k k' d hk
    dsimp only [upTo] at h ⊢
    cases greedy with
    | true =>
      rw [if_pos rfl, isSome_or] at h ⊢
      exact h.imp hmore (hk c)
    | false =>
      rw [if_neg (by decide), isSome_or] at h ⊢
      exact h.imp (hk c) hmore

theorem exactly_mono {body : Continuation → Continuation} (hbody : Monotone body) (n : Nat) :
    Monotone fun k => exactly body k n := by
  induction n with
  | zero => exact fun k k' c hk h => hk c h
  | succ n ih => exact fun k k' c hk h => hbody _ _ c (fun d => ih k k' d hk) h

theorem run_mono (r : Regex) : Monotone (run isWord r) := by
  induction r with
  | empty => exact fun k k' c hk h => hk c h
  | chars test =>
    intro k k' c hk h
    dsimp only [run] at h ⊢
    split at h
    · cases h
    · split at h
      · rename_i hx
        rw [if_pos hx]
        exact hk _ h
      · cases h
  | seq first second hfirst hsecond =>
    exact fun k k' c hk h => hfirst _ _ c (fun d => hsecond k k' d hk) h
  | alt first second hfirst hsecond =>
    intro k k' c hk h
    dsimp only [run] at h ⊢
    rw [isSome_or] at h ⊢
    exact h.imp (hfirst k k' c hk) (hsecond k k' c hk)
  | repeated greedy least more body hbody =>
    intro k k' c hk h
    exact exactly_mono hbody least _ _ c (fun d => upTo_mono hbody greedy _ k k' d hk) h
  | group index body hbody =>
    exact fun k k' c hk h => hbody _ _ c (fun d => hk _) h
  | wordBoundary =>
    intro k k' c hk h
    dsimp only [run] at h ⊢
    split at h
    · rename_i hplace
      rw [if_pos hplace]
      exact hk c h
    · cases h
  | textStart =>
    intro k k' c hk h
    dsimp only [run] at h ⊢
    split at h
    · rename_i hplace
      rw [if_pos hplace]
      exact hk c h
    · cases h
  | lineEnd =>
    intro k k' c hk h
    dsimp only [run] at h ⊢
    split at h
    · rename_i hplace
      rw [if_pos hplace]
      exact hk c h
    · cases h
  | textEnd =>
    intro k k' c hk h
    dsimp only [run] at h ⊢
    split at h
    · rename_i hplace
      rw [if_pos hplace]
      exact hk c h
    · cases h

/-- The text of a group that is a whole pattern. -/
theorem group_matchStart {index : Nat} {body : Regex} {text : List Char} {found : Cursor}
    (h : matchStart isWord (.group index body) text = some found) :
    ∃ l rest, text = l ++ rest ∧ Takes body l ∧ found.group? index = some l := by
  obtain ⟨d, l, hl, hrest, hd⟩ := run_sound body _ _ _ h
  cases hd
  have htext : text = l ++ d.rest := hrest
  refine ⟨l, d.rest, htext, hl, ?_⟩
  simp only [Cursor.group?, List.find?_cons, beq_self_eq_true, Option.map_some, between]
  rw [htext, List.length_append, Nat.add_sub_cancel, List.take_left]

end Regex

end ConfigAuditor.Library
