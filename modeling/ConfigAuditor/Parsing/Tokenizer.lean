import ConfigAuditor.Library.Text

/-!
# Splitting a command line

`app.parsing.tokenizer`: the indentation of a line, and its command and arguments.
-/
namespace ConfigAuditor.Parsing

open Library

structure Indentation where
  columns : Nat
  mixed : Bool
  deriving DecidableEq

structure TokenizedStatement where
  command : Option String
  arguments : List String
  negated : Bool
  deriving DecidableEq

def tabWidth : Nat := 8

/-- The loop of `measure_indentation`, with the columns and characters seen so far. -/
def measureFrom (columns : Nat) (sawSpace sawTab : Bool) : List Char → Indentation
  | ' ' :: rest => measureFrom (columns + 1) true sawTab rest
  | '\t' :: rest => measureFrom (columns + (tabWidth - columns % tabWidth)) sawSpace true rest
  | _ => { columns, mixed := sawSpace && sawTab }

/-- `measure_indentation`. -/
def measureIndentation (line : List Char) : Indentation := measureFrom 0 false false line

/-- `TOKEN_PATTERN.findall(raw_text.strip())`. -/
def tokens (rawText : List Char) : List String :=
  (Text.words (Text.stripList Text.isSpace rawText)).map String.ofList

/-- `tokenize_statement`. -/
def tokenizeStatement (rawText : List Char) : TokenizedStatement :=
  match tokens rawText with
  | [] => { command := none, arguments := [], negated := false }
  | first :: rest =>
    if Text.lower first = "no" then match rest with
      | [] => { command := none, arguments := [], negated := true }
      | command :: arguments => { command := some (Text.lower command), arguments, negated := true }
    else { command := some (Text.lower first), arguments := rest, negated := false }

end ConfigAuditor.Parsing
