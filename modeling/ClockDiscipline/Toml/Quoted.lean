/-
  ClockDiscipline/Toml/Quoted.lean
  ================================
  **Strings in TOML.**

  A string is in double quotes, and then knows escapes, or in single quotes.
  Three quotes instead of one let it run over several lines.
-/
import ClockDiscipline.Toml.Number

namespace ClockDiscipline.Toml

/-! ### Characters and line ends -/

/-- Whether a character may stand in a string or a comment as it is. -/
def isPlain (c : Char) : Bool := c == '\t' || (32 ≤ c.toNat && c.toNat != 127)

def isBlank (c : Char) : Bool := c == ' ' || c == '\t'

/-- Leave out the end of a line. -/
def dropLineEnd : List Char → Option (List Char)
  | '\n' :: rest => some rest
  | '\r' :: '\n' :: rest => some rest
  | _ => none

/-- Leave out blanks and ends of lines. -/
def dropBlankLines : Nat → List Char → List Char
  | 0, cs => cs
  | fuel + 1, cs =>
    match cs with
    | ' ' :: rest | '\t' :: rest | '\n' :: rest | '\r' :: '\n' :: rest => dropBlankLines fuel rest
    | _ => cs

/-! ### Escapes -/

/-- The character whose number is written with exactly so many hexadecimal
    digits. -/
def readCharNumber (count : Nat) (cs : List Char) : Option (Taken Char) :=
  let ds := cs.take count
  let n := digitsValue 16 0 ds
  if ds.length = count ∧ ds.all isHexadecimal ∧ n.isValidChar then
    some (Char.ofNat n, cs.drop count)
  else none

/-- The character of an escape after its backslash. -/
def readEscape : List Char → Option (Taken Char)
  | 'b' :: rest => some (Char.ofNat 8, rest)
  | 't' :: rest => some ('\t', rest)
  | 'n' :: rest => some ('\n', rest)
  | 'f' :: rest => some (Char.ofNat 12, rest)
  | 'r' :: rest => some ('\r', rest)
  | '"' :: rest => some ('"', rest)
  | '\\' :: rest => some ('\\', rest)
  | 'u' :: rest => readCharNumber 4 rest
  | 'U' :: rest => readCharNumber 8 rest
  | _ => none

/-- Leave out, after a backslash, the end of the line and the blanks and empty
    lines that follow it. -/
def dropContinuation (cs : List Char) : Option (List Char) :=
  (dropLineEnd (cs.dropWhile isBlank)).map fun rest => dropBlankLines rest.length rest

/-! ### Strings on one line -/

/-- A string after its quote; what has been read is `done`, the last character
    first.  Each step reads at least one character. -/
def readLine (quote : Char) : Nat → List Char → List Char → Option (Taken String)
  | 0, _, _ => none
  | fuel + 1, done, cs =>
    match cs with
    | [] => none
    | c :: rest =>
      if c = quote then some (String.ofList done.reverse, rest)
      else if c = '\\' ∧ quote = '"' then
        match readEscape rest with
        | none => none
        | some (c, rest) => readLine quote fuel (c :: done) rest
      else if isPlain c then readLine quote fuel (c :: done) rest
      else none

/-! ### Strings on several lines -/

/-- The end of a string in three quotes.  It may be preceded by one or two
    quotes that belong to the string. -/
def closing (quote : Char) (cs : List Char) : Option (Taken (List Char)) :=
  match (cs.takeWhile (· == quote)).length with
  | 0 | 1 | 2 => none
  | 3 => some ([], cs.drop 3)
  | 4 => some ([quote], cs.drop 4)
  | _ => some ([quote, quote], cs.drop 5)

/-- A string after its three quotes.  Ends of lines are kept as line feeds. -/
def readLines (quote : Char) : Nat → List Char → List Char → Option (Taken String)
  | 0, _, _ => none
  | fuel + 1, done, cs =>
    match closing quote cs with
    | some (quotes, rest) => some (String.ofList (quotes ++ done).reverse, rest)
    | none =>
      match dropLineEnd cs with
      | some rest => readLines quote fuel ('\n' :: done) rest
      | none =>
        match cs with
        | [] => none
        | c :: rest =>
          if c = '\\' ∧ quote = '"' then
            match dropContinuation rest with
            | some rest => readLines quote fuel done rest
            | none =>
              match readEscape rest with
              | none => none
              | some (c, rest) => readLines quote fuel (c :: done) rest
          else if isPlain c then readLines quote fuel (c :: done) rest
          else none

/-- A string after its first quote. -/
def readQuoted (quote : Char) (cs : List Char) : Option (Taken String) :=
  match cs with
  | a :: b :: rest =>
    if a = quote ∧ b = quote then
      let rest := (dropLineEnd rest).getD rest
      readLines quote (rest.length + 1) [] rest
    else readLine quote (cs.length + 1) [] cs
  | _ => readLine quote (cs.length + 1) [] cs

end ClockDiscipline.Toml
