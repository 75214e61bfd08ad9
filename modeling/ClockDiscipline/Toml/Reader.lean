/-
  ClockDiscipline/Toml/Reader.lean
  ================================
  **Reading TOML.**

  A document consists of statements on lines of their own.  It is read as a
  whole before anything is looked up in it, so one bad line spoils it all.
-/
import ClockDiscipline.Toml.Quoted
import ClockDiscipline.Toml.Table

namespace ClockDiscipline.Toml

/-! ### Blanks and comments -/

def skipBlanks (cs : List Char) : List Char := cs.dropWhile isBlank

/-- Leave out a comment, up to the end of the line. -/
def skipComment : List Char → List Char
  | '#' :: rest => rest.dropWhile isPlain
  | cs => cs

/-- Leave out blanks, comments and ends of lines between the elements of a
    list. -/
def skipBetween : Nat → List Char → List Char
  | 0, cs => cs
  | fuel + 1, cs =>
    match skipBlanks cs with
    | '#' :: rest =>
      match dropLineEnd (rest.dropWhile isPlain) with
      | some rest => skipBetween fuel rest
      | none => '#' :: rest
    | cs =>
      match dropLineEnd cs with
      | some rest => skipBetween fuel rest
      | none => cs

/-- Leave out the rest of a line: blanks, perhaps a comment, and its end. -/
def endLine (cs : List Char) : Option (List Char) :=
  match skipComment (skipBlanks cs) with
  | [] => some []
  | cs => dropLineEnd cs

/-! ### Keys -/

def isBare (c : Char) : Bool :=
  isDecimal c || ('a' ≤ c && c ≤ 'z') || ('A' ≤ c && c ≤ 'Z') || c == '-' || c == '_'

/-- A key without dots: bare, or a string on one line. -/
def readSimpleKey (cs : List Char) : Option (Taken String) :=
  match cs with
  | '"' :: rest => readLine '"' (rest.length + 1) [] rest
  | '\'' :: rest => readLine '\'' (rest.length + 1) [] rest
  | _ =>
    let name := cs.takeWhile isBare
    if name.isEmpty then none else some (String.ofList name, cs.dropWhile isBare)

/-- The parts of a key, with dots between them. -/
def readKeyParts : Nat → List Char → Option (Taken (List String))
  | 0, _ => none
  | fuel + 1, cs => do
    let (name, rest) ← readSimpleKey (skipBlanks cs)
    match skipBlanks rest with
    | '.' :: rest =>
      let (names, rest) ← readKeyParts fuel rest
      return (name :: names, rest)
    | rest => return ([name], rest)

/-- How deep values may be nested, and how many parts a key may have. -/
def depthLimit : Nat := 79

/-- A key as the path to a table and the key in it. -/
def readKey (cs : List Char) : Option (Taken (List String × String)) := do
  let (names, rest) ← readKeyParts (cs.length + 1) cs
  if depthLimit < names.length then none
  else return ((names.dropLast, ← names.getLast?), rest)

/-! ### Values -/

mutual

/-- A value; `depth` more lists and tables may be entered.  The fuel is never
    less than the length of the text. -/
def readValue : Nat → Nat → List Char → Option (Taken Node)
  | 0, _, _ => none
  | fuel + 1, depth, cs =>
    match cs with
    | [] => none
    | '"' :: rest => (readQuoted '"' rest).map fun (s, rest) => (.string s, rest)
    | '\'' :: rest => (readQuoted '\'' rest).map fun (s, rest) => (.string s, rest)
    | '[' :: rest =>
      match depth with
      | 0 => none
      | depth + 1 => (readElements fuel depth rest).map fun (ns, rest) => (.list ns, rest)
    | '\x7b' :: rest =>
      match depth with
      | 0 => none
      | depth + 1 => do
        let (assignments, rest) ←
          match skipBlanks rest with
          | '\x7d' :: rest => some ([], rest)
          | _ => readAssignments fuel depth rest
        return (← tableOfAssignments assignments, rest)
    | 't' :: rest => (dropWord "rue".toList rest).map (.bool true, ·)
    | 'f' :: rest => (dropWord "alse".toList rest).map (.bool false, ·)
    | _ => readDate cs <|> readNumber cs

/-- The elements of a list, up to its end.  The last may be followed by a
    comma. -/
def readElements : Nat → Nat → List Char → Option (Taken (List Node))
  | 0, _, _ => none
  | fuel + 1, depth, cs =>
    match skipBetween cs.length cs with
    | ']' :: rest => some ([], rest)
    | cs => do
      let (node, rest) ← readValue fuel depth cs
      match skipBetween rest.length rest with
      | ']' :: rest => return ([node], rest)
      | ',' :: rest =>
        let (nodes, rest) ← readElements fuel depth rest
        return (node :: nodes, rest)
      | _ => none

/-- The assignments of a table on one line, up to its end. -/
def readAssignments : Nat → Nat → List Char → Option (Taken (List Assignment))
  | 0, _, _ => none
  | fuel + 1, depth, cs => do
    let ((path, key), rest) ← readKey cs
    let rest ← dropWord ['='] rest
    let (value, rest) ← readValue fuel depth (skipBlanks rest)
    match skipBlanks rest with
    | '\x7d' :: rest => return ([⟨path, key, value⟩], rest)
    | ',' :: rest =>
      let (assignments, rest) ← readAssignments fuel depth rest
      return (⟨path, key, value⟩ :: assignments, rest)
    | _ => none

end

/-! ### Statements -/

/-- A key between brackets of a header. -/
def readHeader (isElement : Bool) (close : List Char) (cs : List Char) :
    Option (Taken Statement) := do
  let ((path, key), rest) ← readKey cs
  let rest ← dropWord close rest
  return (.header ⟨isElement, path, key⟩, rest)

def readStatement (cs : List Char) : Option (Taken Statement) :=
  match cs with
  | '[' :: '[' :: rest => readHeader true [']', ']'] rest
  | '[' :: rest => readHeader false [']'] rest
  | _ => do
    let ((path, key), rest) ← readKey cs
    let rest ← dropWord ['='] rest
    let rest := skipBlanks rest
    let (value, rest) ← readValue (rest.length + 1) depthLimit rest
    return (.assign ⟨path, key, value⟩, rest)

/-- The statements of a text, one or none on a line.  Each step takes at least
    one character. -/
def readStatements : Nat → List Char → Option (List Statement)
  | 0, _ => none
  | fuel + 1, cs =>
    match skipBlanks cs with
    | [] => some []
    | '#' :: rest => do readStatements fuel (← endLine ('#' :: rest))
    | '\n' :: rest => readStatements fuel rest
    | '\r' :: '\n' :: rest => readStatements fuel rest
    | cs => do
      let (statement, rest) ← readStatement cs
      return statement :: (← readStatements fuel (← endLine rest))

/-- The table of a text, which may start with a byte order mark. -/
def parse (s : String) : Option Node := do
  let cs := match s.toList with
    | c :: rest => if c.toNat = 0xFEFF then rest else c :: rest
    | [] => []
  tableOfStatements (← readStatements (cs.length + 1) cs)

end ClockDiscipline.Toml
