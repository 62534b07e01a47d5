import StorageCalls.Text.Bytes
import StorageCalls.Text.Split

namespace StorageCalls.Toml

open StorageCalls.Text

abbrev Reader (α : Type) := List Char → Option (α × List Char)

def isBlank (c : Char) : Bool := c == ' ' || c == '\t'

def isPrintable (c : Char) : Bool :=
  c == '\t' || (0x20 ≤ c.toNat && c.toNat != 0x7f)

def dropBlanks (s : List Char) : List Char := s.dropWhile isBlank

def afterNewline? : List Char → Option (List Char)
  | '\n' :: s => some s
  | '\r' :: '\n' :: s => some s
  | _ => none

def dropComment : List Char → List Char
  | '#' :: s => s.dropWhile isPrintable
  | s => s

def afterLine? (s : List Char) : Option (List Char) :=
  match dropComment (dropBlanks s) with
  | [] => some []
  | s => afterNewline? s

/-- Drops blanks, line ends and comments. A comment that does not end well stops the text there. -/
def dropGaps (inComment : Bool) : List Char → List Char
  | [] => []
  | '\r' :: '\n' :: s => dropGaps false s
  | c :: s =>
    if c = '\n' then dropGaps false s
    else if inComment then
      if isPrintable c then dropGaps true s else c :: s
    else if isBlank c then dropGaps false s
    else if c = '#' then dropGaps true s
    else c :: s

def dropBlankLines : List Char → List Char
  | [] => []
  | '\r' :: '\n' :: s => dropBlankLines s
  | c :: s => if c = '\n' ∨ isBlank c then dropBlankLines s else c :: s

def codePoint? (digits : List Char) : Option Char := do
  let n := ofDigits 16 (← digits.mapM hexValue?)
  if n.isValidChar then some (Char.ofNat n) else none

def escaped : Reader Char
  | 'b' :: s => some ('\x08', s)
  | 'f' :: s => some ('\x0c', s)
  | 'n' :: s => some ('\n', s)
  | 'r' :: s => some ('\r', s)
  | 't' :: s => some ('\t', s)
  | '"' :: s => some ('"', s)
  | '\\' :: s => some ('\\', s)
  | 'u' :: s => if s.length < 4 then none else (codePoint? (s.take 4)).map (·, s.drop 4)
  | 'U' :: s => if s.length < 8 then none else (codePoint? (s.take 8)).map (·, s.drop 8)
  | _ => none

def lineText (quote : Char) : Nat → List Char → Reader (List Char)
  | 0, _, _ => none
  | _ + 1, _, [] => none
  | fuel + 1, acc, c :: s =>
    if c = quote then some (acc.reverse, s)
    else if c = '\\' ∧ quote = '"' then do
      let (e, s) ← escaped s
      lineText quote fuel (e :: acc) s
    else if isPrintable c then lineText quote fuel (c :: acc) s
    else none

def afterJoin? (s : List Char) : Option (List Char) :=
  (afterNewline? (dropBlanks s)).map dropBlankLines

/-- The rest of a string over several lines, up to its three closing quotes. One or two quotes are
part of the string, also directly before the closing ones. -/
def blockText (quote : Char) : Nat → List Char → Reader (List Char)
  | 0, _, _ => none
  | _ + 1, _, [] => none
  | fuel + 1, acc, c :: s =>
    if c = quote then
      let run := ((c :: s).takeWhile (· == quote)).length
      if run ≤ 2 then blockText quote fuel (List.replicate run quote ++ acc) ((c :: s).drop run)
      else if run ≤ 5 then
        some ((List.replicate (run - 3) quote ++ acc).reverse, (c :: s).drop run)
      else none
    else if c = '\\' ∧ quote = '"' then
      match afterJoin? s with
      | some s => blockText quote fuel acc s
      | none => do
        let (e, s) ← escaped s
        blockText quote fuel (e :: acc) s
    else
      match afterNewline? (c :: s) with
      | some s => blockText quote fuel ('\n' :: acc) s
      | none => if isPrintable c then blockText quote fuel (c :: acc) s else none

def string : Reader String
  | a :: b :: c :: s =>
    if a ≠ '"' ∧ a ≠ '\'' then none
    else if a = b ∧ b = c then
      let s := (afterNewline? s).getD s
      (blockText a (s.length + 1) [] s).map fun (t, s) => (String.ofList t, s)
    else
      let s := b :: c :: s
      (lineText a (s.length + 1) [] s).map fun (t, s) => (String.ofList t, s)
  | a :: s =>
    if a ≠ '"' ∧ a ≠ '\'' then none
    else (lineText a (s.length + 1) [] s).map fun (t, s) => (String.ofList t, s)
  | [] => none

def isBareKeyChar (c : Char) : Bool := c.isAlphanum || c == '_' || c == '-'

def keyPart : Reader String
  | [] => none
  | c :: s =>
    if c = '"' ∨ c = '\'' then
      (lineText c (s.length + 1) [] s).map fun (t, s) => (String.ofList t, s)
    else
      match (c :: s).takeWhile isBareKeyChar with
      | [] => none
      | name => some (String.ofList name, (c :: s).dropWhile isBareKeyChar)

def keyParts : Nat → Reader (List String)
  | 0, _ => none
  | fuel + 1, s => do
    let (name, s) ← keyPart (dropBlanks s)
    match dropBlanks s with
    | '.' :: s => do
      let (names, s) ← keyParts fuel s
      return (name :: names, s)
    | s => return ([name], s)

/-- The number of parts of a key, and of tables and arrays within one another, stays below this. -/
def nestingLimit : Nat := 80

def key : Reader (List String) := keyParts (nestingLimit - 1)

end StorageCalls.Toml
