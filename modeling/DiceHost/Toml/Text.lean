/-
The texts of a configuration file: blanks, comments, strings and keys.

* `lineEnd?`: the rest of a line that holds no more than a comment;
* `skipLayout`: blanks, ends of lines and comments, as they may stand between the items of
  an array;
* `string?`: a string in one of its four forms;
* `path?`: a key, in parts that are joined by dots.
-/
import DiceHost.Text.Hex

namespace DiceHost.Toml

/-- A step of reading: what was read, and the text after it; none when the text does not
follow the grammar. -/
abbrev Step (α : Type) := Option (α × List Char)

/-! ### Layout -/

/-- The blanks within a line. -/
def isBlank (c : Char) : Bool :=
  c = ' ' || c = '\t'

/-- The characters that stand for themselves in comments and strings: all but the control
characters of ASCII; the tab is allowed. -/
def isPlain (c : Char) : Bool :=
  c = '\t' || (0x20 ≤ c.toNat && c.toNat ≠ 0x7f)

/-- A text without the blanks that it starts with. -/
def skipBlanks (cs : List Char) : List Char :=
  cs.dropWhile isBlank

/-- The text after the end of a line. -/
def newline? : List Char → Option (List Char)
  | '\n' :: cs => some cs
  | '\r' :: '\n' :: cs => some cs
  | _ => none

/-- A text without the comment that it starts with. -/
def skipComment : List Char → List Char
  | '#' :: cs => cs.dropWhile isPlain
  | cs => cs

/-- The text after a line of which no more than blanks and a comment are left. -/
def lineEnd? (cs : List Char) : Option (List Char) :=
  match skipComment (skipBlanks cs) with
  | [] => some []
  | cs => newline? cs

/-- A text without the blanks, ends of lines and comments that it starts with, the last
of the comments being open or not. -/
def skipLayoutFrom (inComment : Bool) : List Char → List Char
  | '\r' :: '\n' :: cs => skipLayoutFrom false cs
  | '\n' :: cs => skipLayoutFrom false cs
  | c :: cs =>
    if inComment then if isPlain c then skipLayoutFrom true cs else c :: cs
    else if isBlank c then skipLayoutFrom false cs
    else if c = '#' then skipLayoutFrom true cs
    else c :: cs
  | [] => []

/-- A text without the blanks, ends of lines and comments that it starts with. -/
def skipLayout (cs : List Char) : List Char :=
  skipLayoutFrom false cs

/-! ### Strings -/

/-- A character put before a text that was read. -/
def push (c : Char) (r : Step (List Char)) : Step (List Char) :=
  r.map fun (s, rest) => (c :: s, rest)

/-- The character of a code point in hexadecimal digits; surrogates have none. -/
def codePoint? (ds : List Char) : Option Char :=
  (Text.Hex.nat? ds).bind fun n => if n.isValidChar then some (Char.ofNat n) else none

/-- The character of a one-letter escape. -/
def escaped? : Char → Option Char
  | 'b' => some '\x08'
  | 't' => some '\t'
  | 'n' => some '\n'
  | 'f' => some '\x0c'
  | 'r' => some '\r'
  | '"' => some '"'
  | '\\' => some '\\'
  | _ => none

/-- A string of one line, up to its closing quote. -/
def basic? : List Char → Step (List Char)
  | [] => none
  | '"' :: cs => some ([], cs)
  | '\\' :: 'u' :: a :: b :: c :: d :: cs =>
    (codePoint? [a, b, c, d]).bind (push · (basic? cs))
  | '\\' :: 'U' :: a :: b :: c :: d :: e :: f :: g :: h :: cs =>
    (codePoint? [a, b, c, d, e, f, g, h]).bind (push · (basic? cs))
  | '\\' :: e :: cs => (escaped? e).bind (push · (basic? cs))
  | c :: cs => if isPlain c && c ≠ '\\' then push c (basic? cs) else none

/-- What a closing mark of three quotes leaves of a longer run: two more quotes at most
belong to the string. -/
def closing (q : Char) : List Char → List Char × List Char
  | a :: b :: cs =>
    if a = q ∧ b = q then ([q, q], cs) else if a = q then ([q], b :: cs) else ([], a :: b :: cs)
  | [a] => if a = q then ([q], []) else ([], [a])
  | [] => ([], [])

/-- A string of several lines, up to its closing quotes. After a backslash at the end of a
line, `skipping`, blanks and ends of lines are passed over. -/
def multiBasic? (skipping : Bool) : List Char → Step (List Char)
  | [] => none
  | '"' :: '"' :: '"' :: cs => some (closing '"' cs)
  | '\\' :: 'u' :: a :: b :: c :: d :: cs =>
    (codePoint? [a, b, c, d]).bind (push · (multiBasic? false cs))
  | '\\' :: 'U' :: a :: b :: c :: d :: e :: f :: g :: h :: cs =>
    (codePoint? [a, b, c, d, e, f, g, h]).bind (push · (multiBasic? false cs))
  | '\\' :: e :: cs =>
    match escaped? e with
    | some x => push x (multiBasic? false cs)
    | none =>
      if (newline? (skipBlanks (e :: cs))).isSome then multiBasic? true (e :: cs) else none
  | '\r' :: '\n' :: cs =>
    if skipping then multiBasic? true cs else push '\n' (multiBasic? false cs)
  | '\n' :: cs => if skipping then multiBasic? true cs else push '\n' (multiBasic? false cs)
  | c :: cs =>
    if skipping && isBlank c then multiBasic? true cs
    else if isPlain c && c ≠ '\\' then push c (multiBasic? false cs)
    else none

/-- A string of one line without escapes, up to its closing apostrophe. -/
def literal? : List Char → Step (List Char)
  | [] => none
  | '\'' :: cs => some ([], cs)
  | c :: cs => if isPlain c then push c (literal? cs) else none

/-- A string of several lines without escapes, up to its closing apostrophes. -/
def multiLiteral? : List Char → Step (List Char)
  | [] => none
  | '\'' :: '\'' :: '\'' :: cs => some (closing '\'' cs)
  | '\r' :: '\n' :: cs => push '\n' (multiLiteral? cs)
  | '\n' :: cs => push '\n' (multiLiteral? cs)
  | c :: cs => if isPlain c then push c (multiLiteral? cs) else none

/-- The body of a string of several lines: an end of line right at its start is no part
of it. -/
def body (cs : List Char) : List Char :=
  (newline? cs).getD cs

/-- A string. -/
def string? (cs : List Char) : Step String :=
  let chars := match cs with
    | '"' :: '"' :: '"' :: cs => multiBasic? false (body cs)
    | '"' :: cs => basic? cs
    | '\'' :: '\'' :: '\'' :: cs => multiLiteral? (body cs)
    | '\'' :: cs => literal? cs
    | _ => none
  chars.map fun (s, rest) => (String.ofList s, rest)

/-! ### Keys -/

/-- The characters of a key without quotes. -/
def isBare (c : Char) : Bool :=
  c.isAlphanum || c = '_' || c = '-'

/-- One part of a key. -/
def part? (cs : List Char) : Step String :=
  match cs with
  | '"' :: cs => (basic? cs).map fun (s, rest) => (String.ofList s, rest)
  | '\'' :: cs => (literal? cs).map fun (s, rest) => (String.ofList s, rest)
  | cs =>
    let (word, rest) := cs.span isBare
    if word.isEmpty then none else some (String.ofList word, rest)

/-- A key of at most as many parts as given, with the blanks around them. -/
def path? : Nat → List Char → Step (List String)
  | 0, _ => none
  | most + 1, cs =>
    (part? (skipBlanks cs)).bind fun (k, cs) =>
      match skipBlanks cs with
      | '.' :: cs => (path? most cs).map fun (ks, cs) => (k :: ks, cs)
      | cs => some ([k], cs)

end DiceHost.Toml
