/-
Configuration files in TOML.

* `value`: a value: a string, a number, a date, an array or an inline table;
* `Document.line?`: what a line does to the document;
* `read?`: the document of a text, as a value; none when the text does not follow the
  grammar or defines a table or key twice.
-/
import DiceHost.Toml.Scalar
import DiceHost.Toml.Table

namespace DiceHost.Toml

open Json

/-- Values may be nested this deep, and keys may have as many parts. -/
def maxDepth : Nat := 79

/-! ### Values -/

mutual

/-- A value; `depth` bounds the nesting and `fuel` the characters left. -/
def value : Nat → Nat → List Char → Step Node
  | 0, _, _ => none
  | fuel + 1, depth, cs =>
    match cs with
    | '"' :: _ | '\'' :: _ => (string? cs).map fun (s, rest) => (.str s, rest)
    | '[' :: rest =>
      match depth with
      | 0 => none
      | depth + 1 => (items fuel depth rest).map fun (ns, rest) => (.arr ns, rest)
    | '\x7b' :: rest =>
      match depth, skipBlanks rest with
      | 0, _ => none
      | _ + 1, '\x7d' :: rest => some (.obj [], rest)
      | depth + 1, rest =>
        (pairs fuel depth [] rest).map fun (es, rest) => (es.toNode, rest)
    | _ =>
      let (token, rest) := Scalar.token cs
      (Scalar.ofToken? token).map fun n => (n, rest)

/-- The items of an array up to its closing bracket; a comma may stand after the last. -/
def items : Nat → Nat → List Char → Step (List Node)
  | 0, _, _ => none
  | fuel + 1, depth, cs =>
    match skipLayout cs with
    | ']' :: rest => some ([], rest)
    | cs =>
      (value fuel depth cs).bind fun (n, rest) =>
        match skipLayout rest with
        | ']' :: rest => some ([n], rest)
        | ',' :: rest => (items fuel depth rest).map fun (ns, rest) => (n :: ns, rest)
        | _ => none

/-- The pairs of an inline table, put into the ones before, up to its closing brace. -/
def pairs : Nat → Nat → Entries → List Char → Step Entries
  | 0, _, _, _ => none
  | fuel + 1, depth, es, cs =>
    (path? maxDepth cs).bind fun (path, rest) =>
      (after? (· = '=') rest).bind fun rest =>
        (value fuel depth (skipBlanks rest)).bind fun (n, rest) =>
          (es.assign path n).bind fun es =>
            match skipBlanks rest with
            | '\x7d' :: rest => some (es, rest)
            | ',' :: rest => pairs fuel depth es rest
            | _ => none

end

/-! ### Documents -/

/-- What was read of a document: its tables, and the path of the last header. -/
structure Document where
  entries : Entries := []
  header : List String := []

namespace Document

/-- A header up to its closing mark. -/
def header? (closing cs : List Char) : Step (List String) :=
  (path? maxDepth cs).bind fun (path, rest) =>
    if closing.isPrefixOf rest then some (path, rest.drop closing.length) else none

/-- A pair of a key and a value. -/
def pair? (cs : List Char) : Step (List String × Node) :=
  (path? maxDepth cs).bind fun (path, rest) =>
    (after? (· = '=') rest).bind fun rest =>
      (value (2 * rest.length + 1) maxDepth (skipBlanks rest)).map fun (n, rest) =>
        ((path, n), rest)

/-- The document after a line, and the text after the line. -/
def line? (d : Document) (cs : List Char) : Step Document :=
  let read : Step Document := match cs with
    | [] | '#' :: _ | '\n' :: _ | '\r' :: _ => some (d, cs)
    | '[' :: '[' :: cs =>
      (header? [']', ']'] cs).bind fun (path, rest) =>
        (d.entries.append? path).map fun entries => (⟨entries, path⟩, rest)
    | '[' :: cs =>
      (header? [']'] cs).bind fun (path, rest) =>
        (d.entries.open? path).map fun entries => (⟨entries, path⟩, rest)
    | cs =>
      (pair? cs).bind fun ((path, n), rest) =>
        (d.entries.inTable d.header (·.assign path n)).map fun entries =>
          ({ d with entries }, rest)
  read.bind fun (d, rest) => (lineEnd? rest).map fun rest => (d, rest)

/-- The document after all lines. Each line but the last takes a character, so the length
bounds their number. -/
def lines? : Nat → Document → List Char → Option Document
  | 0, _, _ => none
  | fuel + 1, d, cs =>
    (d.line? (skipBlanks cs)).bind fun (d, rest) =>
      if rest.isEmpty then some d else lines? fuel d rest

end Document

/-- A text without the mark of its encoding. -/
def dropMark : List Char → List Char
  | '\ufeff' :: cs => cs
  | cs => cs

/-- The document of a text. -/
def read? (text : List Char) : Option Node :=
  (Document.lines? (text.length + 1) {} (dropMark text)).map (·.entries.toNode)

end DiceHost.Toml
