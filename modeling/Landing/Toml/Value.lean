import Landing.Toml.Quoted
import Landing.Toml.Scalar
import Landing.Toml.Tree

/-! Keys and values of TOML. Every reader gives what it read and the rest. -/
namespace Landing.Toml

def isBareKeyChar (c : Char) : Bool :=
  ('0' ≤ c && c ≤ '9') || ('a' ≤ c && c ≤ 'z') || ('A' ≤ c && c ≤ 'Z') ||
    c == '_' || c == '-'

namespace Key

/-- One part of a key, bare or quoted. -/
def part? (cs : List Char) : Option (String × List Char) :=
  match Quoted.oneLine? cs with
  | some (s, rest) => some (String.ofList s, rest)
  | none =>
    let bare := cs.takeWhile isBareKeyChar
    if bare.isEmpty then none else some (String.ofList bare, cs.drop bare.length)

/-- Keys have fewer parts than this, and values lie less deep. -/
def depthLimit : Nat := 80

/-- Parts with dots between them, and spaces around the parts. -/
def parts? : (limit : Nat) → List Char → Option (List String × List Char)
  | 0, _ => none
  | limit + 1, cs =>
    match part? (skipSpace cs) with
    | none => none
    | some (part, rest) =>
      match skipSpace rest with
      | '.' :: rest => (parts? limit rest).map fun (parts, rest) => (part :: parts, rest)
      | rest => some ([part], rest)

/-- A dotted key with the spaces around it. -/
def any? (cs : List Char) : Option (List String × List Char) := parts? (depthLimit - 1) cs

end Key

namespace Value

mutual

/-- A value, at most `depth` deep. -/
def any? : (fuel depth : Nat) → List Char → Option (Datum × List Char)
  | 0, _, _ => none
  | fuel + 1, depth, cs =>
    match cs with
    | '[' :: rest =>
      if depth = 0 then none
      else
        match skipTrivia false rest with
        | ']' :: rest => some (.list [], rest)
        | rest => (items? fuel (depth - 1) rest).map fun (items, rest) => (.list items, rest)
    | '\x7b' :: rest =>
      if depth = 0 then none
      else
        match skipSpace rest with
        | '\x7d' :: rest => some (.fields [], rest)
        | rest =>
          (pairs? fuel (depth - 1) [] rest).map fun (entries, rest) =>
            ((Tree.table .dotted entries).toDatum, rest)
    | cs =>
      match Quoted.any? cs with
      | some (s, rest) => some (.text (String.ofList s), rest)
      | none => Scalar.any? cs

/-- The items of a list up to its end. A comma may stand after the last one. -/
def items? : (fuel depth : Nat) → List Char → Option (List Datum × List Char)
  | 0, _, _ => none
  | fuel + 1, depth, cs =>
    match any? fuel depth cs with
    | none => none
    | some (d, rest) =>
      match skipTrivia false rest with
      | ']' :: rest => some ([d], rest)
      | ',' :: rest =>
        match skipTrivia false rest with
        | ']' :: rest => some ([d], rest)
        | rest => (items? fuel depth rest).map fun (ds, rest) => (d :: ds, rest)
      | _ => none

/-- The entries of a table on one line up to its end. -/
def pairs? : (fuel depth : Nat) → Tree.Entries → List Char →
    Option (Tree.Entries × List Char)
  | 0, _, _, _ => none
  | fuel + 1, depth, entries, cs =>
    match Key.any? cs with
    | some (key, '=' :: rest) =>
      match any? fuel depth (skipSpace rest) with
      | none => none
      | some (d, rest) =>
        match Tree.assign d key entries with
        | none => none
        | some entries =>
          match skipSpace rest with
          | '\x7d' :: rest => some (entries, rest)
          | ',' :: rest => pairs? fuel depth entries rest
          | _ => none
    | _ => none

end

/-- A value; reading uses up a character at least at every second step. -/
def read? (cs : List Char) : Option (Datum × List Char) :=
  any? (2 * cs.length + 2) (Key.depthLimit - 1) cs

end Value

end Landing.Toml
