/-! Scripts of the command language in which hooks are written. -/
namespace Landing.Shell

/-- Bytes, each as the character with its number. -/
abbrev Bytes := List Char

/-- Whether an argument is an option. -/
def isOption : Bytes → Bool
  | '-' :: _ :: _ => true
  | _ => false

/-- How a stream is tied to what a redirection names. -/
inductive Direction where
  | read
  | write
  | append
  /-- Writes even where files are protected. -/
  | overwrite
  /-- To where another stream goes. -/
  | copy
  deriving DecidableEq, Repr

/-- What is used of a parameter, or in its place. `unset` alone, or `empty` as well, counts as
missing. -/
inductive Use where
  | default (empty : Bool)
  | assign (empty : Bool)
  | alternative (empty : Bool)
  | demand (empty : Bool)
  | dropHead (longest : Bool)
  | dropTail (longest : Bool)
  deriving DecidableEq, Repr

mutual

/-- A part of a word. Quoted parts are neither split nor taken for patterns. -/
inductive Piece where
  | text (quoted : Bool) (bytes : Bytes)
  /-- The home directory of a user, or one's own. -/
  | home (user : Bytes)
  | parameter (quoted : Bool) (name : String)
  | parameterUse (quoted : Bool) (name : String) (use : Use) (word : List Piece)
  | length (quoted : Bool) (name : String)
  /-- What commands print. -/
  | output (quoted : Bool) (body : List Command)
  | arithmetic (quoted : Bool) (expression : List Piece)
  /-- A use of a parameter that is none. -/
  | misuse

inductive Redirect where
  | named (stream : Nat) (direction : Direction) (target : List Piece)
  /-- Reads a document of the script. -/
  | document (stream number : Nat)

/-- Commands that can fail by themselves know the line they begin on. -/
inductive Command where
  | simple (line : Nat) (settings : List (String × List Piece)) (words : List (List Piece))
      (redirects : List Redirect)
  | redirected (line : Nat) (c : Command) (redirects : List Redirect)
  | pipe (stages : List Command)
  | negated (c : Command)
  | both (first second : Command)
  | either (first second : Command)
  | background (c : Command)
  | group (body : List Command)
  /-- Commands in a process of their own. -/
  | apart (body : List Command)
  | branches (arms : List (List Command × List Command)) (otherwise : List Command)
  | loop (stopOn : Bool) (condition body : List Command)
  | each (line : Nat) (name : String) (words : Option (List (List Piece))) (body : List Command)
  | cases (line : Nat) (subject : List Piece) (arms : List (List (List Piece) × List Command))
  | define (name : String) (body : Command)

end

/-- A word, by its parts. -/
abbrev Word := List Piece

instance : Inhabited Command := ⟨.group []⟩

namespace Word

/-- The text of a word in which nothing is quoted or replaced. -/
def plain? : Word → Option Bytes
  | [.text false bytes] => some bytes
  | _ => none

/-- The characters of a word that stand for themselves, and whether some are quoted. -/
def literal (w : Word) : Bytes × Bool :=
  (w.flatMap fun
    | .text _ bytes => bytes
    | _ => [],
   w.any fun
    | .text quoted _ => quoted
    | _ => false)

end Word

end Landing.Shell
