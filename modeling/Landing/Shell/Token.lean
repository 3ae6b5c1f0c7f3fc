import Landing.Shell.Script

/-! The tokens of a script, and what can be wrong with it. -/
namespace Landing.Shell

/-- What a redirection does, before its target is read. -/
inductive Way where
  | to (direction : Direction)
  /-- From a document below; `strips` drops the tabs in front of its lines. -/
  | document (strips : Bool)
  deriving DecidableEq, Repr

inductive Token where
  | ending
  | newline
  | semicolon
  | background
  | both
  | either
  | pipe
  | opening
  | closing
  | armEnd
  | redirect (stream : Nat) (way : Way)
  | word (w : Word)
  | keyword (name : String)

namespace Token

/-- How a fault calls a token. -/
def text : Token → String
  | ending => "end of file"
  | newline => "newline"
  | semicolon => "\";\""
  | background => "\"&\""
  | both => "\"&&\""
  | either => "\"||\""
  | pipe => "\"|\""
  | opening => "\"(\""
  | closing => "\")\""
  | armEnd => "\";;\""
  | redirect _ _ => "redirection"
  | word _ => "word"
  | keyword name => "\"" ++ name ++ "\""

def keywords : List String :=
  ["!", "case", "do", "done", "elif", "else", "esac", "fi", "for", "if", "in", "then", "until",
   "while", "\x7b", "\x7d"]

/-- Commands that keep their names for themselves. -/
def reserved : List String :=
  [".", ":", "break", "continue", "eval", "exec", "exit", "export", "local", "readonly", "return",
   "set", "shift", "times", "trap", "unset"]

/-- A word that is a keyword where keywords are looked for. -/
def recognise : Token → Token
  | word w =>
    match w.plain? with
    | some bytes =>
      if keywords.contains (String.ofList bytes) then keyword (String.ofList bytes) else word w
    | none => word w
  | t => t

/-- Tokens that end a list of commands. -/
def endsList : Token → Bool
  | ending | closing | armEnd => true
  | keyword name =>
    ["do", "done", "elif", "else", "esac", "fi", "then", "\x7d"].contains name
  | _ => false

end Token

/-- What can be wrong with a script. -/
inductive Fault where
  | unexpected (token : Token) (expected : Option Token)
  | openQuote
  | openBrace
  | openSum
  | openBackQuote
  | badLoopVariable
  | badFunctionName
  | tooDeep

def Fault.message : Fault → String
  | unexpected t none => t.text ++ " unexpected"
  | unexpected t (some e) => t.text ++ " unexpected (expecting " ++ e.text ++ ")"
  | openQuote => "Unterminated quoted string"
  | openBrace => "Missing '\x7d'"
  | openSum => "Missing '))'"
  | openBackQuote => "EOF in backquote substitution"
  | badLoopVariable => "Bad for loop variable"
  | badFunctionName => "Bad function name"
  | tooDeep => "Too deep"

end Landing.Shell
