import Landing.Text.Blank

/-! Lines for people at a terminal. -/
namespace Landing.CommandLine.Terminal

/-- What a part of a line is there for. -/
inductive Tone where
  /-- Ids, tickets and names of branches. -/
  | accent
  | landed
  | rejected
  | warning
  /-- What may be passed over. -/
  | muted
  /-- Headings and results. -/
  | emphasis
  deriving DecidableEq, Repr

/-- The code that a terminal knows a tone by. -/
def Tone.code : Tone → String
  | accent => "36"
  | landed => "32"
  | rejected => "31"
  | warning => "33"
  | muted => "2"
  | emphasis => "1"

def escape : Char := '\x1b'

def paint (color : Bool) (t : Tone) (s : String) : String :=
  if color then
    let lead := escape.toString ++ "["
    lead ++ t.code ++ "m" ++ s ++ lead ++ "0m"
  else s

/-- Where in a control sequence a text is. -/
inductive Control where
  | none
  | escape
  /-- After an escape, with more of it to come. -/
  | intermediate
  | parameters
  /-- The head of a string to a device. -/
  | device
  /-- A string to a device, up to an escape or a terminator. -/
  | string
  /-- A command to the terminal itself, up to an escape or a bell. -/
  | command
  deriving DecidableEq, Repr

/-- Control characters that move on the page; they count inside control sequences too. -/
def isLayout (c : Char) : Bool := c = '\t' || c = '\n' || c = '\x0c' || c = '\r'

/-- What is shown outside control sequences. -/
def isShown (c : Char) : Bool := isLayout c || (' ' ≤ c && c ≠ '\x7f')

/-- The characters that end any control sequence, and the one that begins one. -/
def interrupt? (c : Char) : Option Control :=
  if c = escape then some .escape
  else if c = '\x18' || c = '\x1a' then some .none
  else none

/-- The terminator of strings is a byte, and a character that has it ends a string too. -/
def holdsTerminator (c : Char) : Bool := (String.utf8EncodeChar c).contains 0x9C

def after (s : Control) (c : Char) : Control :=
  match interrupt? c, s with
  | some s, _ => s
  | none, .none => .none
  | none, .escape =>
    if ' ' ≤ c && c ≤ '/' then .intermediate
    else if c = '[' then .parameters
    else if c = ']' then .command
    else if c = 'P' then .device
    else if c = 'X' || c = '^' || c = '_' then .string
    else if '0' ≤ c && c ≤ '~' then .none
    else .escape
  | none, .intermediate => if '0' ≤ c && c ≤ '~' then .none else .intermediate
  | none, .parameters => if '@' ≤ c && c ≤ '~' then .none else .parameters
  | none, .device => if '@' ≤ c && c ≤ '~' then .string else .device
  | none, .string => if holdsTerminator c then .none else .string
  | none, .command => if c = '\x07' then .none else .command

/-- Whether a character is shown, given where in a control sequence the text is. -/
def passes (s : Control) (c : Char) : Bool :=
  match s with
  | .none => isShown c
  | .escape | .intermediate | .parameters => isLayout c
  | .device | .string | .command => false

/-- Leaves control sequences out of a piece of text, and tells where in one the piece ends. A layout
character breaks into a sequence: what follows it is shown, up to the next character that is not,
and there the sequence goes on unless a character beyond ASCII came in between. -/
def plainFrom : (s : Control) → (shows : Bool) → List Char → List Char × Control
  | s, _, [] => ([], s)
  | s, shows, c :: rest =>
    if (shows && isShown c) || (!shows && passes s c) then
      let (shown, last) := plainFrom (if c.toNat < 0x80 then s else .none) true rest
      (c :: shown, last)
    else plainFrom (after (if shows then (interrupt? c).getD s else s) c) false rest

/-- Pieces of text without control sequences. A sequence that one piece begins goes on in the
next. -/
def plain (s : Control) : List String → List Char
  | [] => []
  | piece :: pieces =>
    let (shown, last) := plainFrom s false piece.toList
    shown ++ plain last pieces

/-- The pieces in which a line is written. -/
abbrev Line := List String

/-- A line as it is printed. Without color no control sequence gets through. -/
def line (color : Bool) (pieces : Line) : String :=
  if color then String.join pieces ++ "\n" else String.ofList (plain .none (pieces ++ ["\n"]))

def lines (color : Bool) (ls : List Line) : String := String.join (ls.map (line color))

end Landing.CommandLine.Terminal
