import Landing.Shell.Arithmetic
import Landing.Shell.Real

/-! What `echo` and `printf` print. -/
namespace Landing.Shell.Print

/-- The character that a letter writes after a backslash. -/
def letter? (c : Char) : Option Char :=
  match c with
  | 'a' => some '\x07'
  | 'b' => some '\x08'
  | 'f' => some '\x0c'
  | 'n' => some '\n'
  | 'r' => some '\r'
  | 't' => some '\t'
  | 'v' => some '\x0b'
  | '\\' => some '\\'
  | _ => none

/-- The byte that up to `most` octal digits write. -/
def octal (most : Nat) (cs : List Char) : Char × List Char :=
  let digits := (cs.take most).takeWhile (Text.isDigitIn 8)
  (Char.ofNat (Text.ofDigits 8 digits % 256), cs.drop digits.length)

/-- Replaces escapes. A zero may stand in front of the number of a byte; `\c` ends all output. -/
def escapes : (fuel : Nat) → List Char → Bytes × Bool
  | 0, _ | _, [] => ([], false)
  | _ + 1, '\\' :: 'c' :: _ => ([], true)
  | fuel + 1, '\\' :: '0' :: rest =>
    let (c, rest) := octal 3 rest
    let (out, stop) := escapes fuel rest
    (c :: out, stop)
  | fuel + 1, '\\' :: c :: rest =>
    if Text.isDigitIn 8 c then
      let (x, rest) := octal 3 (c :: rest)
      let (out, stop) := escapes fuel rest
      (x :: out, stop)
    else
      let (out, stop) := escapes fuel rest
      (match letter? c with
        | some x => (x :: out, stop)
        | none => ('\\' :: c :: out, stop))
  | fuel + 1, c :: rest =>
    let (out, stop) := escapes fuel rest
    (c :: out, stop)

/-- The words with spaces between them and a line end, which `-n` leaves out. -/
def echo (args : List Bytes) : Bytes :=
  let (plain, args) := match args with
    | ['-', 'n'] :: args => (true, args)
    | args => (false, args)
  let text := (args.intersperse [' ']).flatten
  let (out, stop) := escapes text.length text
  if plain || stop then out else out ++ ['\n']

/-- How a value is set: to the left, with zeros, how wide, how precise. -/
structure Layout where
  left : Bool := false
  zeros : Bool := false
  plus : Bool := false
  space : Bool := false
  width : Nat := 0
  precision : Option Nat := none

def Layout.set (l : Layout) (text : Bytes) : Bytes :=
  let missing := l.width - text.length
  if l.left then text ++ List.replicate missing ' '
  else List.replicate missing ' ' ++ text

def Layout.setNumber (l : Layout) (negative : Bool) (digits : Bytes) : Bytes :=
  let sign := if negative then ['-'] else if l.plus then ['+'] else if l.space then [' '] else []
  let digits := List.replicate (l.precision.getD 1 - digits.length) '0' ++ digits
  if l.zeros && !l.left && l.precision.isNone then
    sign ++ List.replicate (l.width - sign.length - digits.length) '0' ++ digits
  else l.set (sign ++ digits)

def flags (l : Layout) : List Char → Layout × List Char
  | '-' :: rest => flags { l with left := true } rest
  | '0' :: rest => flags { l with zeros := true } rest
  | '+' :: rest => flags { l with plus := true } rest
  | ' ' :: rest => flags { l with space := true } rest
  | '#' :: rest => flags l rest
  | cs => (l, cs)

/-- What one pass over a format gives. -/
structure Pass where
  out : Bytes := []
  args : List Bytes
  faults : List String := []
  stop : Bool := false
  /-- The format has a mark that there is not. -/
  refused : Bool := false
  deriving Inhabited

/-- The number that an argument writes, and what is wrong with it. A quote stands for the number
of the next character. -/
def number (arg : Bytes) : Int × List String :=
  match arg with
  | [] => (0, [])
  | '\'' :: rest | '"' :: rest => ((rest.head?.map (·.toNat)).getD 0, [])
  | arg =>
    match Arithmetic.signed? arg with
    | some (n, []) => (n, [])
    | some (n, _) => (n, [String.ofList arg ++ ": not completely converted"])
    | none => (0, [String.ofList arg ++ ": expected numeric value"])

/-- A size in a layout: digits, or a star for the next argument. -/
def size (cs : List Char) (args : List Bytes) : Option Int × List Char × List Bytes :=
  match cs with
  | '*' :: rest => (some (number (args.head?.getD [])).1, rest, args.tail)
  | cs =>
    let digits := cs.takeWhile (Text.isDigitIn 10)
    (if digits.isEmpty then none else some (Text.ofDigits 10 digits), cs.drop digits.length, args)

/-- The layout between the mark and the letter of a conversion, and the arguments that it takes. -/
def layout (cs : List Char) (args : List Bytes) : Layout × List Char × List Bytes :=
  let (l, cs) := flags {} cs
  let (width, cs, args) := size cs args
  let width := width.getD 0
  let l := { l with left := l.left || width < 0, width := width.natAbs }
  match cs with
  | '.' :: rest =>
    let (precision, rest, args) := size rest args
    let precision := precision.getD 0
    ({ l with precision := if precision < 0 then none else some precision.toNat }, rest, args)
  | rest => (l, rest, args)

/-- Sets one value under the letter of a conversion: what it prints, whether it ends all output,
what is wrong. -/
def convert (l : Layout) (letter : Char) (arg : Bytes) : Option (Bytes × Bool × List String) :=
  let signed : Bytes × Bool × List String :=
    let (n, faults) := number arg
    (l.setNumber (n < 0) (toString n.natAbs).toList, false, faults)
  let unsigned (base : Nat) : Bytes × Bool × List String :=
    let (n, faults) := number arg
    (({ l with plus := false, space := false } : Layout).setNumber false
      (Nat.toDigits base (n % UInt64.size).toNat), false, faults)
  let real : Bytes × Bool × List String :=
    let (r, faults) : Real × List String := match arg, Real.read? arg with
      | [], _ => (⟨false, 0, 1⟩, [])
      | _, some (r, []) => (r, [])
      | _, some (r, _) => (r, [String.ofList arg ++ ": not completely converted"])
      | _, none => (⟨false, 0, 1⟩, [String.ofList arg ++ ": expected numeric value"])
    let text := r.text letter.toLower l.precision
    let text := if letter.isUpper then text.map Char.toUpper else text
    (({ l with precision := none } : Layout).setNumber r.negative text, false, faults)
  match letter with
  | 'e' | 'E' | 'f' | 'F' | 'g' | 'G' => some real
  | 's' => some (l.set (match l.precision with
      | some n => arg.take n
      | none => arg), false, [])
  | 'c' => some (l.set (arg.take 1), false, [])
  | 'b' =>
    let (out, stop) := escapes arg.length arg
    some (l.set out, stop, [])
  | 'd' | 'i' => some signed
  | 'u' => some (unsigned 10)
  | 'o' => some (unsigned 8)
  | 'x' => some (unsigned 16)
  | 'X' =>
    let (out, r) := unsigned 16
    some (out.map Char.toUpper, r)
  | _ => none

/-- Follows a format once. -/
def pass : (fuel : Nat) → List Char → Pass → Pass
  | 0, _, p | _, [], p => p
  | fuel + 1, '%' :: '%' :: rest, p => pass fuel rest { p with out := p.out ++ ['%'] }
  | fuel + 1, '%' :: rest, p =>
    match layout rest p.args with
    | (l, letter :: rest, args) =>
      match convert l letter (args.head?.getD []) with
      | none =>
        { p with
          stop := true, refused := true
          faults := p.faults ++ [String.ofList ['%', letter] ++ ": invalid directive"] }
      | some (out, stop, faults) =>
        let p := { p with
          out := p.out ++ out, args := args.tail, faults := p.faults ++ faults, stop := stop }
        if stop then p else pass fuel rest p
    | (_, [], _) => { p with
        stop := true, refused := true, faults := p.faults ++ ["missing format character"] }
  | fuel + 1, '\\' :: c :: rest, p =>
    if Text.isDigitIn 8 c then
      let (x, rest) := octal 3 (c :: rest)
      pass fuel rest { p with out := p.out ++ [x] }
    else
      match letter? c with
      | some x => pass fuel rest { p with out := p.out ++ [x] }
      | none => pass fuel rest { p with out := p.out ++ ['\\', c] }
  | fuel + 1, c :: rest, p => pass fuel rest { p with out := p.out ++ [c] }

/-- Follows a format until all arguments are used. -/
def passes (format : List Char) : (fuel : Nat) → Pass → Pass
  | 0, p => p
  | fuel + 1, p =>
    let q := pass format.length format p
    if q.stop || q.args.isEmpty || q.args.length = p.args.length then q
    else passes format fuel q

/-- What `printf` prints, and what is wrong with its arguments. -/
def printf (format : Bytes) (args : List Bytes) : Pass :=
  passes format (args.length + 1) { args := args }

end Landing.Shell.Print
