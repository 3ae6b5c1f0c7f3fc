import Landing.Shell.Edit
import Landing.Text.Utf8

/-! Programs that turn an input into an output. -/
namespace Landing.Shell

/-- What a program prints, and its status. -/
structure Printout where
  out : Bytes := []
  status : Nat := 0
  deriving Inhabited

/-- What a program reads: an input, and its name if it is a file. -/
structure Input where
  name : Option Bytes
  bytes : Bytes
  deriving Inhabited

/-- A program ready to run: the files it reads, or its input if there are none, and what it makes
of them. -/
structure Filter where
  files : List Bytes := []
  run : List Input → Printout
  /-- The status where a file is missing. -/
  failure : Nat := 1
  deriving Inhabited

namespace Filter

/-- Lines with their line ends. -/
def linesOf : Bytes → List Bytes
  | [] => []
  | c :: rest =>
    if c = '\n' then ['\n'] :: linesOf rest
    else match linesOf rest with
      | line :: lines => (c :: line) :: lines
      | [] => [[c]]

/-- Lines without their ends. -/
def bodies (bytes : Bytes) : List Bytes := (linesOf bytes).map (·.filter (· ≠ '\n'))

def ended (lines : List Bytes) : Bytes := lines.flatMap (· ++ ['\n'])

/-- A filter that reads its files as one. -/
def ofBytes (files : List Bytes) (f : Bytes → Bytes) : Filter :=
  { files := files, run := fun inputs => ⟨f (inputs.flatMap (·.bytes)), 0⟩ }

/-! Options of one letter, in front of other arguments and between them. -/

/-- Options with their values. -/
abbrev Options := List (Char × Bytes)

/-- Reads options. `valued` are the letters that take a value, which may stand right behind. -/
def optionsFrom (valued : List Char) : (fuel : Nat) → List Bytes → Options × List Bytes
  | 0, args | _, ['-', '-'] :: args => ([], args)
  | _, [] => ([], [])
  | fuel + 1, ('-' :: c :: cs) :: rest =>
    if valued.contains c then
      let (value, rest) := if cs.isEmpty then (rest.head?.getD [], rest.tail) else (cs, rest)
      let (given, args) := optionsFrom valued fuel rest
      ((c, value) :: given, args)
    else
      let (given, args) :=
        optionsFrom valued fuel (if cs.isEmpty then rest else ('-' :: cs) :: rest)
      ((c, []) :: given, args)
  | fuel + 1, arg :: rest =>
    let (given, args) := optionsFrom valued fuel rest
    (given, arg :: args)

def options (valued : String) (args : List Bytes) : Options × List Bytes :=
  optionsFrom valued.toList (args.flatten.length + args.length) args

def Options.has (given : Options) (c : Char) : Bool := given.any (·.1 == c)

def Options.value? (given : Options) (c : Char) : Option Bytes :=
  (given.find? (·.1 == c)).map (·.2)

/-! Parts of an input. -/

/-- How many lines or bytes are meant, from the start or the end, or all from one on. -/
structure Amount where
  byLine : Bool := true
  sign : Option Char := none
  size : Nat := 10

def Amount.ofWord (byLine : Bool) (word : Bytes) : Amount :=
  match word with
  | '+' :: digits => ⟨byLine, some '+', Text.ofDigits 10 digits⟩
  | '-' :: digits => ⟨byLine, some '-', Text.ofDigits 10 digits⟩
  | digits => ⟨byLine, none, Text.ofDigits 10 digits⟩

/-- The amount among arguments, and the files. -/
def amount (args : List Bytes) : Amount × List Bytes :=
  let (given, files) := match args with
    | ('-' :: c :: digits) :: rest =>
      if Text.isDigitIn 10 c then ([('n', c :: digits)], rest) else options "nc" args
    | args => options "nc" args
  match given.reverse.find? fun o => o.1 == 'n' || o.1 == 'c' with
  | some (c, word) => (Amount.ofWord (c == 'n') word, files)
  | none => ({}, files)

def head (args : List Bytes) : Filter :=
  let (a, files) := amount args
  let part {α : Type} (l : List α) : List α :=
    l.take (if a.sign = some '-' then l.length - a.size else a.size)
  ofBytes files fun bytes => if a.byLine then (part (linesOf bytes)).flatten else part bytes

def tail (args : List Bytes) : Filter :=
  let (a, files) := amount args
  let part {α : Type} (l : List α) : List α :=
    l.drop (if a.sign = some '+' then a.size - 1 else l.length - a.size)
  ofBytes files fun bytes => if a.byLine then (part (linesOf bytes)).flatten else part bytes

/-- Words between blanks. -/
def wordCount (cs : Bytes) : Nat :=
  (cs.foldl (fun (inWord, n) c =>
    if Text.isBlank c then (false, n) else (true, if inWord then n else n + 1)) (false, 0)).2

/-- Counts lines, words and bytes. One count alone stands by itself, several in columns. -/
def count (args : List Bytes) : Filter :=
  let (given, files) := options "" args
  let wanted := "lwmc".toList.filter fun c => given.isEmpty && c ≠ 'm' || given.has c
  let counts (bytes : Bytes) : List Nat :=
    wanted.map fun
      | 'l' => bytes.count '\n'
      | 'w' => wordCount bytes
      | 'm' => (Text.decodeLossy (Text.bytesOfChars bytes)).length
      | _ => bytes.length
  { files := files, run := fun inputs =>
    let total := inputs.flatMap (·.bytes)
    let width :=
      if wanted.length = 1 && inputs.length ≤ 1 then 1
      else if inputs.any (·.name.isNone) then 7
      else (toString total.length).length
    let row (bytes : Bytes) (name : Option Bytes) : Bytes :=
      ((counts bytes).map fun n =>
        let digits := (toString n).toList
        List.replicate (width - digits.length) ' ' ++ digits).intersperse [' '] |>.flatten
        |> (· ++ (match name with
          | some name => ' ' :: name
          | none => []) ++ ['\n'])
    ⟨inputs.flatMap (fun i => row i.bytes i.name) ++
      (if 1 < inputs.length then row total (some "total".toList) else []), 0⟩ }

/-- What a list of numbers and ranges picks. -/
def picks (word : Bytes) (n : Nat) : Bool :=
  (Text.splitAt ',' word).any fun part =>
    match Text.splitAt '-' part with
    | [a, b] =>
      (if a.isEmpty then 1 else Text.ofDigits 10 a) ≤ n && (b.isEmpty || n ≤ Text.ofDigits 10 b)
    | _ => Text.ofDigits 10 part == n

/-- Picks fields or characters of lines. -/
def cut (args : List Bytes) : Filter :=
  let (given, files) := options "dfcb" args
  let mark := ((given.value? 'd').bind (·.head?)).getD '\t'
  let pick {α : Type} (word : Bytes) (l : List α) : List α :=
    (l.zipIdx.filter fun x => picks word (x.2 + 1)).map (·.1)
  ofBytes files fun bytes => ended ((bodies bytes).filterMap fun line =>
    match given.value? 'f', (given.value? 'c').or (given.value? 'b') with
    | some word, _ =>
      if !line.contains mark then if given.has 's' then none else some line
      else some ((pick word (Text.splitAt mark line)).intersperse [mark]).flatten
    | none, some word => some (pick word line)
    | none, none => some line)

/-- Leaves out lines that repeat the one before. -/
def unique (args : List Bytes) : Filter :=
  let (given, files) := options "" args
  let runs (lines : List Bytes) : List (Bytes × Nat) :=
    lines.foldr (fun line runs =>
      match runs with
      | (l, n) :: rest => if l = line then (l, n + 1) :: rest else (line, 1) :: runs
      | [] => [(line, 1)]) []
  ofBytes files fun bytes => ended (((runs (bodies bytes)).filter fun r =>
    (!given.has 'd' || 1 < r.2) && (!given.has 'u' || r.2 = 1)).map fun r =>
      if given.has 'c' then
        let digits := (toString r.2).toList
        List.replicate (7 - digits.length) ' ' ++ digits ++ ' ' :: r.1
      else r.1)

/-- The number in front of a line. -/
def leadingNumber (line : Bytes) : Int :=
  match line.dropWhile Text.isBlank with
  | '-' :: rest => -(Text.ofDigits 10 (rest.takeWhile (Text.isDigitIn 10)))
  | rest => Text.ofDigits 10 (rest.takeWhile (Text.isDigitIn 10))

/-- Puts lines in order, by their bytes or numbers, or by those of a field. -/
def sort (args : List Bytes) : Filter :=
  let (given, files) := options "kto" args
  let key (line : Bytes) : Bytes :=
    match given.value? 'k' with
    | none => line
    | some word =>
      let n := Text.ofDigits 10 (word.takeWhile (Text.isDigitIn 10))
      let fields := match (given.value? 't').bind (·.head?) with
        | some mark => Text.splitAt mark line
        | none => (Text.splitAt ' ' line).filter (!·.isEmpty)
      ((fields.drop (n - 1)).intersperse [' ']).flatten
  let has (c : Char) : Bool := given.has c || ((given.value? 'k').getD []).contains c
  let text (a : Bytes) : String :=
    String.ofList (if has 'f' then (key a).map Char.toUpper else key a)
  let before (a b : Bytes) : Bool :=
    if has 'n' then leadingNumber (key a) < leadingNumber (key b) else text a < text b
  let differs (a b : Bytes) : Bool := before a b || before b a
  let le (a b : Bytes) : Bool :=
    before a b || (!before b a && (given.has 'u' || String.ofList a ≤ String.ofList b))
  ofBytes files fun bytes =>
    let lines := (bodies bytes).mergeSort fun a b => if has 'r' then le b a else le a b
    ended (if given.has 'u' then lines.eraseDupsBy (fun a b => !differs a b) else lines)

/-! Characters. -/

/-- Named classes of characters. -/
def classOf (name : List Char) : List Char :=
  let range (a b : Char) : List Char :=
    (List.range (b.toNat + 1 - a.toNat)).map fun n => Char.ofNat (a.toNat + n)
  match String.ofList name with
  | "upper" => range 'A' 'Z'
  | "lower" => range 'a' 'z'
  | "digit" => range '0' '9'
  | "alpha" => range 'A' 'Z' ++ range 'a' 'z'
  | "alnum" => range '0' '9' ++ range 'A' 'Z' ++ range 'a' 'z'
  | "space" => range '\t' '\r' ++ [' ']
  | "blank" => ['\t', ' ']
  | "punct" => range '!' '/' ++ range ':' '@' ++ range '[' '\x60' ++ range '\x7b' '~'
  | "cntrl" => range '\x00' '\x1f' ++ ['\x7f']
  | "print" => range ' ' '~'
  | "graph" => range '!' '~'
  | "xdigit" => range '0' '9' ++ range 'A' 'F' ++ range 'a' 'f'
  | _ => []

/-- The characters of a set, with ranges and classes written out. -/
def set : (fuel : Nat) → List Char → List Char
  | 0, _ | _, [] => []
  | fuel + 1, '[' :: ':' :: rest =>
    let name := rest.takeWhile (· ≠ ':')
    classOf name ++ set fuel (rest.drop (name.length + 2))
  | fuel + 1, '\\' :: c :: rest =>
    if Text.isDigitIn 8 c then
      let digits := ((c :: rest).take 3).takeWhile (Text.isDigitIn 8)
      Char.ofNat (Text.ofDigits 8 digits) :: set fuel ((c :: rest).drop digits.length)
    else
      (match c with
        | 'n' => '\n'
        | 't' => '\t'
        | 'r' => '\r'
        | c => c) :: set fuel rest
  | fuel + 1, a :: '-' :: b :: rest =>
    (List.range (b.toNat + 1 - a.toNat)).map (fun n => Char.ofNat (a.toNat + n)) ++ set fuel rest
  | fuel + 1, c :: rest => c :: set fuel rest

/-- Keeps one of characters that repeat. -/
def squeeze (set : List Char) : Bytes → Bytes
  | [] => []
  | c :: rest =>
    match squeeze set rest with
    | d :: more => if c = d && set.contains c then d :: more else c :: d :: more
    | [] => [c]

/-- Replaces, deletes or squeezes characters. -/
def exchange (args : List Bytes) : Filter :=
  let (given, sets) := options "" args
  let sets := sets.map fun s => set s.length s
  let inverted := given.has 'c' || given.has 'C'
  let inFirst (c : Char) : Bool := (sets.getD 0 []).contains c != inverted
  ofBytes [] fun bytes =>
    let last := sets.getD (sets.length - 1) []
    let changed :=
      if given.has 'd' then bytes.filter (!inFirst ·)
      else match sets with
        | [old, new] => bytes.map fun c =>
          if inverted then if inFirst c then new.getLast?.getD c else c
          else match old.idxOf? c with
            | some i => (new[i]?.or new.getLast?).getD c
            | none => c
        | _ => bytes
    if given.has 's' then
      squeeze (if inverted && sets.length = 1 then bytes.filter inFirst else last) changed
    else changed

/-! Searching and editing. -/

/-- A text in which every character stands for itself. -/
def escaped (cs : List Char) : List Char :=
  cs.flatMap fun c => if c.isAlphanum || 127 < c.toNat then [c] else ['\\', c]

/-- All matches in a line. -/
def hits (e : Pattern.Expr) (text : Bytes) : (fuel position : Nat) → List Bytes
  | 0, _ => []
  | fuel + 1, position =>
    let before := if position = 0 then none else text[position - 1]?
    match (e.search before position ∅ (text.drop position)).bind (·.ends? 1) with
    | none => []
    | some (start, stop) =>
      let rest := hits e text fuel (if stop = start then stop + 1 else stop)
      if stop = start then rest else (text.drop start).take (stop - start) :: rest

def search? (name : String) (args : List Bytes) : Option Filter := do
  let (given, args) := options "emABC" args
  let (e, files) ← match given.value? 'e', args with
    | some e, files => some (e, files)
    | none, e :: files => some (e, files)
    | none, [] => none
  let extended := given.has 'E' || name = "egrep"
  let core := (Text.splitAt '\n' e).map fun e =>
    if given.has 'F' || name = "fgrep" then escaped e
    else Edit.patternOf extended e.length true e
  let core := "(?:".toList ++ (core.intersperse ['|']).flatten ++ [')']
  let core := if given.has 'w' then "\\b".toList ++ core ++ "\\b".toList else core
  let core := if given.has 'x' then '^' :: core ++ ['$'] else core
  let p ← Edit.ofText? (given.has 'i') core
  some { files := files, failure := 2, run := fun inputs =>
    let wanted (line : Bytes) : Bool := Edit.finds p line != given.has 'v'
    let found := inputs.map fun i =>
      (i, ((bodies i.bytes).zipIdx.filter fun l => wanted l.1).take
        (((given.value? 'm').map (Text.ofDigits 10)).getD i.bytes.length))
    let lead (i : Input) : Bytes :=
      if (1 < inputs.length || given.has 'H') && !given.has 'h' then i.name.getD [] ++ [':'] else []
    let out := found.flatMap fun (i, lines) =>
      if given.has 'q' then []
      else if given.has 'l' then
        if lines.isEmpty then [] else (i.name.getD "(standard input)".toList) ++ ['\n']
      else if given.has 'c' then lead i ++ (toString lines.length).toList ++ ['\n']
      else lines.flatMap fun (line, n) =>
        let lead := lead i ++ if given.has 'n' then (toString (n + 1)).toList ++ [':'] else []
        let parts := if given.has 'o' then hits p line (line.length + 1) 0 else [line]
        ended (parts.map (lead ++ ·))
    ⟨out, if found.all (·.2.isEmpty) then 1 else 0⟩ }

def edit? (args : List Bytes) : Option Filter := do
  let (given, args) := options "ef" args
  let scripts := (given.filter (·.1 == 'e')).map (·.2)
  let (script, files) ← match scripts, args with
    | [], script :: files => some (script, files)
    | [], [] => none
    | scripts, files => some ((scripts.intersperse ['\n']).flatten, files)
  let steps ← Edit.steps? (given.has 'E' || given.has 'r') (script.length + 1) script
  some (ofBytes files fun bytes => Edit.editAll (given.has 'n') 1 steps (linesOf bytes))

/-- A program by its name. -/
def ofName? (name : String) (args : List Bytes) : Option Filter :=
  let files := (options "" args).2
  match name with
  | "cat" =>
    let numbered := (options "" args).1.has 'n'
    some (ofBytes files fun bytes =>
      if numbered then
        (linesOf bytes).zipIdx.flatMap fun (line, n) =>
          let digits := (toString (n + 1)).toList
          List.replicate (6 - digits.length) ' ' ++ digits ++ '\t' :: line
      else bytes)
  | "tac" => some (ofBytes files fun bytes => (linesOf bytes).reverse.flatten)
  | "rev" => some (ofBytes files fun bytes => ended ((bodies bytes).map List.reverse))
  | "sed" => edit? args
  | "grep" | "egrep" | "fgrep" => search? name args
  | "head" => some (head args)
  | "tail" => some (tail args)
  | "wc" => some (count args)
  | "tr" => some (exchange args)
  | "cut" => some (cut args)
  | "sort" => some (sort args)
  | "uniq" => some (unique args)
  | _ => none

end Filter

end Landing.Shell
