import Landing.Shell.Builtin
import Landing.Shell.Parser
import Landing.Shell.Program
import Landing.Shell.Redirection

/-! Running commands. -/
namespace Landing.Shell.Machine

/-- One round of a loop. It says whether there may be another. -/
def round (a : Act Unit) : Act Bool := fun s =>
  match a s with
  | (.ok (), s) => (.ok true, s)
  | (.error (.leave n), s) => if n ≤ 1 then (.ok false, s) else (.error (.leave (n - 1)), s)
  | (.error (.again n), s) => if n ≤ 1 then (.ok true, s) else (.error (.again (n - 1)), s)
  | (.error f, s) => (.error f, s)

/-- How many functions may run inside each other. -/
def deepest : Nat := 1000

/-- Runs something, whatever ends it early, unless it is a signal. -/
def settled (a : Act Unit) : Act Unit :=
  tryCatch a fun
    | .killed n => throw (.killed n)
    | _ => pure ()

/-- Runs something in a process of its own, which leaves behind files, output and its status. A
signal that ends it ends the script too. -/
def apart (a : Act Unit) : Act Unit := fun outer =>
  let traps := outer.traps.entries.filter fun t => t.2.isEmpty
  let (r, inner) := settled a { outer with traps := ⟨traps⟩, raised := [], before := none }
  (r, outer.rejoin inner)

/-- The text of an expression as parts of a word: the value, or what is wrong. -/
def compute (isQuoted : Bool) (text : Bytes) : Act (List Part) := do
  let s ← get
  let result := do ((← Arithmetic.parse text).value s.fixed).run s.bindings
  match result with
  | .ok (n, bindings) =>
    set { s with bindings := bindings }
    pure (Part.ofValue isQuoted (toString n).toList)
  | .error f => Act.die (f.message text)

/-- The value of a parameter as parts of a word. The arguments stay apart where they can. -/
def parameter (isQuoted : Bool) (name : String) : Act (List Part) := do
  let s ← get
  if s.options.complete && (s.parameter? name).isNone then
    Act.die (name ++ ": parameter not set")
  if name = "@" || (name = "*" && !isQuoted) then
    pure ((s.arguments.map (Part.ofValue isQuoted)).intersperse [.gap]).flatten
  else pure (Part.ofValue isQuoted (s.value name))

/-- What is left of a value after a cut. Arguments are cut as one text. -/
def cut (isQuoted : Bool) (name : String) (drop : Bytes → Bytes) : Act (List Part) := do
  let s ← get
  if s.options.complete && (s.parameter? name).isNone then
    Act.die (name ++ ": parameter not set")
  pure (Part.ofValue isQuoted (drop (s.value name)))

/-- Tells a command before it runs, where faults went before its redirections. -/
def trace (outer : State) (settings : List (String × Bytes)) (args : List Bytes) : Act Unit := do
  let s ← get
  if s.options.traced then
    let words := settings.map (fun e => e.1.toList ++ '=' :: e.2) ++ args
    let line := s.value "PS4" ++ (words.intersperse [' ']).flatten ++ ['\n']
    match { s with streams := outer.streams }.send? 2 line with
    | some told => set { told with streams := s.streams }
    | none => pure ()

/-- What stands in the place of a parameter is split like its value; between quotes it is a field
even if it is empty. -/
def inPlace (isQuoted : Bool) (parts : List Part) : List Part :=
  if isQuoted then .anchor :: parts
  else parts.map fun
    | .char c .literal => .char c .value
    | p => p

mutual

/-- Expands the parts of a word. -/
def expand : (fuel : Nat) → Context → Word → Act (List Part)
  | 0, _, _ => throw (.killed 11)
  | _, _, [] => pure []
  | fuel + 1, k, p :: rest => do
    let parts ← piece fuel k p
    pure (parts ++ (← expand fuel k rest))

def piece : (fuel : Nat) → Context → Piece → Act (List Part)
  | 0, _, _ => throw (.killed 11)
  | fuel + 1, k, p => do
    let s ← get
    match p with
    | .text true bytes => pure (Part.quoted bytes)
    | .text false bytes => pure (bytes.map (.char · .literal))
    | .home user =>
      let place? := if user.isEmpty then s.bindings.get? "HOME"
        else if user = "root".toList then some "/root".toList else none
      pure (Part.quoted (place?.getD ('~' :: user)))
    | .parameter isQuoted name => parameter isQuoted name
    | .length isQuoted name =>
      if s.options.complete && (s.parameter? name).isNone then
        Act.die (name ++ ": parameter not set")
      pure (Part.ofValue isQuoted (toString (s.value name).length).toList)
    | .parameterUse isQuoted name use word =>
      match use with
      | .default empty =>
        if s.isMissing name empty then pure (inPlace isQuoted (← expand fuel k word))
        else do pure (inPlace isQuoted (← parameter isQuoted name))
      | .alternative empty =>
        if s.isMissing name empty then pure (inPlace isQuoted [])
        else pure (inPlace isQuoted (← expand fuel k word))
      | .assign empty =>
        if s.isMissing name empty then
          let value ← argument fuel k word
          if !Reader.isName name.toList then Act.die (name ++ ": bad variable name")
          Act.assign name value
          pure (Part.ofValue isQuoted value)
        else parameter isQuoted name
      | .demand empty =>
        if s.isMissing name empty then
          let text ← argument fuel k word
          Act.die (name ++ ": " ++ if text.isEmpty then
            (if empty then "parameter not set or null" else "parameter not set")
            else String.ofList text)
        else parameter isQuoted name
      | .dropHead longest =>
        let parts ← expand fuel k word
        let pattern := Glob.compile (Part.cells s.joint parts)
        cut isQuoted name (Glob.dropHead longest pattern)
      | .dropTail longest =>
        let parts ← expand fuel k word
        let pattern := Glob.compile (Part.cells s.joint parts)
        cut isQuoted name (Glob.dropTail longest pattern)
    | .output isQuoted body =>
      apart do
        modify Redirection.keep
        toEnd fuel (commands fuel {} body)
      let (bytes, s') := Redirection.takeKept (← get)
      set { s' with outputStatus := s'.status, status := s.status }
      pure (Part.ofValue isQuoted (Redirection.captured bytes))
    | .arithmetic isQuoted expression => compute isQuoted (← argument fuel k expression)
    | .misuse => Act.die "Bad substitution"

/-- Expands words to arguments. Where variables are declared, settings stay whole. -/
def arguments : (fuel : Nat) → Context → (declares : Bool) → List Word → Act (List Bytes)
  | 0, _, _, _ => throw (.killed 11)
  | _, _, _, [] => pure []
  | fuel + 1, k, declares, w :: rest => do
    let words ← match if declares then Reader.settingOf? w else none with
      | some (name, value) => do pure [name.toList ++ '=' :: (← argument fuel k value)]
      | none => do
        let parts ← expand fuel k w
        let s ← get
        pure ((Part.fields s.separators parts).flatMap fun cells =>
          let found :=
            if Glob.isPattern cells && !s.options.verbatim then s.pathsFor cells else []
          if found.isEmpty then [cells.map (·.1)] else found)
    pure (words ++ (← arguments fuel k declares rest))

/-- Expands a word to one argument. -/
def argument : (fuel : Nat) → Context → Word → Act Bytes
  | 0, _, _ => throw (.killed 11)
  | fuel + 1, k, w => do
    let parts ← expand fuel k w
    pure ((Part.cells (← get).joint parts).map (·.1))

/-- Ties streams anew, one after the other, up to one that cannot be. -/
def redirect : (fuel : Nat) → Context → List Redirect → Act (Option String)
  | 0, _, _ => throw (.killed 11)
  | _, _, [] => pure none
  | fuel + 1, k, r :: rest => do
    let fault ← match r with
      | .named stream direction target => do
        Redirection.tie stream direction (← argument fuel k target)
      | .document stream number => do
        let text ← argument fuel k ((← get).documents.getD number [])
        modify (·.feed stream text)
        pure none
    match fault with
    | none => redirect fuel k rest
    | fault => pure fault

/-- Runs commands one after the other. -/
def commands : (fuel : Nat) → Context → List Command → Act Unit
  | 0, _, _ => throw (.killed 11)
  | _, _, [] => pure ()
  | fuel + 1, k, c :: rest => do
    command fuel k c
    commands fuel k rest

/-- Follows settings one after the other, and gives their values. -/
def settings : (fuel : Nat) → Context → List (String × Word) → Act (List (String × Bytes))
  | 0, _, _ => throw (.killed 11)
  | _, _, [] => pure []
  | fuel + 1, k, (name, w) :: rest => do
    let value ← argument fuel k w
    Act.assign name value
    pure ((name, value) :: (← settings fuel k rest))

/-- Runs a text as commands, line by line. A line that cannot be read ends the script. -/
def source : (fuel : Nat) → Context → Source → Act Unit
  | 0, _, _ => throw (.killed 11)
  | fuel + 1, k, text => do
    let s ← get
    let text := { text with documents := s.documents, aliases := s.aliases }
    match (Reader.list (8 * text.rest.length + 64) .line).run text with
    | .error (line, fault) =>
      modify fun s => { s with line := line }
      Act.die ("Syntax error: " ++ fault.message)
    | .ok (body, text) =>
      modify fun s => { s with documents := text.documents }
      commands fuel k body
      match text.pushed with
      | some .ending => pure ()
      | _ => source fuel k text

/-- Runs the traps of the signals that came. They leave the status as it was. -/
def traps : (fuel : Nat) → Act Unit
  | 0 => throw (.killed 11)
  | fuel + 1 => do
    let s ← get
    match s.raised with
    | [] => pure ()
    | name :: rest =>
      set { s with raised := rest, before := some s.status }
      source fuel {} { rest := (s.traps.get? name).getD [] }
      modify fun s' => { s' with status := s.status, before := s.before }
      traps fuel

/-- Runs something to its end, and then what is to run at the end. -/
def toEnd : (fuel : Nat) → Act Unit → Act Unit
  | 0, _ => throw (.killed 11)
  | fuel + 1, a => do
    settled a
    let s ← get
    match s.traps.get? "EXIT" with
    | none => pure ()
    | some action =>
      set { s with traps := s.traps.erase "EXIT", before := some s.status }
      settled (source fuel {} { rest := action })
      modify fun s' => { s' with status := s'.before.getD s'.status }

/-- Runs a command with its settings, under its redirections. -/
def simple : (fuel : Nat) → Context → List (String × Word) → List Word → List Redirect → Act Unit
  | 0, _, _, _, _ => throw (.killed 11)
  | fuel + 1, k, vars, words, redirects => do
    let declares := (words.head?.bind Word.plain?).any fun name =>
      ["export", "local", "readonly"].contains (String.ofList name)
    let args ← arguments fuel k declares words
    let outer ← get
    let isReserved := args.head?.any fun name => Token.reserved.contains (String.ofList name)
    match ← redirect fuel k redirects with
    | some text =>
      modify (Redirection.untie redirects outer.streams)
      Act.tell text
      Act.setStatus 2
      if isReserved then throw .exit
    | none =>
      let values ← settings fuel k vars
      trace outer values args
      match args with
      | [] => modify fun s =>
          { Redirection.untie redirects outer.streams s with status := s.outputStatus }
      | name :: args =>
        if name = "exec".toList && args.isEmpty then Act.setStatus 0
        else
          modify fun s => { s with exported := values.map (·.1) ++ s.exported }
          Act.afterwards (call fuel k name args) fun s =>
            let s := Redirection.untie redirects outer.streams s
            let s := { s with exported := s.exported.drop values.length }
            if isReserved then s
            else values.foldl (fun s e => s.restore e.1 (outer.bindings.get? e.1)) s
        traps fuel

/-- Runs a command. A failure that is not looked at ends a strict script. -/
def command : (fuel : Nat) → Context → Command → Act Unit
  | 0, _, _ => throw (.killed 11)
  | fuel + 1, k, c => do
    let settle : Act Unit := do
      let s ← get
      if s.options.strict && !k.tested && s.status ≠ 0 then Act.fail s.status
    match c with
    | .simple line vars words redirects =>
      modify fun s => { s with line := line, outputStatus := 0 }
      simple fuel k vars words redirects
      settle
    | .redirected line c redirects =>
      modify fun s => { s with line := line }
      let outer ← get
      match ← redirect fuel k redirects with
      | some text =>
        modify (Redirection.untie redirects outer.streams)
        Act.tell text
        Act.setStatus 2
      | none => Act.afterwards (command fuel k c) (Redirection.untie redirects outer.streams)
    | .pipe stages =>
      pipe fuel k stages
      settle
    | .apart body =>
      apart (toEnd fuel (commands fuel k body))
      settle
    | .background c =>
      let s ← get
      apart do
        modify fun s => { s with
          streams := s.streams.insert 0 .nowhere, clock := s.clock + State.latency }
        toEnd fuel (command fuel {} c)
      modify fun s' => { s' with
        clock := s.clock, status := 0
        jobs := s.jobs.insert (s.number + 1 + s.jobs.size) ⟨s'.status, s'.clock⟩ }
    | .negated c =>
      command fuel { k with tested := true } c
      modify fun s => { s with status := if s.status = 0 then 1 else 0 }
    | .both a b =>
      command fuel { k with tested := true } a
      if (← get).status = 0 then command fuel k b
    | .either a b =>
      command fuel { k with tested := true } a
      if (← get).status ≠ 0 then command fuel k b
    | .group body => commands fuel k body
    | .branches arms otherwise => branches fuel k arms otherwise
    | .loop stopOn condition body =>
      loop fuel { k with loops := k.loops + 1 } stopOn condition body 0
    | .each line name words body =>
      modify fun s => { s with line := line }
      let args ← match words with
        | some words => arguments fuel k false words
        | none => do pure (← get).arguments
      if args.isEmpty then Act.setStatus 0
      each fuel { k with loops := k.loops + 1 } name args body
    | .cases line subject arms =>
      modify fun s => { s with line := line }
      let text ← argument fuel k subject
      cases fuel k text arms
    | .define name body =>
      modify fun s => { s with functions := s.functions.insert name body, status := 0 }

/-- Every stage prints to the input of the next one. Each is a process of its own. -/
def pipe : (fuel : Nat) → Context → List Command → Act Unit
  | 0, _, _ => throw (.killed 11)
  | _, _, [] => pure ()
  | fuel + 1, k, [c] => apart (toEnd fuel (command fuel k c))
  | fuel + 1, k, c :: rest => do
    apart do
      modify Redirection.keep
      toEnd fuel (command fuel k c)
    let outer ← get
    let (bytes, s) := Redirection.takeKept outer
    set (s.feed 0 bytes)
    pipe fuel k rest
    modify fun s => { s with streams := outer.streams }

def branches : (fuel : Nat) → Context → List (List Command × List Command) → List Command →
    Act Unit
  | 0, _, _, _ => throw (.killed 11)
  | fuel + 1, k, [], otherwise =>
    if otherwise.isEmpty then Act.setStatus 0 else commands fuel k otherwise
  | fuel + 1, k, (condition, body) :: rest, otherwise => do
    commands fuel { k with tested := true } condition
    if (← get).status = 0 then commands fuel k body else branches fuel k rest otherwise

/-- Runs the body as long as the condition says so. `last` is the status of the last round. -/
def loop : (fuel : Nat) → Context → Bool → List Command → List Command → (last : Nat) → Act Unit
  | 0, _, _, _, _, _ => throw (.killed 11)
  | fuel + 1, k, stopOn, condition, body, last => do
    let more ← round do
      commands fuel { k with tested := true } condition
      if ((← get).status = 0) = stopOn then
        Act.setStatus last
        throw (.leave 1)
      commands fuel k body
    if more then loop fuel k stopOn condition body (← get).status

def each : (fuel : Nat) → Context → String → List Bytes → List Command → Act Unit
  | 0, _, _, _, _ => throw (.killed 11)
  | _, _, _, [], _ => pure ()
  | fuel + 1, k, name, arg :: rest, body => do
    Act.assign name arg
    if ← round (commands fuel k body) then each fuel k name rest body

/-- The first arm with a pattern that fits. -/
def cases : (fuel : Nat) → Context → Bytes → List (List Word × List Command) → Act Unit
  | 0, _, _, _ => throw (.killed 11)
  | _, _, _, [] => Act.setStatus 0
  | fuel + 1, k, text, (patterns, body) :: rest => do
    if ← anyFits fuel k text patterns then
      if body.isEmpty then Act.setStatus 0 else commands fuel k body
    else cases fuel k text rest

def anyFits : (fuel : Nat) → Context → Bytes → List Word → Act Bool
  | 0, _, _, _ => throw (.killed 11)
  | _, _, _, [] => pure false
  | fuel + 1, k, text, w :: rest => do
    let parts ← expand fuel k w
    if Glob.fits (Glob.compile (Part.cells (← get).joint parts)) text then pure true
    else anyFits fuel k text rest

/-- Runs a command by its name. -/
def call : (fuel : Nat) → Context → (name : Bytes) → List Bytes → Act Unit
  | 0, _, _, _ => throw (.killed 11)
  | fuel + 1, k, name, args => do
    let s ← get
    match s.functions.get? (String.ofList name) with
    | some body =>
      if s.depth = deepest then
        Act.die ("Maximum function recursion depth (" ++ toString deepest ++ ") reached")
      set { s with arguments := args, locals := some [], depth := s.depth + 1 }
      Act.afterwards (tryCatch (command fuel { k with loops := 0 } body) fun
        | .back => pure ()
        | f => throw f) fun s' =>
          let s' := (s'.locals.getD []).foldl (fun t e => t.restore e.1 e.2) s'
          { s' with arguments := s.arguments, locals := s.locals, depth := s.depth }
    | none => run fuel k name args

/-- Runs a command that is no function. -/
def run : (fuel : Nat) → Context → (name : Bytes) → List Bytes → Act Unit
  | 0, _, _, _ => throw (.killed 11)
  | fuel + 1, k, name, args => do
    let s ← get
    match String.ofList name with
    | "eval" =>
      let text := (args.intersperse [' ']).flatten
      set { s with speaker := some name, status := if text.isEmpty then 0 else s.status }
      Act.afterwards (source fuel k { rest := text }) fun s' =>
        { s' with speaker := s.speaker }
    | "." =>
      match args with
      | [] => Act.setStatus 0
      | path :: _ =>
        match (if path.contains '/' then some path else Program.path? s path).bind s.contents? with
        | some text =>
          set { s with speaker := some path, status := 0 }
          Act.afterwards (tryCatch (source fuel {} { rest := text }) fun
            | .back => pure ()
            | f => throw f) fun s' => { s' with speaker := s.speaker }
        | none =>
          Builtin.fatal "." (if path.contains '/' then
            "cannot open " ++ String.ofList path ++ ": No such file"
            else String.ofList path ++ ": not found")
    | "exec" =>
      match args with
      | [] => Act.setStatus 0
      | name :: rest =>
        match Program.ofName s name rest with
        | .missing =>
          Act.tellAs (some "exec".toList) (String.ofList name ++ ": not found")
          Act.setStatus 127
        | .forbidden =>
          Act.tellAs (some "exec".toList) (String.ofList name ++ ": Permission denied")
          Act.setStatus 126
        | _ =>
          set { s with traps := s.traps.erase "EXIT" }
          start fuel name rest
        throw .exit
    | "command" =>
      match args with
      | ['-', 'v'] :: name :: _ =>
        let found ← Program.describe false name
        Act.setStatus (if found then 0 else 127)
      | ['-', 'V'] :: name :: _ =>
        let found ← Program.describe true name
        Act.setStatus (if found then 0 else 127)
      | ['-', 'p'] :: name :: rest | name :: rest => run fuel k name rest
      | [] => Act.setStatus 0
    | "type" =>
      let found ← args.mapM (Program.describe true)
      Act.setStatus (if found.all id then 0 else 127)
    | word =>
      match Builtin.run? word args k with
      | some a => a
      | none => start fuel name args

/-- Runs a program. -/
def start : (fuel : Nat) → (name : Bytes) → List Bytes → Act Unit
  | 0, _, _ => throw (.killed 11)
  | fuel + 1, name, args => do
    let s ← get
    match Program.ofName s name args with
    | .tool a => a
    | .runner name => runner fuel name args
    | .script text =>
      Program.started (Program.child · name args) (toEnd fuel (source fuel {} { rest := text }))
    | .forbidden =>
      Act.tell (String.ofList name ++ ": Permission denied")
      Act.setStatus 126
    | .missing =>
      Act.tell (String.ofList name ++ if name.isEmpty then ": Permission denied" else ": not found")
      Act.setStatus 127

/-- Runs a program that runs others. -/
def runner : (fuel : Nat) → (name : String) → List Bytes → Act Unit
  | 0, _, _ => throw (.killed 11)
  | fuel + 1, name, args => do
    match name with
    | "env" =>
      let (clean, args) := match args with
        | ['-', 'i'] :: rest | ['-'] :: rest => (true, rest)
        | args => (false, args)
      let values := (args.map Reader.setting?).takeWhile (·.isSome) |>.filterMap id
      Program.started (fun s =>
        let s := if clean then { s with bindings := .empty, exported := [] } else s
        values.foldl (fun s e => { s.assign e.1 e.2 with exported := e.1 :: s.exported }) s)
        (match args.drop values.length with
          | [] => (Tool.run? "printenv" []).getD (pure ())
          | name :: rest => start fuel name rest)
    | "xargs" =>
      let count := (args.takeWhile isOption).length
      let (given, command) := Filter.optionsFrom ['n', 'I', 'L'] count args
      let s ← get
      let words := (Text.splitAt '\n' s.input).flatMap fun line =>
        if given.has 'I' then if line.isEmpty then [] else [line]
        else (Text.splitAt ' ' line).filter (!·.isEmpty)
      set (s.setInput [])
      let size := (given.value? 'n').map (Text.ofDigits 10)
      let command := if command.isEmpty then ["echo".toList] else command
      let calls := match given.value? 'I' with
        | some mark => words.map fun w => command.map fun (c : Bytes) =>
          Program.replaced mark w c.length c
        | none =>
          match size with
          | some n => (Program.chunks n words.length words).map (command ++ ·)
          | none => if words.isEmpty && given.has 'r' then [] else [command ++ words]
      Act.setStatus 0
      calls.forM fun call =>
        match call with
        | name :: rest => start fuel name rest
        | [] => pure ()
    | "sh" | "dash" | "bash" => shell fuel name args
    | "which" =>
      let s ← get
      let found := args.map fun name =>
        match Program.path? s name, Program.ofName s name [] with
        | _, .missing | _, .forbidden => none
        | path, _ => path
      Act.send 1 (found.flatMap fun path => (path.map (· ++ ['\n'])).getD [])
      Act.setStatus (if found.all (·.isSome) then 0 else 1)
    | name =>
      let args := args.dropWhile isOption
      match if name = "timeout" then args.drop 1 else args with
      | name :: rest => start fuel name rest
      | [] => Act.setStatus 125

/-- Runs another shell: on a text given, on a file, or on its input. -/
def shell : (fuel : Nat) → (name : String) → List Bytes → Act Unit
  | 0, _, _ => throw (.killed 11)
  | fuel + 1, name, args => do
    let letters := (args.takeWhile isOption).flatten
    let rest := args.dropWhile isOption
    let options := letters.foldl (fun o c => (Builtin.option? true c o).getD o) ({} : Options)
    let s ← get
    let go (program : Bytes) (arguments : List Bytes) (text : Bytes) : Act Unit :=
      Program.started (fun s => { Program.child s program arguments with options := options })
        (toEnd fuel (source fuel {} { rest := text }))
    if letters.contains 'c' then
      match rest with
      | text :: rest => go (rest.head?.getD name.toList) rest.tail text
      | [] =>
        Act.send 2 (name ++ ": 0: -c requires an argument\n").toList
        Act.setStatus 2
    else if letters.contains 's' then
      set (s.setInput [])
      go name.toList rest s.input
    else
      match rest with
      | path :: rest =>
        match s.contents? path with
        | some text => go path rest text
        | none =>
          let fault := ": 0: cannot open " ++ String.ofList path ++ ": No such file\n"
          Act.send 2 (name ++ fault).toList
          Act.setStatus 2
      | [] =>
        set (s.setInput [])
        go name.toList [] s.input

end

end Landing.Shell.Machine
