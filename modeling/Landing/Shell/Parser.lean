import Landing.Shell.Source

/-! Reading commands. Each reader follows one rule of the grammar. -/
namespace Landing.Shell.Reader

/-- What ends quoted text. -/
inductive Bound where
  | quote
  /-- A closing brace; inside further quotes it is one like others. -/
  | brace (inQuotes : Bool)
  /-- Two closing brackets that match those before, with the brackets opened in between. -/
  | sum (depth : Nat)
  | lineEnd

/-- What a list of commands may be. -/
inductive Extent where
  /-- The commands of one line. -/
  | line
  | some
  | any
  deriving DecidableEq

mutual

/-- The parts of a word. Inside braces only a closing brace ends it. -/
def word : (fuel : Nat) → (inBraces : Bool) → Reader Word
  | 0, _ => refuse .tooDeep
  | fuel + 1, inBraces => do
    match ← ahead with
    | [] => if inBraces then refuse .openBrace else pure []
    | '\'' :: _ =>
      drop 1
      let text ← upTo '\'' .openQuote
      pure (.text true text :: (← word fuel inBraces))
    | '"' :: _ =>
      drop 1
      let ps ← quoted fuel .quote
      pure ((if ps.isEmpty then [.text true []] else ps) ++ (← word fuel inBraces))
    | '\\' :: rest =>
      drop 2
      pure (.text true [rest.head?.getD '\\'] :: (← word fuel inBraces))
    | '$' :: _ =>
      drop 1
      let p ← dollar fuel false
      pure (p :: (← word fuel inBraces))
    | '\x60' :: _ =>
      drop 1
      let p ← backQuote fuel false
      pure (p :: (← word fuel inBraces))
    | c :: _ =>
      if inBraces && c == '\x7d' then
        drop 1
        pure []
      else if !inBraces && isMeta c then pure []
      else
        let text ← takeWhile fun c =>
          !("'\"\\$\x60".toList.contains c || if inBraces then c == '\x7d' else isMeta c)
        pure (.text false text :: (← word fuel inBraces))

/-- What stands between double quotes, or where text is read as if it did. -/
def quoted : (fuel : Nat) → Bound → Reader Word
  | 0, _ => refuse .tooDeep
  | fuel + 1, bound => do
    match (← get).rest, bound with
    | [], .lineEnd => pure []
    | [], .sum _ => refuse .openSum
    | [], _ => refuse .openQuote
    | '\\' :: '\n' :: _, _ =>
      drop 2
      quoted fuel bound
    | '\\' :: c :: _, _ =>
      drop 2
      let isProtected := c == '\\' || c == '$' || c == '\x60' ||
        match bound with
        | .quote | .sum _ => c == '"'
        | .brace _ => c == '"' || c == '\x7d'
        | .lineEnd => false
      pure (.text true (if isProtected then [c] else ['\\', c]) :: (← quoted fuel bound))
    | '$' :: _, _ =>
      drop 1
      let p ← dollar fuel true
      pure (p :: (← quoted fuel bound))
    | '\x60' :: _, _ =>
      drop 1
      let p ← backQuote fuel true
      pure (p :: (← quoted fuel bound))
    | '"' :: _, .quote => drop 1 *> pure []
    | '"' :: _, .brace inQuotes => drop 1 *> quoted fuel (.brace !inQuotes)
    | '"' :: _, .sum depth => drop 1 *> quoted fuel (.sum depth)
    | '\x7d' :: _, .brace false => drop 1 *> pure []
    | '\n' :: _, .lineEnd => drop 1 *> pure [.text true ['\n']]
    | ')' :: ')' :: _, .sum 0 => drop 2 *> pure []
    | ')' :: _, .sum depth =>
      drop 1
      pure (.text true [')'] :: (← quoted fuel (.sum (depth - 1))))
    | '(' :: _, .sum depth =>
      drop 1
      pure (.text true ['('] :: (← quoted fuel (.sum (depth + 1))))
    | c :: _, _ =>
      drop 1
      let text ← takeWhile fun c => !"\"\\$\x60\x7d()\n".toList.contains c
      pure (.text true (c :: text) :: (← quoted fuel bound))

/-- What a dollar sign stands for. -/
def dollar : (fuel : Nat) → (isQuoted : Bool) → Reader Piece
  | 0, _ => refuse .tooDeep
  | fuel + 1, isQuoted => do
    match ← ahead with
    | '(' :: _ =>
      drop 1
      if ← takes '(' then pure (.arithmetic isQuoted (← quoted fuel (.sum 0)))
      else
        let due := (← get).due
        modify fun s => { s with due := [] }
        let body ← list fuel .any
        expect fuel .closing
        modify fun s => { s with due := due }
        pure (.output isQuoted body)
    | '\x7b' :: _ =>
      drop 1
      parameter fuel isQuoted
    | c :: _ =>
      if isNameStart c then pure (.parameter isQuoted (String.ofList (← takeWhile isNameChar)))
      else if isOddName c then
        drop 1
        pure (.parameter isQuoted (String.ofList [c]))
      else pure (.text isQuoted ['$'])
    | [] => pure (.text isQuoted ['$'])

/-- A parameter after its opening brace. -/
def parameter : (fuel : Nat) → (isQuoted : Bool) → Reader Piece
  | 0, _ => refuse .tooDeep
  | fuel + 1, isQuoted => do
    let text := if isQuoted then quoted fuel (.brace false) else word fuel true
    let rest ← ahead
    match subject? rest with
    | none =>
      if rest.head? ≠ some '\x7d' then skipMisfit
      let _ ← text
      pure .misuse
    | some (name, measured, n) =>
      drop n
      if ← takes '\x7d' then
        pure (if measured then .length isQuoted name else .parameter isQuoted name)
      else
        match use? (← ahead) with
        | none =>
          let _ ← takes ':'
          skipMisfit
          let _ ← text
          pure .misuse
        | some (use, n) =>
          drop n
          let w ← if isCut use then word fuel true else text
          pure (.parameterUse isQuoted name use w)

/-- Commands after an opening back quote. -/
def backQuote : (fuel : Nat) → (isQuoted : Bool) → Reader Piece
  | 0, _ => refuse .tooDeep
  | fuel + 1, isQuoted => do
    let outer ← get
    match backQuoted? isQuoted outer.rest with
    | none =>
      drop outer.rest.length
      refuse .openBackQuote
    | some (text, n) =>
      set { outer with rest := text, line := 1, pushed := none, due := [] }
      let body ← list fuel .any
      let documents := (← get).documents
      set { outer with documents := documents }
      drop n
      pure (.output isQuoted body)

/-- The text of a document. A line that is its mark ends it. -/
def document : (fuel : Nat) → Due → Reader Word
  | 0, _ => refuse .tooDeep
  | fuel + 1, d => do
    if d.strips then
      let _ ← takeWhile (· == '\t')
    let line := (← get).rest.takeWhile (· ≠ '\n')
    if line = d.mark then
      drop (line.length + 1)
      pure []
    else if (← get).rest.isEmpty then pure []
    else if d.isLiteral then
      let text := (← get).rest.take (line.length + 1)
      drop text.length
      pure (.text true text :: (← document fuel d))
    else
      let ps ← quoted fuel .lineEnd
      pure (ps ++ (← document fuel d))

/-- The documents that were announced on the line that just ended. -/
def documents : (fuel : Nat) → List Due → Reader Unit
  | 0, _ => refuse .tooDeep
  | _, [] => modify fun s => { s with due := [] }
  | fuel + 1, d :: rest => do
    let text ← document fuel d
    modify fun s => { s with documents := s.documents.set! d.number text }
    documents fuel rest

/-- The next token; documents follow the end of their line. -/
def token : (fuel : Nat) → Reader Token
  | 0 => refuse .tooDeep
  | fuel + 1 => do
    let s ← get
    match s.pushed with
    | some t =>
      set { s with pushed := none }
      pure t
    | none =>
      skipBlank
      match ← ahead with
      | [] => pure .ending
      | '\n' :: _ =>
        drop 1
        documents fuel (← get).due
        pure .newline
      | '&' :: _ => drop 1 *> return if ← takes '&' then .both else .background
      | '|' :: _ => drop 1 *> return if ← takes '|' then .either else .pipe
      | ';' :: _ => drop 1 *> return if ← takes ';' then .armEnd else .semicolon
      | '(' :: _ => drop 1 *> pure .opening
      | ')' :: _ => drop 1 *> pure .closing
      | '<' :: _ => drop 1 *> input 0
      | '>' :: _ => drop 1 *> output 1
      | c :: '<' :: _ =>
        if isDigit c then drop 2 *> input (c.toNat - '0'.toNat) else .word <$> word fuel false
      | c :: '>' :: _ =>
        if isDigit c then drop 2 *> output (c.toNat - '0'.toNat) else .word <$> word fuel false
      | _ => .word <$> word fuel false
where
  input (stream : Nat) : Reader Token := do
    if ← takes '<' then return .redirect stream (.document (← takes '-'))
    else if ← takes '&' then return .redirect stream (.to .copy)
    else return .redirect stream (.to .read)
  output (stream : Nat) : Reader Token := do
    if ← takes '>' then return .redirect stream (.to .append)
    else if ← takes '|' then return .redirect stream (.to .overwrite)
    else if ← takes '&' then return .redirect stream (.to .copy)
    else return .redirect stream (.to .write)

/-- The next token, where keywords may stand and where line ends may be skipped. -/
def next : (fuel : Nat) → (keywords lines : Bool) → Reader Token
  | 0, _, _ => refuse .tooDeep
  | fuel + 1, keywords, lines => do
    match ← token fuel with
    | .newline => if lines then next fuel keywords lines else pure .newline
    | t => pure (if keywords then t.recognise else t)

def expect : (fuel : Nat) → Token → Reader Unit
  | 0, _ => refuse .tooDeep
  | fuel + 1, expected => do
    let t ← next fuel false false
    if t.text ≠ expected.text then refuse (.unexpected t (some expected))

/-- Commands up to what ends their list. -/
def list : (fuel : Nat) → Extent → Reader (List Command)
  | 0, _ => refuse .tooDeep
  | fuel + 1, extent => do
    let inLine := extent = .line
    match ← next fuel true !inLine with
    | .newline => pure []
    | .ending => push .ending *> pure []
    | t =>
      push t
      if extent = .any && t.endsList then pure []
      else
        let c ← chain fuel
        let more := list fuel (if inLine then .line else .any)
        match ← next fuel false false with
        | .ending => push .ending *> pure [c]
        | .newline => push .newline *> (c :: ·) <$> more
        | .semicolon => (c :: ·) <$> more
        | .background => (.background c :: ·) <$> more
        | t => if inLine then refuse (.unexpected t none) else push t *> pure [c]

/-- Pipelines with conditions between them. -/
def chain : (fuel : Nat) → Reader Command
  | 0 => refuse .tooDeep
  | fuel + 1 => do chainFrom fuel (← pipeline fuel false)

def chainFrom : (fuel : Nat) → Command → Reader Command
  | 0, _ => refuse .tooDeep
  | fuel + 1, first => do
    match ← next fuel false false with
    | .both => chainFrom fuel (.both first (← pipeline fuel true))
    | .either => chainFrom fuel (.either first (← pipeline fuel true))
    | t => push t *> pure first

/-- Commands with pipes between them. After a mark they may stand on a new line. -/
def pipeline : (fuel : Nat) → (afterMark : Bool) → Reader Command
  | 0, _ => refuse .tooDeep
  | fuel + 1, afterMark => do
    match ← next fuel afterMark afterMark with
    | .keyword "!" => .negated <$> stages fuel [] true false
    | t => push t *> stages fuel [] false false

def stages : (fuel : Nat) → List Command → (keywords lines : Bool) → Reader Command
  | 0, _, _, _ => refuse .tooDeep
  | fuel + 1, before, keywords, lines => do
    let c ← command fuel keywords lines
    match ← next fuel false false with
    | .pipe => stages fuel (before ++ [c]) true true
    | t =>
      push t
      pure (if before.isEmpty then c else .pipe (before ++ [c]))

def command : (fuel : Nat) → (keywords lines : Bool) → Reader Command
  | 0, _, _ => refuse .tooDeep
  | fuel + 1, keywords, lines => do
    let line := (← get).line
    match ← next fuel keywords lines with
    | .opening =>
      let body ← list fuel .some
      expect fuel .closing
      redirected fuel line (.apart body) []
    | .keyword "\x7b" =>
      let body ← list fuel .some
      expect fuel (.keyword "\x7d")
      redirected fuel line (.group body) []
    | .keyword "if" =>
      let (arms, otherwise) ← branches fuel
      expect fuel (.keyword "fi")
      redirected fuel line (.branches arms otherwise) []
    | .keyword "while" => redirected fuel line (← loop fuel false) []
    | .keyword "until" => redirected fuel line (← loop fuel true) []
    | .keyword "for" => redirected fuel line (← each fuel line) []
    | .keyword "case" =>
      match ← next fuel false false with
      | .word subject =>
        match ← next fuel true true with
        | .keyword "in" => redirected fuel line (.cases line subject (← arms fuel)) []
        | t => refuse (.unexpected t (some (.keyword "in")))
      | t => refuse (.unexpected t (some (.word [])))
    | .word w =>
      if ← replaces w then command fuel true false
      else
        push (.word w)
        simple fuel line [] [] []
    | .redirect stream way =>
      push (.redirect stream way)
      simple fuel line [] [] []
    | t => refuse (.unexpected t none)

/-- The redirections after a command of several parts. -/
def redirected : (fuel line : Nat) → Command → List Redirect → Reader Command
  | 0, _, _, _ => refuse .tooDeep
  | fuel + 1, line, c, redirects => do
    match ← next fuel true false with
    | .redirect stream way =>
      redirected fuel line c (redirects ++ [← target fuel stream way])
    | t =>
      push t
      pure (if redirects.isEmpty then c else .redirected line c redirects)

/-- What a redirection names. -/
def target : (fuel stream : Nat) → Way → Reader Redirect
  | 0, _, _ => refuse .tooDeep
  | fuel + 1, stream, way => do
    match ← next fuel false false, way with
    | .word w, .to direction => pure (.named stream direction (withHome w))
    | .word w, .document strips =>
      let (mark, isLiteral) := w.literal
      let number := (← get).documents.size
      modify fun s =>
        { s with
          due := s.due ++ [⟨number, mark, isLiteral, strips⟩]
          documents := s.documents.push [] }
      pure (.document stream number)
    | t, _ => refuse (.unexpected t none)

/-- The rest of a loop after its first keyword. -/
def loop : (fuel : Nat) → (stopOn : Bool) → Reader Command
  | 0, _ => refuse .tooDeep
  | fuel + 1, stopOn => do
    let condition ← list fuel .some
    expect fuel (.keyword "do")
    let body ← list fuel .some
    expect fuel (.keyword "done")
    pure (.loop stopOn condition body)

/-- A loop over words, after its keyword. -/
def each : (fuel line : Nat) → Reader Command
  | 0, _ => refuse .tooDeep
  | fuel + 1, line => do
    let name := match ← next fuel false false with
      | .word w => w.plain?.getD []
      | _ => []
    if !isName name then refuse .badLoopVariable
    let given ← match ← next fuel true true with
      | .keyword "in" => some <$> words fuel
      | .semicolon => pure none
      | t => push t *> pure none
    match ← next fuel true true with
    | .keyword "do" =>
      let body ← list fuel .some
      expect fuel (.keyword "done")
      pure (.each line (String.ofList name) given body)
    | t => refuse (.unexpected t (some (.keyword "do")))

/-- Words up to the end of a line or a semicolon. -/
def words : (fuel : Nat) → Reader (List Word)
  | 0 => refuse .tooDeep
  | fuel + 1 => do
    match ← next fuel false false with
    | .word w => (withHome w :: ·) <$> words fuel
    | .newline | .semicolon => pure []
    | t => refuse (.unexpected t none)

/-- The branches after the keyword of the first. -/
def branches : (fuel : Nat) → Reader (List (List Command × List Command) × List Command)
  | 0 => refuse .tooDeep
  | fuel + 1 => do
    let condition ← list fuel .some
    expect fuel (.keyword "then")
    let body ← list fuel .some
    match ← next fuel false false with
    | .keyword "elif" =>
      let (arms, otherwise) ← branches fuel
      pure ((condition, body) :: arms, otherwise)
    | .keyword "else" => pure ([(condition, body)], ← list fuel .some)
    | t => push t *> pure ([(condition, body)], [])

/-- The arms of a case up to its end. -/
def arms : (fuel : Nat) → Reader (List (List Word × List Command))
  | 0 => refuse .tooDeep
  | fuel + 1 => do
    match ← next fuel true true with
    | .keyword "esac" => pure []
    | t =>
      let t ← match t with
        | .opening => next fuel false false
        | t => pure t
      let patterns ← patterns fuel t
      let body ← list fuel .any
      match ← next fuel true true with
      | .keyword "esac" => pure [(patterns, body)]
      | .armEnd => ((patterns, body) :: ·) <$> arms fuel
      | t => refuse (.unexpected t (some .armEnd))

/-- Patterns with bars between them, from the token of the first. -/
def patterns : (fuel : Nat) → Token → Reader (List Word)
  | 0, _ => refuse .tooDeep
  | fuel + 1, first => do
    let pattern : Word := match first with
      | .word w => w
      | .keyword name => [.text false name.toList]
      | _ => []
    match ← next fuel false false with
    | .closing => pure [pattern]
    | .pipe =>
      let t ← next fuel false false
      (pattern :: ·) <$> patterns fuel t
    | t => refuse (.unexpected t (some .closing))

/-- Settings, words and redirections in any order; after the first word there are no settings.
A single word with brackets after it begins a function. -/
def simple : (fuel line : Nat) → List (String × Word) → List Word → List Redirect → Reader Command
  | 0, _, _, _, _ => refuse .tooDeep
  | fuel + 1, line, settings, words, redirects => do
    match ← next fuel false false with
    | .word w =>
      match if words.isEmpty then settingOf? w else none with
      | some setting => simple fuel line (settings ++ [setting]) words redirects
      | none => simple fuel line settings (words ++ [w]) redirects
    | .redirect stream way =>
      simple fuel line settings words (redirects ++ [← target fuel stream way])
    | t =>
      match t, settings, words, redirects with
      | .opening, [], [w], [] =>
        expect fuel .closing
        let name := w.plain?.getD []
        if !isName name || Token.reserved.contains (String.ofList name) then refuse .badFunctionName
        pure (.define (String.ofList name) (← command fuel true true))
      | t, _, _, _ =>
        push t
        pure (.simple line settings (words.map withHome) redirects)

end

end Landing.Shell.Reader
