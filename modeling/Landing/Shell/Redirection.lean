import Landing.Shell.State

/-! Tying streams to files and to each other. -/
namespace Landing.Shell.Redirection

/-- Ties a stream to where a file is written, or says why not. -/
def openOutput (direction : Direction) (path : Bytes) : Act (Except String Stream) := do
  let s ← get
  let place := s.place path
  let refusal (reason : String) : Except String Stream :=
    .error ("cannot create " ++ String.ofList path ++ ": " ++ reason)
  match String.ofList path with
  | "/dev/null" => pure (.ok .nowhere)
  | "/dev/stdout" => pure (.ok ((s.streams.get? 1).getD .nowhere))
  | "/dev/stderr" => pure (.ok ((s.streams.get? 2).getD .nowhere))
  | _ =>
    if path.isEmpty then pure (refusal "Directory nonexistent")
    else if s.isDirectory path then pure (refusal "Is a directory")
    else
      let isThere := (s.files.file? place).isSome
      if direction = .append && isThere then pure (.ok (.file place))
      else if direction = .write && isThere && s.options.careful then
        pure (refusal "File exists")
      else
        match s.files.write place [] with
        | .ok files =>
          set { s with files := files }
          pure (.ok (.file place))
        | .error _ => pure (refusal "Directory nonexistent")

/-- Ties a stream to what a redirection names. -/
def tie (stream : Nat) (direction : Direction) (path : Bytes) : Act (Option String) := do
  let s ← get
  match direction with
  | .read =>
    match s.contents? path with
    | some bytes =>
      set (s.feed stream bytes)
      pure none
    | none =>
      if s.hasPath path then
        set (s.feed stream [])
        pure none
      else pure (some ("cannot open " ++ String.ofList path ++ ": No such file"))
  | .copy =>
    match path with
    | ['-'] =>
      set { s with streams := s.streams.erase stream }
      pure none
    | [c] =>
      match s.streams.get? (c.toNat - '0'.toNat) with
      | some target =>
        set { s with streams := s.streams.insert stream target }
        pure none
      | none =>
        pure (some (if Reader.isDigit c then String.ofList [c] ++ ": Bad file descriptor"
          else "Bad fd number"))
    | _ => pure (some "Bad fd number")
  | direction =>
    match ← openOutput direction path with
    | .ok target =>
      modify fun s => { s with streams := s.streams.insert stream target }
      pure none
    | .error text => pure (some text)

/-- The stream that a redirection ties. -/
def stream : Redirect → Nat
  | .named stream _ _ => stream
  | .document stream _ => stream

/-- Gives the streams of redirections back what they were tied to. -/
def untie (redirects : List Redirect) (before : Table Nat Stream) (s : State) : State :=
  { s with streams := redirects.foldl (fun t r =>
      match before.get? (stream r) with
      | some target => t.insert (stream r) target
      | none => t.erase (stream r)) s.streams }

/-- Ties the output to a new place where it is kept. -/
def keep (s : State) : State :=
  { s with kept := s.kept.push [], streams := s.streams.insert 1 (.kept s.kept.size) }

/-- Takes the output that was kept last. -/
def takeKept (s : State) : Bytes × State :=
  (s.output (s.kept.size - 1), { s with kept := s.kept.pop })

/-- What a word holds for the output of commands: all of it but zeros, and the line ends at the
end. -/
def captured (bytes : Bytes) : Bytes :=
  ((bytes.filter (· ≠ '\x00')).reverse.dropWhile (· == '\n')).reverse

end Landing.Shell.Redirection
