import Landing.Pattern.Expr
import Landing.Pattern.Sets
import Std.Data.HashSet

/-! The search for the match that is preferred to all others. Every choice and every loop has a
label of its own, counted as if repetitions were written out. -/
namespace Landing.Pattern

/-- A place in a text. -/
structure Cursor where
  before : Option Char
  rest : List Char
  position : Nat
  deriving DecidableEq, Repr

/-- The ends of the groups that took part, latest first. -/
abbrev Captures := List (Nat × Nat × Nat)

/-- Labels that were entered, each at one position. -/
abbrev Seen := Std.HashSet (Nat × Nat)

inductive Attempt where
  | found (captures : Captures)
  | failed (seen : Seen)

/-- What remains to be matched. -/
abbrev Continuation := Cursor → Captures → Seen → Attempt

/-- The second attempt counts where the first fails. -/
def Attempt.orElse (a : Attempt) (b : Seen → Attempt) : Attempt :=
  match a with
  | found captures => found captures
  | failed seen => b seen

/-- Matches something at a place, then what remains. -/
abbrev Matcher := Cursor → Captures → Seen → Continuation → Attempt

def isWord (unicode : Bool) (c : Char) : Bool :=
  (Shorthand.word.members unicode).contains c

def Assertion.holds (a : Assertion) (c : Cursor) : Bool :=
  let word (unicode : Bool) (x : Option Char) : Bool := x.any (isWord unicode)
  match a with
  | textStart => c.position == 0
  | textEnd => c.rest.isEmpty
  | lineStart false => c.position == 0 || c.before == some '\n'
  | lineEnd false => c.rest.isEmpty || c.rest.head? == some '\n'
  | lineStart true =>
    c.position == 0 || c.before == some '\n' ||
      (c.before == some '\r' && c.rest.head? != some '\n')
  | lineEnd true =>
    c.rest.isEmpty || c.rest.head? == some '\r' ||
      (c.rest.head? == some '\n' && c.before != some '\r')
  | wordEdge u => word u c.before != word u c.rest.head?
  | noWordEdge u => word u c.before == word u c.rest.head?
  | wordStart u => !word u c.before && word u c.rest.head?
  | wordEnd u => word u c.before && !word u c.rest.head?
  | wordStartHalf u => !word u c.before
  | wordEndHalf u => !word u c.rest.head?

/-- The visits of a loop at its label. No label is entered twice at one position, so every
round takes a character and `fuel` rounds are enough for a text shorter than that. -/
def iterate (label : Nat) (greedy : Bool)
    (body : Matcher) (k : Continuation) : (fuel : Nat) → Continuation
  | 0, _, _, seen => .failed seen
  | fuel + 1, c, captures, seen =>
    if seen.contains (label, c.position) then .failed seen
    else
      let again (seen : Seen) := body c captures seen (iterate label greedy body k fuel)
      let leave (seen : Seen) := k c captures seen
      let seen := seen.insert (label, c.position)
      if greedy then (again seen).orElse leave else (leave seen).orElse again

/-- `body` or nothing. -/
def optional (label : Nat) (greedy : Bool) (body : Matcher) : Matcher :=
  fun c captures seen k =>
    if seen.contains (label, c.position) then .failed seen
    else
      let take (seen : Seen) := body c captures seen k
      let leave (seen : Seen) := k c captures seen
      let seen := seen.insert (label, c.position)
      if greedy then (take seen).orElse leave else (leave seen).orElse take

/-- `n` copies of what `body` makes at a label, each with `step` labels. -/
def copies (body : (label : Nat) → Matcher) (step : Nat) : (n label : Nat) → Matcher
  | 0, _ => fun c captures seen k => k c captures seen
  | n + 1, label => fun c captures seen k =>
    body label c captures seen fun c captures seen =>
      copies body step n (label + step) c captures seen k

/-- At most `n` copies, each only after the one before it. -/
def atMost (body : (label : Nat) → Matcher) (step : Nat) (greedy : Bool) :
    (n label : Nat) → Matcher
  | 0, _ => fun c captures seen k => k c captures seen
  | n + 1, label =>
    optional label greedy fun c captures seen k =>
      body (label + 1) c captures seen fun c captures seen =>
        atMost body step greedy n (label + 1 + step) c captures seen k

/-- Any number of rounds. -/
def anyNumber (label : Nat) (greedy : Bool) (body : Matcher) : Matcher :=
  fun c captures seen k => iterate label greedy body k (c.rest.length + 2) c captures seen

/-- One round, then any number. -/
def oneOrMore (label : Nat) (greedy : Bool) (body : Matcher) : Matcher :=
  fun c captures seen k =>
    body c captures seen (iterate label greedy body k (c.rest.length + 2))

namespace Expr

/-- The matcher of a pattern whose labels start at `label`. What is preferred is tried first. -/
def exec : Expr → (label : Nat) → Matcher
  | empty, _ => fun c captures seen k => k c captures seen
  | one s, _ => fun c captures seen k =>
    match c.rest with
    | [] => .failed seen
    | x :: rest =>
      if s.contains x then k ⟨some x, rest, c.position + 1⟩ captures seen else .failed seen
  | assertion a, _ => fun c captures seen k =>
    if a.holds c then k c captures seen else .failed seen
  | group index e, label => fun c captures seen k =>
    exec e label c captures seen fun c' captures seen =>
      k c' ((index, c.position, c'.position) :: captures) seen
  | concat e f, label => fun c captures seen k =>
    exec e label c captures seen fun c captures seen =>
      exec f (label + e.labels) c captures seen k
  | choice e f, label => fun c captures seen k =>
    if seen.contains (label, c.position) then .failed seen
    else
      (exec e (label + 1) c captures (seen.insert (label, c.position)) k).orElse fun seen =>
        exec f (label + 1 + e.labels) c captures seen k
  | repetition 0 none greedy e, label =>
    if e.isNullable then
      optional label greedy (oneOrMore (label + 1) greedy (exec e (label + 2)))
    else anyNumber label greedy (exec e (label + 1))
  | repetition (least + 1) none greedy e, label => fun c captures seen k =>
    let label' := label + least * e.labels
    copies (exec e) e.labels least label c captures seen fun c captures seen =>
      oneOrMore label' greedy (exec e (label' + 1)) c captures seen k
  | repetition least (some most) greedy e, label => fun c captures seen k =>
    copies (exec e) e.labels least label c captures seen fun c captures seen =>
      atMost (exec e) e.labels greedy (most - least) (label + least * e.labels) c captures seen k

/-- The first match in a text that starts at `position` or later. What failed once fails again, so
labels that earlier starts entered are not entered anew. -/
def search (e : Expr) (before : Option Char) (position : Nat) (seen : Seen) :
    List Char → Option Captures
  | [] =>
    match e.exec 0 ⟨before, [], position⟩ [] seen fun _ captures _ => .found captures with
    | .found captures => some captures
    | .failed _ => none
  | x :: rest =>
    match e.exec 0 ⟨before, x :: rest, position⟩ [] seen fun _ captures _ => .found captures with
    | .found captures => some captures
    | .failed seen => search e (some x) (position + 1) seen rest

end Expr

/-- The ends of a group; the latest pass through it counts. -/
def Captures.ends? (captures : Captures) (index : Nat) : Option (Nat × Nat) :=
  captures.lookup index

/-- The text that group `index` takes in the first match in `text`. -/
def Expr.capture? (e : Expr) (index : Nat) (text : List Char) : Option (List Char) :=
  match e.search none 0 ∅ text with
  | none => none
  | some captures =>
    (captures.ends? index).map fun ends => (text.drop ends.1).take (ends.2 - ends.1)

end Landing.Pattern
