import Landing.Error
import Landing.Pattern
import Landing.Review

/-! Tickets: the numbers under which changes are passed on, found in messages. -/
namespace Landing

/-- Finds a ticket with the first group of a pattern. -/
structure TicketMatcher where
  pattern : String
  expr : Pattern.Expr
  deriving DecidableEq, Repr, Inhabited

namespace TicketMatcher

/-- The pattern used where none is configured. -/
def defaultPattern : String := "TICKET:\\s?([0-9]+)"

/-- A matcher for a pattern that has a group. -/
def ofPattern (pattern : String) : Except Error TicketMatcher :=
  match Pattern.parse pattern with
  | .error fault =>
    .error (.config ("invalid ticket pattern " ++ Text.quoted pattern ++ ": " ++ fault.message))
  | .ok e =>
    if e.lastGroup = 0 then
      .error (.config ("ticket pattern " ++ Text.quoted pattern ++ " has no capture group"))
    else .ok ⟨pattern, e⟩

/-- The matcher for the default pattern. -/
def default : TicketMatcher :=
  match ofPattern defaultPattern with
  | .ok matcher => matcher
  | .error _ => ⟨defaultPattern, .empty⟩

/-- What the first group takes in the first match, if it takes part in it. -/
def find (t : TicketMatcher) (text : String) : Option String :=
  (t.expr.capture? 1 text.toList).map String.ofList

end TicketMatcher

namespace Ticket

/-- Messages with an author, oldest first; equally old ones keep their order. -/
def authored (messages : List ChangeMessage) : List ChangeMessage :=
  (messages.filter (·.author.isSome)).mergeSort fun a b => a.writtenOn.le b.writtenOn

/-- The ticket in the latest authored message that has one, else that in the commit message. -/
def extract (find : String → Option String) (commitMessage : String)
    (messages : List ChangeMessage) : Option String :=
  ((commitMessage :: (authored messages).map (·.message)).filterMap find).getLast?

end Ticket

def TicketMatcher.extract (t : TicketMatcher) (commitMessage : String)
    (messages : List ChangeMessage) : Option String :=
  Ticket.extract t.find commitMessage messages

end Landing
