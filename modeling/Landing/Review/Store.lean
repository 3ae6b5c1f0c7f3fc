import Landing.Error
import Landing.Review
import Landing.Table

/-! A review store held in memory. -/
namespace Landing.Review

/-- Approvals, accounts, and the messages of each change. -/
structure Store where
  approvals : Table PatchSetId SubmitApproval := .empty
  accounts : Table AccountId Account := .empty
  messages : Table ChangeId (List ChangeMessage) := .empty
  deriving DecidableEq, Repr, Inhabited

namespace Store

def addApproval (s : Store) (a : SubmitApproval) : Store :=
  { s with approvals := s.approvals.insert a.patchSet a }

def addAccount (s : Store) (a : Account) : Store :=
  { s with accounts := s.accounts.insert a.id a }

/-- The messages of a change in the order of the store. -/
def trail (s : Store) (c : ChangeId) : List ChangeMessage := (s.messages.get? c).getD []

/-- Messages by time; equally old ones keep their order. -/
def chronological (trail : List ChangeMessage) : List ChangeMessage :=
  trail.mergeSort fun a b => a.writtenOn.le b.writtenOn

/-- Puts a message where its time belongs. -/
def addMessage (s : Store) (m : ChangeMessage) : Store :=
  { s with
    messages := s.messages.insert m.key.change (chronological (s.trail m.key.change ++ [m])) }

def duplicateKey (k : MessageKey) : Error :=
  .store ("duplicate message key " ++ toString k.change ++ "/" ++ k.uuid)

/-- Appends a message with a new key. -/
def insertMessage (s : Store) (m : ChangeMessage) : Except Error Unit × Store :=
  if (s.trail m.key.change).any (·.key = m.key) then (.error (duplicateKey m.key), s)
  else
    (.ok (), { s with messages := s.messages.insert m.key.change (s.trail m.key.change ++ [m]) })

def submitterOf (s : Store) (p : PatchSetId) : Option SubmitApproval := s.approvals.get? p

def account (s : Store) (id : AccountId) : Option Account := s.accounts.get? id

end Store

end Landing.Review
