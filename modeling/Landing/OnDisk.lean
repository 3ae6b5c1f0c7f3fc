import Landing.Credentials.Store
import Landing.Git
import Landing.Mirror.Command
import Landing.Review.Store
import Landing.Submission.Run

/-! A submission to a repository on disk: the branch is a ref in files, the mirror a program. -/
namespace Landing.OnDisk

open Submission (Services)

/-- The files and records that a submission works on. `now` is the time of what it writes. -/
structure World where
  files : FileTree
  store : Review.Store := {}
  credentials : Credentials.Store := default
  /-- The program that takes a commit over to the mirror. -/
  hook : Option Mirror.Command := none
  now : Instant
  keysIssued : Nat := 0

namespace World

def stamp (w : World) : (String × Instant) × World :=
  (("submission-" ++ toString w.keysIssued, w.now), { w with keysIssued := w.keysIssued + 1 })

def insertMessage (m : ChangeMessage) (w : World) : Except Error Unit × World :=
  let (result, store) := w.store.insertMessage m
  (result, { w with store := store })

/-- Runs the program, which may change files. -/
def mirror (r : Mirror.Request) (w : World) : Option Mirror.Result × World :=
  match w.hook with
  | none => (none, w)
  | some hook =>
    let (result, files) := hook.invoke r w.files
    (result, { w with files := files })

def moveRef (g : Git) (name : String) (expected : Option CommitId) (new : CommitId)
    (w : World) : Except Error RefUpdate × World :=
  let (update, files) := g.moveRef w.files name expected new
  (update, { w with files := files })

end World

/-- The services around a submission to `g`. -/
def services (g : Git) : Services World where
  history w := g.history w.files
  location _ := g.path
  submitterOf p w := (.ok (w.store.submitterOf p), w)
  account id w := (.ok (w.store.account id), w)
  messages c w := (.ok (w.store.trail c), w)
  insertMessage := World.insertMessage
  credentials id w := (.ok (w.credentials.lookup id), w)
  stamp := World.stamp
  mirror := World.mirror
  notify _ w := w
  moveRef := World.moveRef g

end Landing.OnDisk
