import Landing.Branch
import Landing.Commit
import Landing.Datum
import Landing.Outcome

/-! The records in which review data is exchanged. -/
namespace Landing

open Datum (need? get? needed optional nullable?)

namespace CommitId

/-- Names are taken as written. -/
def ofDatum? (d : Datum) : Option CommitId := d.text?.map .mk

def toDatum (id : CommitId) : Datum := .text id.hex

end CommitId

namespace ChangeId

def ofDatum? (d : Datum) : Option ChangeId := d.word?.map .mk

def toDatum (c : ChangeId) : Datum := .ofWord c.number

end ChangeId

namespace AccountId

def ofDatum? (d : Datum) : Option AccountId := d.word?.map .mk

def toDatum (a : AccountId) : Datum := .ofWord a.number

end AccountId

namespace Instant

def toDatum (i : Instant) : Datum := .text i.render

end Instant

namespace PatchSetId

def ofDatum? (l : Dialect) (d : Datum) : Option PatchSetId := do
  let r ← d.record? l [needed "change", needed "number"]
  some ⟨← need? r "change" ChangeId.ofDatum?, ← need? r "number" Datum.word?⟩

def toDatum (p : PatchSetId) : Datum :=
  .fields [("change", p.change.toDatum), ("number", .ofWord p.number)]

end PatchSetId

namespace Account

def ofDatum? (l : Dialect) (d : Datum) : Option Account := do
  let r ← d.record? l [needed "id", optional "full_name", optional "preferred_email"]
  some ⟨← need? r "id" AccountId.ofDatum?, ← get? r "full_name" none (nullable? Datum.text?),
    ← get? r "preferred_email" none (nullable? Datum.text?)⟩

def toDatum (a : Account) : Datum :=
  .fields [("id", a.id.toDatum), ("full_name", .ofOption .text a.fullName),
    ("preferred_email", .ofOption .text a.preferredEmail)]

end Account

namespace Branch

/-- The name is taken as written. -/
def ofDatum? (l : Dialect) (d : Datum) : Option Branch := do
  let r ← d.record? l [needed "project", needed "name"]
  some ⟨← need? r "project" Datum.text?, ← need? r "name" Datum.text?⟩

def toDatum (b : Branch) : Datum := .fields [("project", .text b.project), ("name", .text b.name)]

end Branch

namespace MessageKey

def ofDatum? (l : Dialect) (d : Datum) : Option MessageKey := do
  let r ← d.record? l [needed "change", needed "uuid"]
  some ⟨← need? r "change" ChangeId.ofDatum?, ← need? r "uuid" Datum.text?⟩

def toDatum (k : MessageKey) : Datum :=
  .fields [("change", k.change.toDatum), ("uuid", .text k.uuid)]

end MessageKey

namespace ChangeMessage

def ofDatum? (l : Dialect) (d : Datum) : Option ChangeMessage := do
  let r ← d.record? l
    [needed "key", optional "author", optional "patch_set", needed "written_on", needed "message"]
  some ⟨← need? r "key" (MessageKey.ofDatum? l),
    ← get? r "author" none (nullable? AccountId.ofDatum?),
    ← get? r "patch_set" none (nullable? (PatchSetId.ofDatum? l)),
    ← need? r "written_on" Datum.instant?, ← need? r "message" Datum.text?⟩

def toDatum (m : ChangeMessage) : Datum :=
  .fields [("key", m.key.toDatum), ("author", .ofOption AccountId.toDatum m.author),
    ("patch_set", .ofOption PatchSetId.toDatum m.patchSet), ("written_on", m.writtenOn.toDatum),
    ("message", .text m.message)]

end ChangeMessage

namespace SubmitApproval

def ofDatum? (l : Dialect) (d : Datum) : Option SubmitApproval := do
  let r ← d.record? l [needed "patch_set", needed "account", needed "granted"]
  some ⟨← need? r "patch_set" (PatchSetId.ofDatum? l), ← need? r "account" AccountId.ofDatum?,
    ← need? r "granted" Datum.instant?⟩

def toDatum (a : SubmitApproval) : Datum :=
  .fields [("patch_set", a.patchSet.toDatum), ("account", a.account.toDatum),
    ("granted", a.granted.toDatum)]

end SubmitApproval

namespace TrackedCommit

/-- The patch set may be left out of a record with names, not out of a list. -/
def ofDatum? (l : Dialect) (d : Datum) : Option TrackedCommit := do
  let r ← d.record? l [needed "id", needed "parents", needed "message", needed "patch_set"]
  some ⟨← need? r "id" CommitId.ofDatum?, ← need? r "parents" (Datum.list? CommitId.ofDatum?),
    ← need? r "message" Datum.text?,
    ← get? r "patch_set" none (nullable? (PatchSetId.ofDatum? l))⟩

def toDatum (c : TrackedCommit) : Datum :=
  .fields [("id", c.id.toDatum), ("parents", .list (c.parents.map CommitId.toDatum)),
    ("message", .text c.message), ("patch_set", .ofOption PatchSetId.toDatum c.patchSet)]

end TrackedCommit

namespace Outcome

def ofDatum? (l : Dialect) (d : Datum) : Option Outcome := (d.tag? l).bind ofTag?

def toDatum (o : Outcome) : Datum := .text o.tag

end Outcome

end Landing
