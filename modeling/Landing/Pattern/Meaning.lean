import Landing.Pattern.Expr
import Landing.Pattern.Parser
import Landing.Unicode.Query

/-! What written patterns mean under their flags. -/
namespace Landing.Pattern
open Landing.Unicode

/-- Settings that hold at some place in a pattern. -/
structure Flags where
  ignoreCase : Bool := false
  multiLine : Bool := false
  dotAll : Bool := false
  swapGreed : Bool := false
  unicode : Bool := true
  crlf : Bool := false
  deriving DecidableEq, Repr, Inhabited

namespace Flags

/-- One flag switched on or off. -/
def set (f : Flags) : Flag × Bool → Flags
  | (.ignoreCase, on) => { f with ignoreCase := on }
  | (.multiLine, on) => { f with multiLine := on }
  | (.dotAll, on) => { f with dotAll := on }
  | (.swapGreed, on) => { f with swapGreed := on }
  | (.unicode, on) => { f with unicode := on }
  | (.ignoreBlank, _) => f
  | (.crlf, on) => { f with crlf := on }

def apply (f : Flags) (changes : FlagChanges) : Flags := changes.foldl set f

/-- Where case does not count, with the other case of each member. -/
def fold (f : Flags) (s : CharSet) : CharSet :=
  if f.ignoreCase then (if f.unicode then foldUnicode s else foldAscii s) else s

/-- Outside Unicode a set is made of bytes, and bytes beyond ASCII are parts of characters. -/
def whole (f : Flags) (s : CharSet) : Except Fault CharSet :=
  if f.unicode || s.isAscii then .ok s else .error .notText

/-- The set under `f`, or all but that; case is settled first. -/
def complementIf (f : Flags) (negated : Bool) (s : CharSet) : Except Fault CharSet :=
  f.whole (if negated then (f.fold s).complement else f.fold s)

end Flags

/-- Shorthands stay as they are where case does not count; properties exist in Unicode alone. -/
def NamedSet.meaning (f : Flags) (negated : Bool) (s : NamedSet) : Except Fault CharSet :=
  let property (s : Option CharSet) : Except Fault CharSet :=
    match f.unicode, s with
    | true, some s => f.complementIf negated s
    | true, none => .error .unknownProperty
    | false, _ => .error .notText
  match s with
  | shorthand s =>
    let s := s.members f.unicode
    f.whole (if negated then s.complement else s)
  | .property name => property (ofName? name)
  | valued name value => property (ofValue? name value)

def SetOperation.apply : SetOperation → CharSet → CharSet → CharSet
  | inter => .inter
  | diff => .diff
  | symmDiff => .symmDiff

namespace ClassForm

mutual

/-- The set of a class under `f`. -/
def meaning (f : Flags) : ClassForm → Except Fault CharSet
  | literal l => f.whole (.single l.char)
  | range low high => f.whole ⟨[(low.char.toNat, high.char.toNat)]⟩
  | ascii negated s => f.complementIf negated s
  | named negated s => s.meaning f negated
  | bracketed negated form =>
    match form.meaning f with
    | .error fault => .error fault
    | .ok s => f.complementIf negated s
  | union forms => meanings f forms
  | operation op lhs rhs =>
    match lhs.meaning f, rhs.meaning f with
    | .ok s, .ok t => .ok (op.apply (f.fold s) (f.fold t))
    | .error fault, _ => .error fault
    | _, .error fault => .error fault

/-- The union of the sets of some classes. -/
def meanings (f : Flags) : List ClassForm → Except Fault CharSet
  | [] => .ok .empty
  | form :: forms =>
    match form.meaning f, meanings f forms with
    | .ok s, .ok t => .ok (s.union t)
    | .error fault, _ => .error fault
    | _, .error fault => .error fault

end

end ClassForm

/-- The condition on a place under `f`. -/
def Place.assertion (f : Flags) : Place → Assertion
  | textStart => .textStart
  | textEnd => .textEnd
  | lineStart => if f.multiLine then .lineStart f.crlf else .textStart
  | lineEnd => if f.multiLine then .lineEnd f.crlf else .textEnd
  | wordEdge => .wordEdge f.unicode
  | noWordEdge => .noWordEdge f.unicode
  | wordStart => .wordStart f.unicode
  | wordEnd => .wordEnd f.unicode
  | wordStartHalf => .wordStartHalf f.unicode
  | wordEndHalf => .wordEndHalf f.unicode

/-- What a full stop takes: all but the ends of lines. -/
def Flags.anyChar (f : Flags) : Except Fault CharSet :=
  if !f.unicode then .error .notText
  else if f.dotAll then .ok .full
  else if f.crlf then .ok (CharSet.complement ⟨[(0x0A, 0x0A), (0x0D, 0x0D)]⟩)
  else .ok (CharSet.complement ⟨[(0x0A, 0x0A)]⟩)

namespace Form

mutual

/-- The pattern that is meant under `f`, and the flags that hold after it. -/
def meaning (f : Flags) : Form → Except Fault (Expr × Flags)
  | flags changes => .ok (.empty, f.apply changes)
  | literal l =>
    if l.byte && !f.unicode && 0x80 ≤ l.char.toNat then .error .notText
    else .ok (.one (f.fold (.single l.char)), f)
  | dot => f.anyChar.map fun s => (.one s, f)
  | place p => .ok (.assertion (p.assertion f), f)
  | named negated s => (s.meaning f negated).map fun s => (.one s, f)
  | bracketed negated form =>
    match form.meaning f with
    | .error fault => .error fault
    | .ok s => (f.complementIf negated s).map fun s => (.one s, f)
  | repetition least most eager form =>
    (form.meaning f).map fun (e, f) => (.repeated least most (eager != f.swapGreed) e, f)
  | numbered index form => (form.meaning f).map fun (e, _) => (.group index e, f)
  | unnumbered changes form => (form.meaning (f.apply changes)).map fun (e, _) => (e, f)
  | choice forms => (meanings f forms).map fun (es, f) => (.ofChoice es, f)
  | sequence forms => (meanings f forms).map fun (es, f) => (.ofSequence es, f)

/-- The patterns of several forms, each under the flags that hold after the one before it. -/
def meanings (f : Flags) : List Form → Except Fault (List Expr × Flags)
  | [] => .ok ([], f)
  | form :: forms =>
    match form.meaning f with
    | .error fault => .error fault
    | .ok (e, f) => (meanings f forms).map fun (es, f) => (e :: es, f)

end

end Form

end Landing.Pattern
