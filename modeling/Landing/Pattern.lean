import Landing.Pattern.Match
import Landing.Pattern.Meaning
import Landing.Pattern.Size

/-! Patterns that find texts in texts. -/
namespace Landing.Pattern

/-- The pattern that a text writes. -/
def parse (s : String) : Except Fault Expr :=
  match Form.parse s with
  | .error fault => .error fault
  | .ok form =>
    match form.meaning {} with
    | .error fault => .error fault
    | .ok (e, _) => if e.fits then .ok e else .error .tooLarge

end Landing.Pattern
