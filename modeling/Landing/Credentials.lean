import Landing.Error
import Landing.Review

/-! Credentials for the external repository. -/
namespace Landing

namespace PrivateKey

def isBeginLine (line : List Char) : Bool :=
  (Text.strip? "-----BEGIN ".toList line).isSome &&
    (Text.strip? "PRIVATE KEY-----".toList.reverse line.reverse).isSome

def isEndLine (line : List Char) : Bool :=
  (Text.strip? "-----END ".toList line).isSome &&
    (Text.strip? "PRIVATE KEY-----".toList.reverse line.reverse).isSome

/-- Lines of a key: an opening line, a closing line and something between them. -/
def isKeyLines (lines : List (List Char)) : Bool :=
  match lines.head?, lines.getLast? with
  | some first, some last => isBeginLine first && isEndLine last && 2 < lines.length
  | _, _ => false

/-- The armour of a private key, blanks around it aside. -/
def isValid (key : String) : Bool := isKeyLines (Text.linesOf (Text.trimChars key.toList))

def validate (key : String) : Except Error Unit :=
  if isValid key then .ok () else .error .invalidPrivateKey

end PrivateKey

/-- How an account signs in at the external repository. -/
structure ExternalCredentials where
  account : AccountId
  user : String
  privateKey : String
  deriving DecidableEq, Repr, Inhabited

namespace ExternalCredentials

/-- Credentials have a user name, which is trimmed, and a private key. -/
def make (account : AccountId) (user privateKey : String) :
    Except Error ExternalCredentials :=
  let user := Text.trim user
  if user.isEmpty then
    .error (.credentials ("account " ++ toString account ++ ": external username is empty"))
  else if PrivateKey.isValid privateKey then .ok ⟨account, user, privateKey⟩
  else .error .invalidPrivateKey

/-- Shows all but the key. -/
def summary (c : ExternalCredentials) : String :=
  "ExternalCredentials \x7b account: AccountId(" ++ toString c.account ++
    "), external_user: " ++ Text.quoted c.user ++ ", private_key: \"<redacted>\" \x7d"

end ExternalCredentials

end Landing
