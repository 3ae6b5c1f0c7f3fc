import Landing.Credentials
import Landing.FileTree
import Landing.Toml.Document

/-! Credentials kept in a file. -/
namespace Landing.Credentials

open Datum (need? get? needed optional)

/-- The credentials of accounts, and the file that keeps them. -/
structure Store where
  path : String
  entries : Table AccountId ExternalCredentials := .empty
  deriving DecidableEq, Repr, Inhabited

namespace Store

/-- What the file holds for an account: a user name and a private key. -/
def record? (d : Datum) : Option (String × String) := do
  let r ← d.record? .toml [needed "external_user", needed "private_key"]
  some (← need? r "external_user" Datum.text?, ← need? r "private_key" Datum.text?)

def records? : Datum → Option (List (String × String × String))
  | .fields entries => entries.mapM fun (key, d) => (record? d).map fun r => (key, r)
  | _ => none

def document? (d : Datum) : Option (List (String × String × String)) := do
  let r ← d.record? .toml [optional "accounts"]
  get? r "accounts" [] records?

/-- Takes over one record. Credentials that cannot be used are left out. -/
def addRecord (s : Store) (record : String × String × String) : Except Error Store :=
  match Text.word? record.1 with
  | none =>
    .error (.credentials ("invalid account id " ++ Text.quoted record.1 ++ " in " ++ s.path))
  | some number =>
    match ExternalCredentials.make ⟨number⟩ record.2.1 record.2.2 with
    | .ok c => .ok { s with entries := s.entries.insert ⟨number⟩ c }
    | .error _ => .ok s

/-- Keys in the order of their characters. -/
def sorted {α : Type} (records : List (String × α)) : List (String × α) :=
  records.mergeSort fun a b => a.1 ≤ b.1

/-- Reads the credentials from a file; without the file there are none. -/
def load (path : String) : Reading → Except Error Store
  | .absent => .ok ⟨path, .empty⟩
  | .unreadable reason => .error (.credentials ("failed to read " ++ path ++ ": " ++ reason))
  | .text s =>
    match Toml.decode document? s with
    | .error fault => .error (.credentials ("failed to parse " ++ path ++ ": " ++ fault.message))
    | .ok records => (sorted records).foldlM addRecord ⟨path, .empty⟩

def lookup (s : Store) (account : AccountId) : Option ExternalCredentials :=
  s.entries.get? account

/-- The table of one account, in three lines. A pretty writer spreads a key over several lines and
sets tables apart by blank ones, so that only what is read back is the same as with it. -/
def renderEntry (c : ExternalCredentials) : List Char :=
  "[accounts.".toList ++ (toString c.account).toList ++ "]\nexternal_user = ".toList ++
    Toml.Quoted.ofText c.user ++ "\nprivate_key = ".toList ++
    Toml.Quoted.ofText c.privateKey ++ ['\n']

def heading : String :=
  "# ff-submit external credentials\n# Contains private keys - keep this file private\n\n"

/-- The text of the file. -/
def render (s : Store) : String :=
  String.ofList (heading.toList ++
    (sorted (s.entries.values.map fun c => (toString c.account, c))).flatMap (renderEntry ·.2))

/-- Writes the file, with the directory that it lies in, which is made before the file. -/
def save (s : Store) (cwd : String) (files : FileTree) : Except Error Unit × FileTree :=
  match files.makeDirectory (Path.locate cwd s.path).dropLast with
  | .error reason =>
    (.error (.credentials ("failed to create " ++ Path.parent s.path ++ ": " ++ reason)), files)
  | .ok files =>
    match files.writePath cwd s.path (Text.encode s.render) with
    | .error reason =>
      (.error (.credentials ("failed to write " ++ s.path ++ ": " ++ reason)), files)
    | .ok files => (.ok (), files)

/-- What storing credentials came to. -/
structure Update where
  result : Except Error Unit
  store : Store
  files : FileTree

/-- Stores credentials for an account, then writes the file. They count also if the file cannot
be written. -/
def set (s : Store) (account : AccountId) (user privateKey : String) (cwd : String)
    (files : FileTree) : Update :=
  match ExternalCredentials.make account user privateKey with
  | .error e => ⟨.error e, s, files⟩
  | .ok c =>
    let s := { s with entries := s.entries.insert account c }
    let (result, files) := s.save cwd files
    ⟨result, s, files⟩

end Store

end Landing.Credentials
