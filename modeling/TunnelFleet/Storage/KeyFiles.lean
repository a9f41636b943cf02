import TunnelFleet.Files.Tree

/-!
# Private keys

The private key that opens the workspaces is a file. The user may name it;
otherwise the usual names are tried in the user's key directory.
-/

namespace TunnelFleet

/-- Why there is no private key. -/
inductive CredentialError
  | notFound
  | unreadable (path : Path) (reason : String)
  deriving DecidableEq

/-- What the user is told. -/
def CredentialError.message : CredentialError → String
  | .notFound => "No private key configured or found"
  | .unreadable path reason => s!"Private key {path.quoted} is not readable: {reason}"

/-- Where to look for the private key. -/
structure KeyFiles where
  /-- The key that the user named. -/
  explicit : Option Path
  /-- The directory that holds keys under their usual names. -/
  directory : Option Path

namespace KeyFiles

/-- The usual names of key files, the preferred one first. -/
def usualNames : List String := ["id_ed25519", "id_ecdsa", "id_rsa"]

/-- The path of a key that can be read. -/
def check (t : FileTree) (p : Path) : Except CredentialError Path :=
  match t.openable p with
  | .ok () => .ok p
  | .error fault => .error (.unreadable p fault.message)

/-- The key to use: the one that the user named, or the first that is there under a
usual name. It has to be readable. -/
def find (k : KeyFiles) (t : FileTree) : Except CredentialError Path :=
  match k.explicit with
  | some p => check t p
  | none =>
    match k.directory with
    | none => .error .notFound
    | some directory =>
      match (usualNames.map directory.child).find? t.has with
      | some p => check t p
      | none => .error .notFound

end KeyFiles

end TunnelFleet
