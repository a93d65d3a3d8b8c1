import RecordSink.Http

/-!
# Credentials

Every request to the store carries the headers of a credential that is obtained for it. A
source hands out one credential per request; a fixed source always hands out the same one.
-/

namespace RecordSink

/-- Headers that prove who is asking. -/
structure Credential where
  token : String
  headers : List (String × String)
  deriving DecidableEq, Repr

namespace Credential

/-- The credential of a bearer token. -/
def bearer (token : String) : Credential :=
  { token, headers := [("Authorization", "Bearer " ++ token)] }

/-- The credential with one more header. -/
def withHeader (credential : Credential) (name value : String) : Credential :=
  { credential with headers := credential.headers ++ [(name, value)] }

/-- What may be shown of a credential: never its token. -/
def shown (credential : Credential) : String :=
  "Credential \x7b token: \"<redacted>\", headers: " ++ Numeral.decimal credential.headers.length
    ++ " \x7d"

end Credential

/-- Why there is no credential. -/
inductive CredentialError where
  | unavailable (reason : String)
  | malformed (reason : String)
  deriving DecidableEq, Repr

/-- The wording of a credential error. -/
def CredentialError.message : CredentialError → String
  | .unavailable reason => "credential source unavailable: " ++ reason
  | .malformed reason => "malformed credential response: " ++ reason

/-- A source of credentials in a world. -/
structure CredentialSource (W : Type) where
  obtain : StateM W (Except CredentialError Credential)

namespace CredentialSource

/-- The source that always hands out one credential. -/
def fixed {W : Type} (credential : Credential) : CredentialSource W :=
  ⟨pure (.ok credential)⟩

/-- The source that always fails. -/
def failing {W : Type} (cause : CredentialError) : CredentialSource W :=
  ⟨pure (.error cause)⟩

end CredentialSource

end RecordSink
