import Pinhole.Text.Quoted

/-!
# Accounts at a DNS provider

An account has an identifier and a secret token.  Its description tells whether
there is a token, and never which.
-/

namespace Pinhole

/-- The account at a provider. -/
structure DnsCredentials where
  id : Option String
  token : Option String
deriving DecidableEq

namespace DnsCredentials

/-- What stands in a description for the token. -/
def hidden : String := "<redacted>"

/-- A text that may be missing. -/
def describe : Option String → String
  | some text => "Some(" ++ Quoted.text text ++ ")"
  | none => "None"

def description (credentials : DnsCredentials) : String :=
  "DnsCredentials \x7b id: " ++ describe credentials.id ++
    ", token: " ++ describe (credentials.token.map fun _ => hidden) ++ " \x7d"

end DnsCredentials

end Pinhole
