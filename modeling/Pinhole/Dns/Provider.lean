import Pinhole.Dns.Record
import Pinhole.Log

/-!
# DNS providers

A provider is chosen by name.  One publishes nothing, the other writes what it
would publish to the log; both always succeed.
-/

namespace Pinhole

inductive DnsProvider where
  | noDns
  | log
deriving DecidableEq, Repr

namespace DnsProvider

def name : DnsProvider → String
  | noDns => "no_dns"
  | log => "log"

def all : List DnsProvider := [noDns, log]

def names : List String := all.map name

def ofName? (name : String) : Option DnsProvider :=
  all.find? (fun provider => provider.name = name)

def unsupportedMessage (name : String) : String :=
  "unsupported DNS provider: " ++ name

/-- Publishes a record: the log lines it writes, and why it failed, if it
did. -/
def publish (provider : DnsProvider) (_ : DnsRecord) :
    Except String (List LogLine) :=
  match provider with
  | noDns => .ok []
  | log => .ok [⟨.info, "A record"⟩, ⟨.info, "SRV record"⟩]

end DnsProvider

end Pinhole
