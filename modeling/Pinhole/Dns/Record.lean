import Pinhole.Net.Endpoint

/-!
# DNS records of a mapping

The address record has the name of the record inside the zone, or that of the
zone itself; the service record has the same name behind the label of the
service.
-/

namespace Pinhole

structure DnsName where
  /-- The service and protocol in front of a service record's name. -/
  service : String
  subDomain : String
  domain : String
deriving DecidableEq, Repr

namespace DnsName

def addressRecord (name : DnsName) : String :=
  if name.subDomain = "" then name.domain
  else name.subDomain ++ "." ++ name.domain

def serviceRecord (name : DnsName) : String :=
  name.service ++ name.addressRecord

end DnsName

/-- What is published for a mapping. -/
structure DnsRecord where
  name : DnsName
  mapped : Endpoint
deriving DecidableEq, Repr

end Pinhole
