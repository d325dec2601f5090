/-!
# Transports

Probing and forwarding run over TCP or over UDP.  A name is recognised whatever
the case of its ASCII letters.
-/

namespace Pinhole

inductive Transport where
  | tcp
  | udp
deriving DecidableEq, Repr

namespace Transport

def name : Transport → String
  | tcp => "tcp"
  | udp => "udp"

/-- The transport of a name, or the name in small letters if it is none. -/
def ofName (name : String) : Except String Transport :=
  match name.toLower with
  | "tcp" => .ok tcp
  | "udp" => .ok udp
  | other => .error other

/-- What is reported for a name that is no transport. -/
def unknownMessage (name : String) : String :=
  "unknown transport: " ++ name

end Transport

end Pinhole
