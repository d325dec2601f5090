/-!
# Settings

What a configuration holds, in four sections, with the values that are taken
for what it leaves out.
-/

namespace Pinhole

def defaultTransport : String := "tcp"

def defaultTcpServer : String := "turn.cloud-rtc.com:80"

def defaultUdpServer : String := "stun.douyucdn.cn:18000"

def defaultTimeout : UInt64 := 3

def defaultRetries : UInt32 := 2

def defaultProvider : String := "no_dns"

def defaultService : String := "mcje"

def defaultLevel : String := "info"

structure ForwardSettings where
  /-- The local endpoint to map. -/
  listen : Option String := none
  /-- The forward target; without one the mapped port is shared. -/
  remote : Option String := none
  transport : String := defaultTransport
deriving DecidableEq, Repr

structure StunSettings where
  tcpServer : String := defaultTcpServer
  udpServer : String := defaultUdpServer
  /-- How long each attempt waits, in seconds. -/
  timeout : UInt64 := defaultTimeout
  retries : UInt32 := defaultRetries
deriving DecidableEq, Repr

structure DnsSettings where
  provider : String := defaultProvider
  id : Option String := none
  token : Option String := none
  domain : String := ""
  subDomain : String := ""
  service : String := defaultService
deriving DecidableEq, Repr

structure LogSettings where
  level : String := defaultLevel
deriving DecidableEq, Repr

structure Config where
  forward : ForwardSettings := {}
  stun : StunSettings := {}
  dns : DnsSettings := {}
  logging : LogSettings := {}
deriving DecidableEq, Repr

end Pinhole
