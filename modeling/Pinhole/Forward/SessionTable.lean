import Pinhole.Forward.Keepalive
import Pinhole.Net.SocketAddress

/-!
# Sessions

A session is a client's source address with the private socket that stands for
the client towards its destination.  A table holds at most one session for each
source.  A new session takes the next route; a session that replaces another of
the same source closes the other's socket.  A sweep closes the sessions that
were idle for longer than the limit.
-/

namespace Pinhole

/-- The number of a private socket. -/
abbrev SocketId := Nat

structure Session where
  socket : SocketId
  route : Route
  lastActivity : Instant
deriving DecidableEq, Repr

namespace Session

/-- A session lives as long as it is idle for no more than this. -/
def idleLimit : Duration := .seconds 30

/-- Whether a session was idle for too long.  A session that was active after
`now` was not idle at all. -/
def isExpired (session : Session) (now : Instant) : Bool :=
  idleLimit < Instant.since now session.lastActivity

end Session

structure SessionTable where
  entries : List (SocketAddress × Session)
  router : Router
  nodup_sources : (entries.map Prod.fst).Nodup

namespace SessionTable

def empty : SessionTable := ⟨[], .new, by simp⟩

def size (table : SessionTable) : Nat :=
  table.entries.length

/-- The session of a source. -/
def get? (table : SessionTable) (source : SocketAddress) : Option Session :=
  table.entries.lookup source

/-- The source whose session has a private socket. -/
def owner? (table : SessionTable) (socket : SocketId) :
    Option SocketAddress :=
  (table.entries.find? fun entry => entry.2.socket = socket).map Prod.fst

/-- The route that the next new session gets. -/
def upcomingRoute (table : SessionTable) : Route :=
  table.router.upcoming

/-- The sessions of all other sources. -/
def others (table : SessionTable) (source : SocketAddress) :
    List (SocketAddress × Session) :=
  table.entries.filter (fun entry => entry.1 ≠ source)

/-- Starts a session.  The second part is the session that it replaces. -/
def insert (table : SessionTable) (source : SocketAddress)
    (socket : SocketId) (now : Instant) : SessionTable × Option Session :=
  let (route, router) := table.router.assign
  ({ entries := table.others source ++ [(source, ⟨socket, route, now⟩)]
     router := router
     nodup_sources := by
       rw [List.map_append, List.nodup_append]
       refine ⟨?_, by simp, ?_⟩
       · exact table.nodup_sources.sublist
           ((List.filter_sublist).map Prod.fst)
       · intro left hleft right hright
         obtain ⟨entry, hentry, rfl⟩ := List.mem_map.1 hleft
         have hne := (List.mem_filter.1 hentry).2
         simp only [List.map_cons, List.map_nil, List.mem_singleton] at hright
         subst hright
         simpa using hne },
    table.get? source)

/-- Notes activity at an instant, which need not be later than the last. -/
def touch (table : SessionTable) (source : SocketAddress) (now : Instant) :
    SessionTable where
  entries := table.entries.map fun entry =>
    if entry.1 = source then (entry.1, { entry.2 with lastActivity := now })
    else entry
  router := table.router
  nodup_sources := by
    have hsources :
        (table.entries.map fun entry =>
            if entry.1 = source then
              (entry.1, { entry.2 with lastActivity := now })
            else entry).map Prod.fst =
          table.entries.map Prod.fst := by
      rw [List.map_map]
      apply List.map_congr_left
      intro entry _
      simp only [Function.comp_apply]
      split <;> rfl
    rw [hsources]
    exact table.nodup_sources

/-- Closes the sessions that are expired.  The second part is what was
closed. -/
def sweep (table : SessionTable) (now : Instant) :
    SessionTable × List (SocketAddress × Session) :=
  ({ entries := table.entries.filter fun entry => !entry.2.isExpired now
     router := table.router
     nodup_sources :=
       table.nodup_sources.sublist ((List.filter_sublist).map Prod.fst) },
    table.entries.filter fun entry => entry.2.isExpired now)

end SessionTable

end Pinhole
