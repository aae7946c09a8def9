import CloudControl.Client.JobWait
import CloudControl.Simulator.Server

/-!
# The simulated server behind a link

A client can talk to the simulated server as to any other: a request travels as its query, its
body and its cookie, and the answer comes back as text.
-/

namespace CloudControl.Simulator

/-- What a server remembers, the time of its requests, and the nanoseconds that were waited. -/
structure World where
  state : State
  now : Instant
  waited : Nat
  deriving DecidableEq

/-- A request as the server receives it. -/
def Incoming.ofRequest (r : CloudControl.Request) : Incoming :=
  ⟨r.url.query.getD "", r.body, r.cookie.toList⟩

/-- An answer as the client receives it. -/
def Answer.toReply (a : Answer) : Reply :=
  ⟨a.status, a.setCookie.toList, a.body.compact⟩

/-- The link to a server. -/
def link (server : Server) : Link World where
  exchange r w :=
    let (a, s) := receive server w.now w.state (.ofRequest r)
    (.ok a.toReply, { w with state := s })
  now w := w.now

/-- The clock that counts the time that was waited, and no other. -/
def clock : Clock World where
  reading w := w.waited
  sleep pause w := { w with waited := w.waited + pause }

end CloudControl.Simulator
