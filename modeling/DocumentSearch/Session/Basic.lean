import DocumentSearch.Reply.Envelope
import DocumentSearch.Resp.LinkError
import DocumentSearch.Session.Metrics
import DocumentSearch.Session.Settings

/-!
The state of a client: what it has sent, the replies that are waiting to be taken, and what it has
counted. A command takes the oldest reply, and is answered by null when none is waiting.

The replies may be envelopes or replies of the wire protocol; nothing else depends on which they
are.
-/

namespace DocumentSearch

/-- Kinds of replies, by what each reply comes to. -/
class Wire (ρ : Type) where
  outcome : ρ → Except Fault Json

instance : Wire Envelope := ⟨Envelope.outcome⟩

instance : Wire Resp := ⟨Resp.outcome⟩

/-- The state of a client. -/
structure Session (ρ : Type) where
  settings : Settings
  /-- The commands that have reached the engine, the oldest first. -/
  sent : List Command := []
  /-- The replies that are waiting, the oldest first. -/
  pending : List ρ := []
  metrics : Metrics := {}

namespace Session

variable {ρ : Type}

def enqueue (session : Session ρ) (reply : ρ) : Session ρ :=
  { session with pending := session.pending ++ [reply] }

def clear (session : Session ρ) : Session ρ := { session with sent := [], pending := [] }

/-- Sends a command and takes its reply. A command without a word is not sent. -/
def exchange [Wire ρ] (session : Session ρ) (command : Command) :
    Except Fault Json × Session ρ :=
  if command.isEmpty then (.error .emptyCommand, session)
  else
    let session := { session with sent := session.sent ++ [command] }
    match session.pending with
    | [] => (.ok .null, session)
    | reply :: rest => (Wire.outcome reply, { session with pending := rest })

/-- Sends a command and counts how it ended. -/
def dispatch [Wire ρ] (session : Session ρ) (command : Command) :
    Except Fault Json × Session ρ :=
  let (result, session) := session.exchange command
  let metrics := session.metrics.recordCommand (command.headD "") result.isOk
  (result, { session with metrics })

end Session

end DocumentSearch
