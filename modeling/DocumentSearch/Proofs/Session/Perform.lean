import DocumentSearch.Session.Request

/-! What one request comes to. Its command cannot be made, or fails, or is answered by a reply that
is read. The settings decide about the command only, and no request changes them. -/

namespace DocumentSearch

/-! ## Faults of replies -/

/-- Replies fail only with faults of the engine or of the connection. -/
def Wire.FailsOutside (ρ : Type) [Wire ρ] : Prop :=
  ∀ (reply : ρ) (fault : Fault), Wire.outcome reply = .error fault →
    ∃ text, fault = .server text ∨ fault = .connection text

theorem Envelope.failsOutside : Wire.FailsOutside Envelope := by
  intro reply fault h
  change reply.outcome = .error fault at h
  rw [Envelope.outcome] at h
  split at h
  · next text _ => exact ⟨text, .inl (by simpa [eq_comm] using h)⟩
  · contradiction

theorem Resp.failsOutside : Wire.FailsOutside Resp := by
  intro reply fault h
  change reply.outcome = .error fault at h
  rw [Resp.outcome] at h
  split at h
  · next code detail? _ =>
    obtain rfl := Except.error.inj h
    exact (LinkError.reply code detail?).report.exists_fault_eq
  · contradiction

namespace Session

variable {ρ : Type}

def withSettings (session : Session ρ) (settings : Settings) : Session ρ :=
  { session with settings }

theorem withSettings_settings {session later : Session ρ} (h : later.settings = session.settings) :
    later.withSettings session.settings = later := by
  rw [withSettings, ← h]

theorem noteHits_settings (session : Session ρ) (answer : Answer) :
    (session.noteHits answer).settings = session.settings := by
  cases answer <;> rfl

theorem noteHits_withSettings (session : Session ρ) (settings : Settings) (answer : Answer) :
    (session.withSettings settings).noteHits answer =
      (session.noteHits answer).withSettings settings := by
  cases answer <;> rfl

variable [Wire ρ]

/-! ## Sending a command -/

/-- A command without a word is not sent. Every other one is, and takes the oldest reply that waits,
or is answered by null. -/
theorem exchange_cases (session : Session ρ) (command : Command) :
    (command = [] ∧ session.exchange command = (.error .emptyCommand, session)) ∨
    (command ≠ [] ∧ session.pending = [] ∧ session.exchange command =
      (.ok .null, { session with sent := session.sent ++ [command] })) ∨
    ∃ reply rest, command ≠ [] ∧ session.pending = reply :: rest ∧
      session.exchange command = (Wire.outcome reply,
        { session with sent := session.sent ++ [command], pending := rest }) := by
  cases command with
  | nil => exact .inl ⟨rfl, rfl⟩
  | cons word words =>
    right
    cases hpending : session.pending with
    | nil =>
      left
      exact ⟨List.cons_ne_nil word words, rfl, by simp [exchange, hpending]⟩
    | cons reply rest =>
      right
      exact ⟨reply, rest, List.cons_ne_nil word words, rfl, by simp [exchange, hpending]⟩

theorem exchange_withSettings (session : Session ρ) (settings : Settings) (command : Command) :
    (session.withSettings settings).exchange command =
      ((session.exchange command).1, (session.exchange command).2.withSettings settings) := by
  cases command with
  | nil => rfl
  | cons word words =>
    cases hpending : session.pending with
    | nil => simp [exchange, withSettings, hpending]
    | cons reply rest => simp [exchange, withSettings, hpending]

/-- Sending a command does not depend on the settings. -/
theorem dispatch_withSettings {session later : Session ρ} {command : Command}
    {result : Except Fault Json} (h : session.dispatch command = (result, later))
    (settings : Settings) :
    (session.withSettings settings).dispatch command = (result, later.withSettings settings) := by
  rw [dispatch, exchange_withSettings]
  obtain ⟨rfl, rfl⟩ := Prod.mk.inj h
  rfl

theorem dispatch_settings (session : Session ρ) (command : Command) :
    (session.dispatch command).2.settings = session.settings := by
  change (session.exchange command).2.settings = session.settings
  rcases session.exchange_cases command with ⟨-, h⟩ | ⟨-, -, h⟩ | ⟨_, _, -, -, h⟩ <;> rw [h]

/-- A command that fails was not sent, or has the fault of its reply. -/
theorem dispatch_fault (houtside : Wire.FailsOutside ρ) {session : Session ρ} {command : Command}
    {fault : Fault} (hfault : (session.dispatch command).1 = .error fault) :
    fault = .emptyCommand ∨ ∃ text, fault = .server text ∨ fault = .connection text := by
  change (session.exchange command).1 = .error fault at hfault
  rcases session.exchange_cases command with ⟨-, h⟩ | ⟨-, -, h⟩ | ⟨reply, rest, -, -, h⟩
  · rw [h] at hfault
    exact .inl (by simpa [eq_comm] using hfault)
  · rw [h] at hfault
    contradiction
  · rw [h] at hfault
    exact .inr (houtside reply fault hfault)

/-! ## Requests -/

theorem perform_of_fault {session : Session ρ} {request : Request} {fault : Fault}
    (h : request.command session.settings = .error fault) :
    session.perform request = (.error fault, session) := by
  rw [perform, h]

theorem perform_of_failed {session later : Session ρ} {request : Request} {command : Command}
    {fault : Fault} (h : request.command session.settings = .ok command)
    (hdispatch : session.dispatch command = (.error fault, later)) :
    session.perform request = (.error fault, later) := by
  simp only [perform, h, hdispatch]

theorem perform_of_answered {session later : Session ρ} {request : Request} {command : Command}
    {reply : Json} (h : request.command session.settings = .ok command)
    (hdispatch : session.dispatch command = (.ok reply, later)) :
    session.perform request =
      (.ok (request.read reply), later.noteHits (request.read reply)) := by
  simp only [perform, h, hdispatch]

/-- A request ends with the fault of its command, with the fault of sending it, or with what its
reply is read as. -/
theorem perform_cases (session : Session ρ) (request : Request) :
    (∃ fault, request.command session.settings = .error fault ∧
      session.perform request = (.error fault, session)) ∨
    ∃ command, request.command session.settings = .ok command ∧
      ((∃ fault later, session.dispatch command = (.error fault, later) ∧
        session.perform request = (.error fault, later)) ∨
      ∃ reply later, session.dispatch command = (.ok reply, later) ∧
        session.perform request =
          (.ok (request.read reply), later.noteHits (request.read reply))) := by
  cases hcommand : request.command session.settings with
  | error fault => exact .inl ⟨fault, rfl, perform_of_fault hcommand⟩
  | ok command =>
    refine .inr ⟨command, rfl, ?_⟩
    rcases hdispatch : session.dispatch command with ⟨fault | reply, later⟩
    · exact .inl ⟨fault, later, rfl, perform_of_failed hcommand hdispatch⟩
    · exact .inr ⟨reply, later, rfl, perform_of_answered hcommand hdispatch⟩

/-- No request changes the settings. -/
theorem perform_settings (session : Session ρ) (request : Request) :
    (session.perform request).2.settings = session.settings := by
  rcases session.perform_cases request with
    ⟨fault, -, h⟩ | ⟨command, -, ⟨fault, later, hdispatch, h⟩ | ⟨reply, later, hdispatch, h⟩⟩
  · rw [h]
  · rw [h, ← dispatch_settings session command, hdispatch]
  · rw [h, ← dispatch_settings session command, hdispatch]
    exact noteHits_settings later (request.read reply)

/-- Requests that make the same command and read the reply alike end alike. -/
theorem perform_withSettings {session : Session ρ} {settings : Settings} {first second : Request}
    (hcommand : second.command settings = first.command session.settings)
    (hread : ∀ reply, second.read reply = first.read reply) :
    (session.withSettings settings).perform second =
      ((session.perform first).1, (session.perform first).2.withSettings settings) := by
  have hsame : second.command (session.withSettings settings).settings =
      first.command session.settings := hcommand
  rcases session.perform_cases first with
    ⟨fault, hfirst, h⟩ |
    ⟨command, hfirst, ⟨fault, later, hdispatch, h⟩ | ⟨reply, later, hdispatch, h⟩⟩
  · rw [h, perform_of_fault (hsame.trans hfirst)]
  · rw [h, perform_of_failed (hsame.trans hfirst) (dispatch_withSettings hdispatch settings)]
  · rw [h, perform_of_answered (hsame.trans hfirst) (dispatch_withSettings hdispatch settings),
      hread, noteHits_withSettings]

/-- A request fails with the fault of its command or with one of sending it. -/
theorem perform_fault (houtside : Wire.FailsOutside ρ) {session : Session ρ} {request : Request}
    {fault : Fault} (hfault : (session.perform request).1 = .error fault) :
    request.command session.settings = .error fault ∨ fault = .emptyCommand ∨
      ∃ text, fault = .server text ∨ fault = .connection text := by
  rcases session.perform_cases request with
    ⟨own, hown, h⟩ | ⟨command, -, ⟨own, later, hdispatch, h⟩ | ⟨reply, later, -, h⟩⟩
  · obtain rfl : own = fault := by simpa [h] using hfault
    exact .inl hown
  · obtain rfl : own = fault := by simpa [h] using hfault
    exact .inr (dispatch_fault houtside (congrArg Prod.fst hdispatch))
  · simp [h] at hfault

end Session

end DocumentSearch
