import DocumentSearch.Proofs.Session.Refusal

/-! Runs of a client: requests, and replies that come in at any point between them. A request is
refused, which changes nothing, or it sends one command and takes the oldest reply that waits. Over
a whole run the commands are recorded in order, and every reply is taken at most once, in the order
in which the replies came. -/

namespace DocumentSearch

/-- What is done to a client: something is asked of it, or a reply comes in. -/
inductive Event where
  | request (request : Request)
  | reply (reply : Envelope)

namespace Event

def request? : Event → Option Request
  | .request asked => some asked
  | .reply _ => none

def reply? : Event → Option Envelope
  | .request _ => none
  | .reply envelope => some envelope

@[simp] theorem request?_request (asked : Request) : request? (.request asked) = some asked := rfl

@[simp] theorem request?_reply (envelope : Envelope) : request? (.reply envelope) = none := rfl

@[simp] theorem reply?_request (asked : Request) : reply? (.request asked) = none := rfl

@[simp] theorem reply?_reply (envelope : Envelope) : reply? (.reply envelope) = some envelope := rfl

end Event

/-! ## One request -/

/-- What comes of a request: it is refused, or its command is sent and takes a reply, if one is
waiting. -/
inductive Fate where
  | refused (fault : Fault)
  | sent (command : Command) (reply? : Option Envelope)

namespace Fate

def command? : Fate → Option Command
  | .refused _ => none
  | .sent command _ => some command

def reply? : Fate → Option Envelope
  | .refused _ => none
  | .sent _ reply? => reply?

@[simp] theorem command?_refused (fault : Fault) : command? (.refused fault) = none := rfl

@[simp] theorem command?_sent (command : Command) (taken? : Option Envelope) :
    command? (.sent command taken?) = some command := rfl

@[simp] theorem reply?_refused (fault : Fault) : reply? (.refused fault) = none := rfl

@[simp] theorem reply?_sent (command : Command) (taken? : Option Envelope) :
    reply? (.sent command taken?) = taken? := rfl

/-- The answer to a request: an error in the reply, even beside a result, and otherwise what the
request reads in the result. Without a reply, or without a result in it, null is read. -/
def answer (request : Request) : Fate → Except Fault Answer
  | .refused fault => .error fault
  | .sent _ none => .ok (request.read .null)
  | .sent _ (some ⟨_, some text⟩) => .error (.server text)
  | .sent _ (some ⟨some result, none⟩) => .ok (request.read result)
  | .sent _ (some ⟨none, none⟩) => .ok (request.read .null)

end Fate

/-- The count of a command and of how it was answered. -/
def Metrics.recordAnswer (metrics : Metrics) (command : Command) (answer : Except Fault Answer) :
    Metrics :=
  let counted := metrics.recordCommand (command.headD "") answer.isOk
  match answer with
  | .ok (.hits found) => counted.recordHits found.length
  | _ => counted

namespace Session

/-- What one request does to a client. Refused, it does nothing. Otherwise its command is added to
those sent, and the oldest waiting reply, if there is one, is taken. -/
inductive Turn (session : Session Envelope) (request : Request) :
    Fate → Session Envelope → Prop where
  | refused {fault : Fault} :
      request.Refused session.settings fault → Turn session request (.refused fault) session
  | sent {command : Command} :
      request.command session.settings = .ok command →
        Turn session request (.sent command session.pending.head?)
          { session with
            sent := session.sent ++ [command]
            pending := session.pending.tail
            metrics := session.metrics.recordAnswer command
              (Fate.answer request (.sent command session.pending.head?)) }

/-- The answers that a client gives in a run, one to each request, and the client after it. -/
def run (session : Session Envelope) : List Event → List (Except Fault Answer) × Session Envelope
  | [] => ([], session)
  | .reply reply :: rest => run (session.enqueue reply) rest
  | .request request :: rest =>
    let (answer, later) := session.perform request
    let (answers, last) := run later rest
    (answer :: answers, last)

/-! ## A turn is what performing its request comes to -/

/-- What a command comes to with the reply that it takes, if there is one. -/
def resultOf : Option Envelope → Except Fault Json
  | none => .ok .null
  | some reply => reply.outcome

theorem answer_sent_eq (request : Request) (command : Command) (reply? : Option Envelope) :
    Fate.answer request (.sent command reply?) = (resultOf reply?).map request.read := by
  obtain _ | ⟨_ | result, _ | text⟩ := reply? <;> rfl

theorem dispatch_eq_resultOf (session : Session Envelope) {command : Command} (h : command ≠ []) :
    session.dispatch command =
      (resultOf session.pending.head?,
        { session with
          sent := session.sent ++ [command]
          pending := session.pending.tail
          metrics := session.metrics.recordCommand (command.headD "")
            (resultOf session.pending.head?).isOk }) := by
  rcases session.exchange_cases command with
    ⟨hnil, -⟩ | ⟨-, hpending, hexchange⟩ | ⟨reply, rest, -, hpending, hexchange⟩
  · exact absurd hnil h
  · rw [dispatch, hexchange, hpending]
    rfl
  · rw [dispatch, hexchange, hpending]
    rfl

theorem noteHits_eq_recordAnswer (session : Session Envelope) (command : Command)
    (answer : Answer) :
    noteHits { session with metrics := session.metrics.recordCommand (command.headD "") true }
        answer =
      { session with metrics := session.metrics.recordAnswer command (.ok answer) } := by
  cases answer <;> rfl

theorem Turn.perform_eq {session later : Session Envelope} {request : Request} {fate : Fate}
    (h : Turn session request fate later) :
    session.perform request = (fate.answer request, later) := by
  cases h with
  | refused hrefused => exact perform_of_fault (Request.command_eq_error_iff.mpr hrefused)
  | @sent command hcommand =>
    have hdispatch := session.dispatch_eq_resultOf (Request.command_ne_nil hcommand)
    rw [answer_sent_eq]
    cases hresult : resultOf session.pending.head? with
    | error fault =>
      rw [hresult] at hdispatch
      exact perform_of_failed hcommand hdispatch
    | ok reply =>
      rw [hresult] at hdispatch
      rw [perform_of_answered hcommand hdispatch]
      exact congrArg (Prod.mk (Except.ok (request.read reply))) (noteHits_eq_recordAnswer
        { session with sent := session.sent ++ [command], pending := session.pending.tail } command
        (request.read reply))

theorem exists_turn (session : Session Envelope) (request : Request) :
    ∃ fate later, Turn session request fate later := by
  cases hcommand : request.command session.settings with
  | error fault => exact ⟨_, _, .refused (Request.command_eq_error_iff.mp hcommand)⟩
  | ok command => exact ⟨_, _, .sent hcommand⟩

/-! ## Whole runs -/

/-- A run, turn by turn, with what came of each request. -/
inductive Course :
    Session Envelope → List Event → List (Request × Fate) → Session Envelope → Prop where
  | done {session : Session Envelope} : Course session [] [] session
  | reply {session last : Session Envelope} {reply : Envelope} {rest : List Event}
      {fates : List (Request × Fate)} :
      Course (session.enqueue reply) rest fates last →
        Course session (.reply reply :: rest) fates last
  | turn {session later last : Session Envelope} {request : Request} {fate : Fate}
      {rest : List Event} {fates : List (Request × Fate)} :
      Turn session request fate later → Course later rest fates last →
        Course session (.request request :: rest) ((request, fate) :: fates) last

theorem exists_course (session : Session Envelope) (events : List Event) :
    ∃ fates last, Course session events fates last := by
  induction events generalizing session with
  | nil => exact ⟨[], session, .done⟩
  | cons event rest ih =>
    cases event with
    | reply reply =>
      obtain ⟨fates, last, hrest⟩ := ih (session.enqueue reply)
      exact ⟨fates, last, .reply hrest⟩
    | request request =>
      obtain ⟨fate, later, hturn⟩ := session.exists_turn request
      obtain ⟨fates, last, hrest⟩ := ih later
      exact ⟨(request, fate) :: fates, last, .turn hturn hrest⟩

namespace Course

variable {session last : Session Envelope} {events : List Event} {fates : List (Request × Fate)}

theorem run_eq (h : Course session events fates last) :
    session.run events = (fates.map fun made => made.2.answer made.1, last) := by
  induction h with
  | done => rfl
  | reply _ ih => exact ih
  | turn hturn _ ih =>
    rw [run, hturn.perform_eq]
    simp only [ih, List.map_cons]

theorem requests_eq (h : Course session events fates last) :
    fates.map Prod.fst = events.filterMap Event.request? := by
  induction h with
  | done => rfl
  | reply _ ih => exact ih
  | turn _ _ ih => simpa using ih

theorem settings_eq (h : Course session events fates last) : last.settings = session.settings := by
  induction h with
  | done => rfl
  | reply _ ih => exact ih
  | turn hturn _ ih =>
    rw [ih]
    cases hturn <;> rfl

/-- The commands are recorded in the order in which they are sent. -/
theorem sent_eq (h : Course session events fates last) :
    last.sent = session.sent ++ fates.filterMap fun made => made.2.command? := by
  induction h with
  | done => simp
  | reply _ ih => exact ih
  | turn hturn _ ih =>
    rw [ih]
    cases hturn with
    | refused => rfl
    | sent => simp

/-- The replies are taken in the order in which they come. -/
theorem pending_eq (h : Course session events fates last) :
    session.pending ++ events.filterMap Event.reply? =
      (fates.filterMap fun made => made.2.reply?) ++ last.pending := by
  induction h with
  | done => simp
  | reply _ ih =>
    rw [← ih]
    simp [enqueue]
  | @turn session _ _ _ _ _ _ hturn _ ih =>
    cases hturn with
    | refused => simpa [List.filterMap_cons] using ih
    | sent =>
      cases hpending : session.pending with
      | nil => simpa [List.filterMap_cons, hpending] using ih
      | cons reply waiting => simpa [List.filterMap_cons, hpending] using ih

/-- A run can be parted at any point. -/
theorem exists_append {before after : List Event}
    (h : Course session (before ++ after) fates last) :
    ∃ first rest middle, Course session before first middle ∧ Course middle after rest last ∧
      fates = first ++ rest := by
  induction before generalizing session fates with
  | nil => exact ⟨[], fates, session, .done, h, rfl⟩
  | cons event before ih =>
    cases h with
    | reply hrest =>
      obtain ⟨first, rest, middle, hfirst, hafter, rfl⟩ := ih hrest
      exact ⟨first, rest, middle, .reply hfirst, hafter, rfl⟩
    | turn hturn hrest =>
      obtain ⟨first, rest, middle, hfirst, hafter, rfl⟩ := ih hrest
      exact ⟨_ :: first, rest, middle, .turn hturn hfirst, hafter, rfl⟩

end Course

/-- What a run has done: turn by turn it took a course, gave the answers that belong to what came of
the requests, recorded the commands in order, and took the replies in order, each at most once. -/
structure RunSpec (session : Session Envelope) (events : List Event)
    (fates : List (Request × Fate)) : Prop where
  course : Course session events fates (session.run events).2
  requests_eq : fates.map Prod.fst = events.filterMap Event.request?
  answers_eq : (session.run events).1 = fates.map fun made => made.2.answer made.1
  settings_eq : (session.run events).2.settings = session.settings
  sent_eq : (session.run events).2.sent =
    session.sent ++ fates.filterMap fun made => made.2.command?
  pending_eq : session.pending ++ events.filterMap Event.reply? =
    (fates.filterMap fun made => made.2.reply?) ++ (session.run events).2.pending

theorem Course.runSpec {session last : Session Envelope} {events : List Event}
    {fates : List (Request × Fate)} (h : Course session events fates last) :
    RunSpec session events fates := by
  have hrun := h.run_eq
  constructor
  · rw [hrun]
    exact h
  · exact h.requests_eq
  · rw [hrun]
  · rw [hrun]
    exact h.settings_eq
  · rw [hrun]
    exact h.sent_eq
  · rw [hrun]
    exact h.pending_eq

end Session

end DocumentSearch
