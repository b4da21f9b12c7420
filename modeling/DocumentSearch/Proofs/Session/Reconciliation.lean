import DocumentSearch.Proofs.Session.Run

/-! What a client has counted, held against what it has sent. After every run the totals of each
command are those of the commands sent, by whether their replies had an error, and the hits noted
are those of the queries that were answered. -/

namespace DocumentSearch

/-! ## Tallies -/

namespace Tally

variable {α : Type}

/-- The things that have come up. -/
def labels (tally : Tally α) : List α := tally.map Prod.fst

variable [DecidableEq α]

/-- A tally of some things has an entry for each of them and for nothing else, one only, with the
number of times that it comes up. -/
structure Counts (tally : Tally α) (things : List α) : Prop where
  nodup : tally.labels.Nodup
  mem_iff : ∀ a, a ∈ tally.labels ↔ a ∈ things
  count_eq : ∀ a, tally.count a = things.countP (· = a)

theorem labels_bump (tally : Tally α) (a : α) :
    (tally.bump a).labels = if a ∈ tally.labels then tally.labels else tally.labels ++ [a] := by
  induction tally with
  | nil => simp [bump, labels]
  | cons entry rest ih =>
    obtain ⟨b, n⟩ := entry
    by_cases hb : b = a
    · simp [bump, labels, hb]
    · have hab : a ≠ b := Ne.symm hb
      by_cases hmem : a ∈ rest.map Prod.fst
      · simpa [bump, labels, hb, hab, hmem] using ih
      · simpa [bump, labels, hb, hab, hmem] using ih

theorem counts_nil : Counts ([] : Tally α) [] := by
  constructor
  · exact List.nodup_nil
  · simp [labels]
  · simp [count]

theorem Counts.bump {tally : Tally α} {things : List α} (h : Counts tally things) (a : α) :
    Counts (tally.bump a) (things ++ [a]) := by
  constructor
  · rw [labels_bump]
    split
    · exact h.nodup
    · next hnew => exact List.nodup_append.mpr ⟨h.nodup, by simp, by
        rintro b hb c hc rfl
        exact hnew (List.mem_singleton.mp hc ▸ hb)⟩
  · intro b
    rw [labels_bump, List.mem_append, List.mem_singleton, ← h.mem_iff]
    split
    · next hold =>
      constructor
      · exact .inl
      · rintro (hb | rfl)
        · exact hb
        · exact hold
    · rw [List.mem_append, List.mem_singleton]
  · intro b
    rw [count_bump, h.count_eq, List.countP_append, List.countP_singleton]
    simp

end Tally

/-! ## Commands with their replies -/

/-- A command that has reached the engine: the request that it was made for, and the reply that it
took, if one was waiting. -/
structure Exchange where
  request : Request
  command : Command
  reply? : Option Envelope

namespace Exchange

/-- The name of the command. -/
def word (exchange : Exchange) : String := exchange.command.headD ""

/-- Whether the reply carried an error. -/
def failed (exchange : Exchange) : Bool := (exchange.reply?.bind Envelope.error?).isSome

def answer (exchange : Exchange) : Except Fault Answer :=
  Fate.answer exchange.request (.sent exchange.command exchange.reply?)

/-- The command was made for its request. -/
def Genuine (settings : Settings) (exchange : Exchange) : Prop :=
  exchange.request.command settings = .ok exchange.command

/-- Whether the exchange is a query that was answered without an error. -/
def answersQuery (exchange : Exchange) : Bool :=
  exchange.word == Verb.query.token && !exchange.failed

/-- An exchange is answered exactly if its reply carried no error. -/
theorem isOk_answer (exchange : Exchange) : exchange.answer.isOk = !exchange.failed := by
  rw [answer, Session.answer_sent_eq]
  obtain ⟨request, command, _ | ⟨_ | result, _ | text⟩⟩ := exchange <;> rfl

theorem word_eq {settings : Settings} {exchange : Exchange} (h : exchange.Genuine settings) :
    exchange.word = exchange.request.verb.token := by
  rw [word, List.headD_eq_head?_getD, Request.head?_command h, Option.getD_some]

end Exchange

/-- The number of hits in an answer that has some. -/
def hitCount? : Except Fault Answer → Option Nat
  | .ok (.hits found) => some found.length
  | _ => none

theorem hitCount?_eq_some_iff {answer : Except Fault Answer} {count : Nat} :
    hitCount? answer = some count ↔ ∃ found, answer = .ok (.hits found) ∧ count = found.length := by
  obtain fault | (_ | found | _ | _ | _ | _ | _ | _) := answer <;> simp [hitCount?, eq_comm]

/-- Hits are what a query is answered with, and nothing else is. -/
theorem Exchange.isSome_hitCount? {settings : Settings} {exchange : Exchange}
    (h : exchange.Genuine settings) :
    (hitCount? exchange.answer).isSome = exchange.answersQuery := by
  rw [answersQuery, word_eq h, ← isOk_answer, answer, Session.answer_sent_eq]
  cases Session.resultOf exchange.reply? with
  | error fault => simp [Except.map, Except.isOk, Except.toBool, hitCount?]
  | ok result =>
    cases exchange.request <;> rfl

/-! ## What is counted -/

theorem Metrics.recordAnswer_eq (metrics : Metrics) (command : Command)
    (answer : Except Fault Answer) :
    metrics.recordAnswer command answer =
      { finished := metrics.finished.bump (command.headD "", answer.isOk)
        measured := metrics.measured.bump (command.headD "")
        hits := metrics.hits ++ (hitCount? answer).toList } := by
  obtain fault | (_ | found | _ | _ | _ | _ | _ | _) := answer <;>
    simp [recordAnswer, recordCommand, recordHits, hitCount?]

namespace Session

/-- The record of a client tells some exchanges, and its counts are theirs. -/
structure Accounts (session : Session Envelope) (exchanges : List Exchange) : Prop where
  genuine : ∀ exchange ∈ exchanges, exchange.Genuine session.settings
  sent_eq : session.sent = exchanges.map Exchange.command
  finished : session.metrics.finished.Counts
    (exchanges.map fun exchange => (exchange.word, !exchange.failed))
  measured : session.metrics.measured.Counts (exchanges.map Exchange.word)
  hits_eq : session.metrics.hits = exchanges.filterMap fun exchange => hitCount? exchange.answer

theorem accounts_nil (settings : Settings) (waiting : List Envelope) :
    Accounts { settings, pending := waiting } [] := by
  constructor
  · simp
  · rfl
  · exact Tally.counts_nil
  · exact Tally.counts_nil
  · rfl

/-- An exchange more is an entry more in the record, and is counted once. -/
theorem Accounts.append {session : Session Envelope} {exchanges : List Exchange}
    (h : session.Accounts exchanges) (exchange : Exchange)
    (hgenuine : exchange.Genuine session.settings) (pending : List Envelope) :
    Accounts { session with
      sent := session.sent ++ [exchange.command]
      pending
      metrics := session.metrics.recordAnswer exchange.command exchange.answer }
      (exchanges ++ [exchange]) := by
  constructor
  · intro other hmem
    rcases List.mem_append.mp hmem with hmem | hmem
    · exact h.genuine other hmem
    · obtain rfl := List.mem_singleton.mp hmem
      exact hgenuine
  · simp [h.sent_eq]
  · rw [Metrics.recordAnswer_eq, List.map_append, Exchange.isOk_answer]
    exact h.finished.bump (exchange.word, !exchange.failed)
  · rw [Metrics.recordAnswer_eq, List.map_append]
    exact h.measured.bump exchange.word
  · rw [Metrics.recordAnswer_eq, List.filterMap_append, ← h.hits_eq]
    cases hcount : hitCount? exchange.answer <;> simp [hcount]

end Session

/-- The exchange that came of a request, if it was sent. -/
def Fate.exchange? (request : Request) : Fate → Option Exchange
  | .refused _ => none
  | .sent command reply? => some ⟨request, command, reply?⟩

/-- The exchanges among what came of the requests of a run, in order. -/
def exchangesOf (fates : List (Request × Fate)) : List Exchange :=
  fates.filterMap fun made => made.2.exchange? made.1

namespace Session

theorem Turn.accounts {session later : Session Envelope} {request : Request} {fate : Fate}
    {exchanges : List Exchange} (hturn : Turn session request fate later)
    (h : session.Accounts exchanges) :
    later.Accounts (exchanges ++ (fate.exchange? request).toList) := by
  cases hturn with
  | refused => simpa [Fate.exchange?] using h
  | @sent command hcommand =>
    exact h.append ⟨request, command, session.pending.head?⟩ hcommand session.pending.tail

theorem Course.accounts {session last : Session Envelope} {events : List Event}
    {fates : List (Request × Fate)} {exchanges : List Exchange}
    (hcourse : Course session events fates last) (h : session.Accounts exchanges) :
    last.Accounts (exchanges ++ exchangesOf fates) := by
  induction hcourse generalizing exchanges with
  | done => simpa [exchangesOf] using h
  | reply _ ih => exact ih ⟨h.genuine, h.sent_eq, h.finished, h.measured, h.hits_eq⟩
  | @turn session later last request fate rest fates hturn _ ih =>
    have hlater := ih (hturn.accounts h)
    rw [List.append_assoc] at hlater
    cases hexchange : fate.exchange? request <;>
      simpa [exchangesOf, List.filterMap_cons, hexchange] using hlater

/-! ## Whole runs -/

/-- What a client has counted agrees with what it has sent: the totals of each command, the
measurements, one for each command that came to an end, and the hits, one number for each query
that was answered. Nothing else is counted. -/
structure Reconciled (session : Session Envelope) (exchanges : List Exchange) : Prop where
  sent_eq : session.sent = exchanges.map Exchange.command
  succeeded_eq : ∀ word, session.metrics.finished.count (word, true) =
    exchanges.countP fun exchange => exchange.word == word && !exchange.failed
  failed_eq : ∀ word, session.metrics.finished.count (word, false) =
    exchanges.countP fun exchange => exchange.word == word && exchange.failed
  measured_eq : ∀ word, session.metrics.measured.count word =
    session.metrics.finished.count (word, true) + session.metrics.finished.count (word, false)
  finished_labels : session.metrics.finished.labels.Nodup ∧
    ∀ label, label ∈ session.metrics.finished.labels ↔
      ∃ exchange ∈ exchanges, label = (exchange.word, !exchange.failed)
  measured_labels : session.metrics.measured.labels.Nodup ∧
    ∀ word, word ∈ session.metrics.measured.labels ↔ ∃ exchange ∈ exchanges, word = exchange.word
  hits : List.Forall₂
    (fun exchange count => ∃ found, exchange.answer = .ok (.hits found) ∧ count = found.length)
    (exchanges.filter Exchange.answersQuery) session.metrics.hits

theorem countP_label_eq (exchanges : List Exchange) (word : String) (succeeded : Bool) :
    (exchanges.map fun exchange => (exchange.word, !exchange.failed)).countP
        (· = (word, succeeded)) =
      exchanges.countP fun exchange => exchange.word == word && exchange.failed == !succeeded := by
  rw [List.countP_map]
  apply List.countP_congr
  intro exchange _
  cases hfailed : exchange.failed <;> cases succeeded <;> simp [hfailed]

/-- The commands of a name part into those that succeeded and those that failed. -/
theorem countP_word_eq (exchanges : List Exchange) (word : String) :
    (exchanges.map Exchange.word).countP (· = word) =
      (exchanges.countP fun exchange => exchange.word == word && !exchange.failed) +
        exchanges.countP fun exchange => exchange.word == word && exchange.failed := by
  induction exchanges with
  | nil => rfl
  | cons exchange rest ih =>
    rw [List.map_cons, List.countP_cons, List.countP_cons, List.countP_cons, ih]
    cases exchange.failed <;> by_cases hword : exchange.word = word <;> simp [hword] <;> omega

theorem forall₂_answersQuery {settings : Settings} {exchanges : List Exchange}
    (h : ∀ exchange ∈ exchanges, exchange.Genuine settings) :
    List.Forall₂
      (fun exchange count => ∃ found, exchange.answer = .ok (.hits found) ∧ count = found.length)
      (exchanges.filter Exchange.answersQuery)
      (exchanges.filterMap fun exchange => hitCount? exchange.answer) := by
  induction exchanges with
  | nil => exact .nil
  | cons exchange rest ih =>
    have hrest := ih fun other hmem => h other (List.mem_cons_of_mem _ hmem)
    have hquery := Exchange.isSome_hitCount? (h exchange List.mem_cons_self)
    rw [List.filter_cons, List.filterMap_cons, ← hquery]
    cases hcount : hitCount? exchange.answer with
    | none => exact hrest
    | some count => exact .cons (hitCount?_eq_some_iff.mp hcount) hrest

theorem Accounts.reconciled {session : Session Envelope} {exchanges : List Exchange}
    (h : session.Accounts exchanges) : Reconciled session exchanges := by
  have hsucceeded : ∀ word, session.metrics.finished.count (word, true) =
      exchanges.countP fun exchange => exchange.word == word && !exchange.failed := by
    intro word
    rw [h.finished.count_eq, countP_label_eq]
    simp
  have hfailed : ∀ word, session.metrics.finished.count (word, false) =
      exchanges.countP fun exchange => exchange.word == word && exchange.failed := by
    intro word
    rw [h.finished.count_eq, countP_label_eq]
    simp
  constructor
  · exact h.sent_eq
  · exact hsucceeded
  · exact hfailed
  · intro word
    rw [h.measured.count_eq, countP_word_eq, hsucceeded, hfailed]
  · exact ⟨h.finished.nodup, fun label => by simp [h.finished.mem_iff, eq_comm]⟩
  · exact ⟨h.measured.nodup, fun word => by simp [h.measured.mem_iff, eq_comm]⟩
  · rw [h.hits_eq]
    exact forall₂_answersQuery h.genuine

/-- After every run of a client, whatever was asked of it and whatever replies came in on the way,
its counts agree with the commands that were sent and the replies that they took. -/
theorem run_reconciled (settings : Settings) (waiting : List Envelope) (events : List Event) :
    ∃ fates, RunSpec { settings, pending := waiting } events fates ∧
      Reconciled (run { settings, pending := waiting } events).2 (exchangesOf fates) := by
  obtain ⟨fates, last, hcourse⟩ := exists_course { settings, pending := waiting } events
  refine ⟨fates, hcourse.runSpec, ?_⟩
  rw [hcourse.run_eq]
  exact (hcourse.accounts (accounts_nil settings waiting)).reconciled

end Session

end DocumentSearch
