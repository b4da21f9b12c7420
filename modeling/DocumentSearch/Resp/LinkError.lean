import DocumentSearch.Fault
import DocumentSearch.Resp.Basic

/-!
Errors of the link to the engine, and the faults that they come to. The link tells of an error
whether the connection is in trouble, its code and its detail, as far as it has them, and a text of
the link's own; the fault depends on these alone.

Some codes are known to the link. An error with such a code and no detail is only told by the text
of the link, and one of the codes is not passed on; an error with another code always has a detail.
-/

namespace DocumentSearch

/-- An error of the link to the engine. -/
inductive LinkError where
  | io (text : String)
  | reply (code : String) (detail? : Option String)
  /-- The link itself is in trouble. -/
  | raised (kind : String) (detail? : Option String)
deriving DecidableEq

namespace LinkError

/-- The codes that the link knows, each with the link's name for it. -/
def knownCodes : List (String × String) :=
  [("ERR", "ResponseError"), ("EXECABORT", "ExecAbortError"), ("LOADING", "BusyLoadingError"),
   ("NOSCRIPT", "NoScriptError"), ("MOVED", "Moved"), ("ASK", "Ask"), ("TRYAGAIN", "TryAgain"),
   ("CLUSTERDOWN", "ClusterDown"), ("CROSSSLOT", "CrossSlot"), ("MASTERDOWN", "MasterDown"),
   ("READONLY", "ReadOnly"), ("NOTBUSY", "NotBusy"), ("NOSUB", "NoSub")]

/-- What the link tells of an error. -/
structure Report where
  /-- The connection is in trouble. -/
  disconnected : Bool := false
  code? : Option String := none
  detail? : Option String := none
  /-- The link's own text for the error. -/
  text : String
deriving DecidableEq

/-- The link's text for an error of one of its own kinds. -/
def kindText (source kind : String) (detail? : Option String) : String :=
  source ++ "- " ++ kind ++ (detail?.elim "" (": " ++ ·))

/-- What the link tells of an error that the engine signals. -/
def reportReply (code : String) (detail? : Option String) : Report :=
  match Members.lookup? knownCodes code with
  | some kind =>
    { code? := if code = "NOSUB" then none else some code
      detail?
      text := kindText "An error was signalled by the server" kind detail? }
  | none =>
    let detail := detail?.getD "Unknown extension error encountered"
    { code? := some code, detail? := some detail, text := code ++ ": " ++ detail }

def report : LinkError → Report
  | .io text => { disconnected := true, text }
  | .reply code detail? => reportReply code detail?
  | .raised kind detail? => { detail?, text := kindText "client side" kind detail? }

/-- The fault that an error comes to, by what the link tells of it. The text of the engine is kept
as it was sent, where the link has it. -/
def Report.fault (report : Report) : Fault :=
  if report.disconnected then .connection report.text
  else match report.code?, report.detail? with
    | some code, some detail => .server (code ++ " " ++ detail)
    | none, some detail => .server detail
    | _, none => .server report.text

def fault (error : LinkError) : Fault := error.report.fault

theorem Report.exists_fault_eq (report : Report) :
    ∃ text, report.fault = .server text ∨ report.fault = .connection text := by
  rw [fault]
  split
  · exact ⟨_, .inr rfl⟩
  · split <;> exact ⟨_, .inl rfl⟩

end LinkError

/-- What a reply of the wire protocol comes to: an error anywhere inside makes the command fail. -/
def Resp.outcome (reply : Resp) : Except Fault Json :=
  match reply.firstError? with
  | some (code, detail?) => .error (LinkError.reply code detail?).fault
  | none => .ok reply.toJson

end DocumentSearch
