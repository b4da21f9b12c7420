import DocumentSearch.Proofs.Members
import DocumentSearch.Proofs.Reply.Description
import DocumentSearch.Resp.LinkError

/-! The text of an error that the engine sends. As an entry of a list it is the code, with the
detail after it. As the whole of a reply it is the same exactly if there is a detail and the link
passes the code on; otherwise words of the link stand in its place, or the code is lost. -/

namespace DocumentSearch

namespace Resp

/-- An error has a text in two places: the whole of a reply, it is the text of the fault that the
command fails with, and the entry of a list, it is the text that this entry stands for. -/
structure KeptAsSent (code : String) (detail? : Option String) (text : String) : Prop where
  whole : outcome (.error code detail?) = .error (.server text)
  entry : ∀ before after : List Resp, toJson (.array (before ++ .error code detail? :: after)) =
    .arr (before.map toJson ++ .str text :: after.map toJson)

/-! ## The fault of a whole reply -/

theorem outcome_error (code : String) (detail? : Option String) :
    outcome (.error code detail?) = .error (LinkError.reply code detail?).fault := by
  rw [outcome, firstError?]

theorem report_of_known {code kind : String}
    (h : Members.lookup? LinkError.knownCodes code = some kind) (detail? : Option String) :
    (LinkError.reply code detail?).report =
      { code? := if code = "NOSUB" then none else some code
        detail?
        text := LinkError.kindText "An error was signalled by the server" kind detail? } := by
  rw [LinkError.report, LinkError.reportReply, h]

theorem report_of_unknown {code : String} (h : Members.lookup? LinkError.knownCodes code = none)
    (detail? : Option String) :
    (LinkError.reply code detail?).report =
      { code? := some code
        detail? := some (detail?.getD "Unknown extension error encountered")
        text := code ++ ": " ++ detail?.getD "Unknown extension error encountered" } := by
  rw [LinkError.report, LinkError.reportReply, h]

theorem fault_of_detail {code : String} (h : code ≠ "NOSUB") (detail : String) :
    (LinkError.reply code (some detail)).fault = .server (code ++ " " ++ detail) := by
  rw [LinkError.fault]
  cases hkind : Members.lookup? LinkError.knownCodes code with
  | none =>
    rw [report_of_unknown hkind]
    rfl
  | some kind =>
    rw [report_of_known hkind, if_neg h]
    rfl

theorem fault_of_noSub (detail : String) :
    (LinkError.reply "NOSUB" (some detail)).fault = .server detail := rfl

theorem fault_ne_of_noDetail (code : String) :
    (LinkError.reply code none).fault ≠ .server code := by
  intro h
  rw [LinkError.fault] at h
  cases hkind : Members.lookup? LinkError.knownCodes code with
  | none =>
    rw [report_of_unknown hkind] at h
    have hlength := congrArg String.length (Fault.server.inj h)
    simp only [String.length_append] at hlength
    have hblank : " ".length = 1 := rfl
    omega
  | some kind =>
    -- The text of the link is none of the codes that it knows.
    have hown : ∀ known ∈ LinkError.knownCodes,
        LinkError.kindText "An error was signalled by the server" known.2 none ≠ known.1 := by
      decide
    rw [report_of_known hkind] at h
    have htext : LinkError.kindText "An error was signalled by the server" kind none = code := by
      split at h <;> exact Fault.server.inj h
    exact hown _ (Members.mem_of_lookup? hkind) htext

/-- The whole of a reply, an error has the text that it has as an entry exactly if it has a detail
and its code is passed on. -/
theorem fault_eq_errorText_iff {code : String} {detail? : Option String} :
    (LinkError.reply code detail?).fault = .server (errorText code detail?) ↔
      detail?.isSome ∧ code ≠ "NOSUB" := by
  cases detail? with
  | none => simpa [errorText] using fault_ne_of_noDetail code
  | some detail =>
    by_cases hcode : code = "NOSUB"
    · subst hcode
      have hlength : detail.length ≠ (errorText "NOSUB" (some detail)).length := by
        simp [errorText]
      rw [fault_of_noSub]
      simpa using fun h => hlength (congrArg String.length h)
    · simpa [errorText, hcode] using fault_of_detail hcode detail

/-! ## Both places -/

theorem toJson_error_entry (code : String) (detail? : Option String) (before after : List Resp) :
    toJson (.array (before ++ .error code detail? :: after)) =
      .arr (before.map toJson ++ .str (errorText code detail?) :: after.map toJson) := by
  rw [toJson, itemsToJson_eq_map, List.map_append, List.map_cons, toJson]

theorem KeptAsSent.text_eq {code : String} {detail? : Option String} {text : String}
    (h : KeptAsSent code detail? text) :
    (LinkError.reply code detail?).fault = .server text ∧ text = errorText code detail? := by
  constructor
  · simpa [outcome_error] using h.whole
  · have hentry := h.entry [] []
    rw [toJson_error_entry] at hentry
    simpa [eq_comm] using hentry

/-- An error has one text in both places exactly if it has a detail and its code is one that the
link passes on, and then this text is its code and its detail. -/
theorem keptAsSent_iff {code : String} {detail? : Option String} {text : String} :
    KeptAsSent code detail? text ↔
      ∃ detail, detail? = some detail ∧ code ≠ "NOSUB" ∧ text = code ++ " " ++ detail := by
  constructor
  · intro h
    obtain ⟨hwhole, hentry⟩ := h.text_eq
    obtain ⟨hdetail, hcode⟩ := fault_eq_errorText_iff.mp (hentry ▸ hwhole)
    obtain ⟨detail, rfl⟩ := Option.isSome_iff_exists.mp hdetail
    exact ⟨detail, rfl, hcode, hentry⟩
  · rintro ⟨detail, rfl, hcode, rfl⟩
    refine ⟨?_, toJson_error_entry code (some detail)⟩
    rw [outcome_error, fault_of_detail hcode]

/-- An error without a detail is told in other words when it is the whole of a reply. -/
theorem not_exists_keptAsSent :
    ¬ ∀ (code : String) (detail? : Option String), ∃ text, KeptAsSent code detail? text := by
  intro hkept
  obtain ⟨text, h⟩ := hkept "ERR" none
  obtain ⟨hwhole, hentry⟩ := h.text_eq
  obtain rfl : text = "ERR" := hentry
  exact fault_ne_of_noDetail "ERR" hwhole

end Resp

end DocumentSearch
