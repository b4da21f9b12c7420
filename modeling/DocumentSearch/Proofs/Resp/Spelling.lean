import Mathlib.Algebra.Group.Int.Defs
import DocumentSearch.Proofs.Reply.Description
import DocumentSearch.Session.Request
import DocumentSearch.Text.Utf8.Lemmas

/-! Spellings of one value. However the values inside a reply are spelled, in lists, in the names
and values of maps or under annotations, the reply stands for the same JSON value, and no request
reads it differently. -/

namespace DocumentSearch

namespace Resp

/-- Two ways to spell the same value. -/
inductive Spelling : Resp → Resp → Prop where
  | annotated (reply : Resp) (facts : List (Resp × Resp)) : Spelling reply (.annotated reply facts)
  | set (items : List Resp) : Spelling (.array items) (.set items)
  | simple (text : String) : Spelling (.bulk (Text.Utf8.encode text)) (.simple text)
  | verbatim (text : String) : Spelling (.bulk (Text.Utf8.encode text)) (.verbatim text)
  | okay : Spelling (.simple "OK") .okay
  | big (value : Int) : Spelling (.simple (toString value)) (.big value)

/-- What stands around a reply that is part of another. -/
inductive Surrounding where
  | array (before after : List Resp)
  | set (before after : List Resp)
  | push (before after : List Resp)
  | mapKey (before : List (Resp × Resp)) (value : Resp) (after : List (Resp × Resp))
  | mapValue (before : List (Resp × Resp)) (key : Resp) (after : List (Resp × Resp))
  | annotated (facts : List (Resp × Resp))
  | factKey (reply : Resp) (before : List (Resp × Resp)) (value : Resp)
      (after : List (Resp × Resp))
  | factValue (reply : Resp) (before : List (Resp × Resp)) (key : Resp)
      (after : List (Resp × Resp))

/-- The reply that a part makes together with what stands around it. -/
def Surrounding.fill : Surrounding → Resp → Resp
  | .array before after, part => .array (before ++ part :: after)
  | .set before after, part => .set (before ++ part :: after)
  | .push before after, part => .push (before ++ part :: after)
  | .mapKey before value after, part => .map (before ++ (part, value) :: after)
  | .mapValue before key after, part => .map (before ++ (key, part) :: after)
  | .annotated facts, part => .annotated part facts
  | .factKey reply before value after, part =>
    .annotated reply (before ++ (part, value) :: after)
  | .factValue reply before key after, part =>
    .annotated reply (before ++ (key, part) :: after)

/-- One reply comes from another by spelling any number of values in it, at any depth, in other
ways, to and fro. -/
inductive SpelledAlike : Resp → Resp → Prop where
  | spelling {reply other : Resp} : Spelling reply other → SpelledAlike reply other
  | part {reply other : Resp} (around : Surrounding) :
      SpelledAlike reply other → SpelledAlike (around.fill reply) (around.fill other)
  | refl (reply : Resp) : SpelledAlike reply reply
  | symm {reply other : Resp} : SpelledAlike reply other → SpelledAlike other reply
  | trans {reply other third : Resp} :
      SpelledAlike reply other → SpelledAlike other third → SpelledAlike reply third

/-! ## What a spelling stands for -/

theorem Spelling.toJson_eq {reply other : Resp} (h : Spelling reply other) :
    reply.toJson = other.toJson := by
  cases h with
  | annotated reply facts => rw [toJson]
  | set items => rw [toJson, toJson]
  | simple text => rw [toJson, toJson, Text.Utf8.decode_encode]
  | verbatim text => rw [toJson, toJson, Text.Utf8.decode_encode]
  | okay => rw [toJson, toJson]
  | big value => rw [toJson, toJson]

theorem itemsToJson_congr {item other : Resp} (h : item.toJson = other.toJson)
    (before after : List Resp) :
    itemsToJson (before ++ item :: after) = itemsToJson (before ++ other :: after) := by
  simp only [itemsToJson_eq_map, List.map_append, List.map_cons, h]

/-- The key of an entry counts by what it stands for, so its spelling has no say in which entries
have the same name. -/
theorem entriesToJson_congr {key key' value value' : Resp} (hkey : key.toJson = key'.toJson)
    (hvalue : value.toJson = value'.toJson) (before after : List (Resp × Resp)) :
    entriesToJson (before ++ (key, value) :: after) =
      entriesToJson (before ++ (key', value') :: after) := by
  simp only [entriesToJson_eq_map, List.map_append, List.map_cons, hkey, hvalue]

/-- What a reply stands for depends on its parts only by what they stand for. -/
theorem Surrounding.toJson_fill {reply other : Resp} (around : Surrounding)
    (h : reply.toJson = other.toJson) :
    (around.fill reply).toJson = (around.fill other).toJson := by
  cases around with
  | array before after => rw [fill, fill, toJson, toJson, itemsToJson_congr h]
  | set before after => rw [fill, fill, toJson, toJson, itemsToJson_congr h]
  | push before after => rw [fill, fill, toJson, toJson]
  | mapKey before value after => rw [fill, fill, toJson, toJson, entriesToJson_congr h rfl]
  | mapValue before key after => rw [fill, fill, toJson, toJson, entriesToJson_congr rfl h]
  | annotated facts => rwa [fill, fill, toJson, toJson]
  | factKey reply before value after => rw [fill, fill, toJson, toJson]
  | factValue reply before key after => rw [fill, fill, toJson, toJson]

/-- Replies that are spelled alike stand for one value, and every request reads them alike. -/
theorem toJson_eq_of_spelledAlike {reply other : Resp} (h : SpelledAlike reply other) :
    reply.toJson = other.toJson ∧
      ∀ request : Request, request.read reply.toJson = request.read other.toJson := by
  suffices heq : reply.toJson = other.toJson from ⟨heq, fun request => by rw [heq]⟩
  induction h with
  | spelling h => exact h.toJson_eq
  | part around _ ih => exact around.toJson_fill ih
  | refl reply => rfl
  | symm _ ih => exact ih.symm
  | trans _ _ ih ih' => exact ih.trans ih'

theorem toJson_eq_of_spelledAlike_nested :
    let facts : List (Resp × Resp) := [(.simple "ttl", .int 3)]
    let name : Resp := .bulk (Text.Utf8.encode "ids")
    let reply : Resp := .map
      [(.simple "ids", .nil), (name, .array [.simple (toString (2 ^ 70 : Int)), .simple "OK"])]
    let other : Resp := .annotated (.map
      [(name, .nil), (.annotated (.verbatim "ids") facts, .set [.big (2 ^ 70), .okay])]) []
    SpelledAlike reply other ∧ reply.toJson = other.toJson ∧
      ∀ request : Request, request.read reply.toJson = request.read other.toJson := by
  intro facts name reply other
  let digits : Resp := .simple (toString (2 ^ 70 : Int))
  let number : Resp := .big (2 ^ 70)
  have hname : SpelledAlike name (.annotated (.verbatim "ids") facts) :=
    .trans (.spelling (.verbatim "ids")) (.spelling (.annotated _ facts))
  have hnumber : SpelledAlike (.array [digits, .simple "OK"]) (.array [number, .simple "OK"]) :=
    .part (.array [] [.simple "OK"]) (.spelling (.big (2 ^ 70)))
  have hokay : SpelledAlike (.array [number, .simple "OK"]) (.array [number, .okay]) :=
    .part (.array [number] []) (.spelling .okay)
  have hitems : SpelledAlike (.array [digits, .simple "OK"]) (.set [number, .okay]) :=
    .trans hnumber (.trans hokay (.spelling (.set _)))
  have hfirst := SpelledAlike.part (.mapKey [] .nil [(name, .array [digits, .simple "OK"])])
    (.symm (.spelling (.simple "ids")))
  have hkey := hname.part (.mapKey [(name, .nil)] (.array [digits, .simple "OK"]) [])
  have hvalue := hitems.part (.mapValue [(name, .nil)] (.annotated (.verbatim "ids") facts) [])
  have h : SpelledAlike reply other :=
    .trans hfirst (.trans hkey (.trans hvalue (.spelling (.annotated _ []))))
  exact ⟨h, toJson_eq_of_spelledAlike h⟩

end Resp

end DocumentSearch
