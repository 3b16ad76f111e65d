import LitellmOperator.Go.Url

/-! # Requests with an id in their path

The client appends ids to paths as they are, without escaping them. The URL is the base URL, which
has no query and no fragment, and the path; `http.NewRequest` parses it, and what is sent decodes to
the path and the query that it finds.
-/

set_option autoImplicit false

namespace LitellmOperator

open Go Url

/-- `Users().Get`, `Teams().Get`, `Keys().Get`, `Models().Get` and `Credentials().Update` and
`Delete`. -/
inductive Lookup where
  | getUser
  | getTeam
  | getKey
  | getModel
  | updateCredential
  | deleteCredential
  deriving DecidableEq

namespace Lookup

def path (l : Lookup) (id : String) : String :=
  match l with
  | getUser => "/user/info?user_id=" ++ id
  | getTeam => "/team/info?team_id=" ++ id
  | getKey => "/key/info?key=" ++ id
  | getModel => "/model/info?litellm_model_id=" ++ id
  | updateCredential | deleteCredential => "/credentials/" ++ id

/-- The id that is read from the path and the query of a request. -/
def identifier (l : Lookup) (u : Bytes × Bytes) : Option Bytes :=
  match l with
  | getUser => formValue (bytesOf "user_id") u.2
  | getTeam => formValue (bytesOf "team_id") u.2
  | getKey => formValue (bytesOf "key") u.2
  | getModel => formValue (bytesOf "litellm_model_id") u.2
  | updateCredential | deleteCredential => segment (bytesOf "/credentials/") u.1

/-- The id that the request for an id asks for, if one is sent. -/
def asked (l : Lookup) (id : String) : Option Bytes :=
  (parse (bytesOf (l.path id))).bind l.identifier

/-- The id means itself where the request has it. -/
def Safe (l : Lookup) (id : Bytes) : Prop :=
  '#'.toUInt8 ∉ id ∧ id.any isControl = false ∧
    match l with
    | updateCredential | deleteCredential =>
      '?'.toUInt8 ∉ id ∧ '/'.toUInt8 ∉ id ∧ isRaw true id = true
    | _ => '&'.toUInt8 ∉ id ∧ '+'.toUInt8 ∉ id ∧ isRaw false id = true

theorem formValue_iff {stem name : String} (route id : String)
    (hstem : bytesOf stem = bytesOf route ++ '?'.toUInt8 :: (bytesOf name ++ ['='.toUInt8]))
    (hroute : IsPlain (bytesOf route)) (hname : IsPlain (bytesOf name))
    (hdecode : formDecode (bytesOf name) = some (bytesOf name)) :
    (parse (bytesOf (stem ++ id))).bind (fun u => formValue (bytesOf name) u.2) =
      some (bytesOf id) ↔ Safe getUser (bytesOf id) := by
  have hurl : bytesOf (stem ++ id) =
      bytesOf route ++ '?'.toUInt8 :: (bytesOf name ++ '='.toUInt8 :: bytesOf id) := by
    rw [bytesOf_append, hstem]
    simp
  rw [hurl, formValue_parse hroute hname hdecode, readBack_eq_iff, map_plusToSpace]
  exact ⟨fun h => ⟨h.1.1, h.1.2.2, h.1.2.1, h.2⟩, fun h => ⟨⟨h.1, h.2.2.1, h.2.1⟩, h.2.2.2⟩⟩

theorem segment_iff (id : String) :
    (parse (bytesOf ("/credentials/" ++ id))).bind
      (fun u => segment (bytesOf "/credentials/") u.1) = some (bytesOf id) ↔
    Safe updateCredential (bytesOf id) := by
  rw [bytesOf_append, segment_parse (by decide), Option.filter_eq_some_iff, readBack_eq_iff,
    List.map_id, decide_eq_true_eq]
  exact ⟨fun h => ⟨h.1.1.1, h.1.1.2.2, h.1.1.2.1, h.2, h.1.2.2⟩,
    fun h => ⟨⟨⟨h.1, h.2.2.1, h.2.1⟩, rfl, h.2.2.2.2⟩, h.2.2.2.1⟩⟩

end Lookup

/-- **A lookup asks for its id** exactly if the id means itself there. A space in a query is read back,
though it stands in the request line as it is. -/
theorem lookup_asks_iff (l : Lookup) (id : String) :
    l.asked id = some (bytesOf id) ↔ l.Safe (bytesOf id) := by
  cases l with
  | getUser =>
    exact Lookup.formValue_iff "/user/info" id (by decide) (by decide) (by decide) (by decide)
  | getTeam =>
    exact Lookup.formValue_iff "/team/info" id (by decide) (by decide) (by decide) (by decide)
  | getKey =>
    exact Lookup.formValue_iff "/key/info" id (by decide) (by decide) (by decide) (by decide)
  | getModel =>
    exact Lookup.formValue_iff "/model/info" id (by decide) (by decide) (by decide) (by decide)
  | updateCredential | deleteCredential => exact Lookup.segment_iff id

/-- **A plus becomes a space.** The lookup of a user by an address with a tag asks for another
user. -/
theorem lookup_asks_other :
    Lookup.getUser.asked "ann+dev@example.com" = some (bytesOf "ann dev@example.com") := by
  decide

end LitellmOperator
