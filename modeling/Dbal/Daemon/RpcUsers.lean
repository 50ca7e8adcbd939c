/-
# The users of the RPC endpoint

`RpcRouteHandler` of `src/daemon/handlers/rpc_route_handler.cpp` with the actions of
`src/daemon/rpc_user_actions.cpp`, down to the calls that `src/client_user_ops.cpp` makes to the adapter.
An update and a delete read the user first, and then the rest of the program may come between.

A request changes users of its own tenant only (`rpc_rows_confined`) and answers with no others
(`rpc_replies_own`), whatever the rest does, as long as that moves no user to another tenant.
-/

import Dbal.Core.Reading
import Dbal.Daemon.Response
import Dbal.Store.Interleaving
import Dbal.Store.RowStore
import Dbal.Store.UniqueIndex

namespace Dbal
namespace Daemon
namespace Rpc

open Routine

/-! ### Users -/

/-- `User`; points in time are in milliseconds. -/
structure User where
  id : String
  username : String
  email : String
  role : String
  profilePicture : Option String
  bio : Option String
  createdAt : Option Int
  tenantId : Option String
  isInstanceOwner : Option Bool
  passwordChangeTimestamp : Option Int
  firstLogin : Option Bool
  deriving DecidableEq, Repr

/-- `CreateUserInput`. -/
structure CreateUserInput where
  username : String
  email : String
  role : String := ""
  profilePicture : Option String := none
  bio : Option String := none
  createdAt : Option Int := none
  tenantId : Option String := none
  isInstanceOwner : Option Bool := none
  passwordChangeTimestamp : Option Int := none
  firstLogin : Option Bool := none

/-- `UpdateUserInput`. -/
structure UpdateUserInput where
  username : Option String := none
  email : Option String := none
  role : Option String := none
  profilePicture : Option String := none
  bio : Option String := none
  tenantId : Option String := none
  isInstanceOwner : Option Bool := none
  passwordChangeTimestamp : Option Int := none
  firstLogin : Option Bool := none

/-- `get<bool>()`. -/
def getBool : Json → Except JsonError Bool
  | .bool b => .ok b
  | _ => .error .typeError302

/-- `get<int64_t>()`. -/
def getInt64 : Json → Except JsonError Int
  | .int i => .ok (Json.int i).getInt64
  | .uint n => .ok (Json.uint n).getInt64
  | .real mantissa exponent => .ok (Json.real mantissa exponent).getInt64
  | _ => .error .typeError302

/-- A member that may be missing or null. -/
def present {α : Type} (get : Json → Except JsonError α) (j : Json) (key : String) :
    Except JsonError (Option α) :=
  match j.find? key with
  | none | some .null => .ok none
  | some value => (get value).map some

/-- `userFromJson`. -/
def userFromJson (j : Json) : Except JsonError User := do
  let id ← j.valueString "id" ""
  let username ← j.valueString "username" ""
  let email ← j.valueString "email" ""
  let role ← j.valueString "role" ""
  let profilePicture ← present Json.getString j "profilePicture"
  let bio ← present Json.getString j "bio"
  let createdAt ← present getInt64 j "createdAt"
  let tenantId ← present Json.getString j "tenantId"
  let isInstanceOwner ← present getBool j "isInstanceOwner"
  let passwordChangeTimestamp ← present getInt64 j "passwordChangeTimestamp"
  let firstLogin ← present getBool j "firstLogin"
  return ⟨id, username, email, role, profilePicture, bio, createdAt, tenantId, isInstanceOwner,
    passwordChangeTimestamp, firstLogin⟩

/-- `if (value) data[key] = *value`. -/
def setSome {α : Type} (data : Json) (key : String) (json : α → Json) : Option α → Json
  | none => data
  | some value => data.set key (json value)

/-- `createUserToJson`. -/
def createUserToJson (input : CreateUserInput) : Json :=
  let data := Json.null.set "username" (.str input.username)
  let data := data.set "email" (.str input.email)
  let data := data.set "role" (.str (if input.role = "" then "user" else input.role))
  let data := setSome data "profilePicture" .str input.profilePicture
  let data := setSome data "bio" .str input.bio
  let data := setSome data "tenantId" .str input.tenantId
  let data := setSome data "isInstanceOwner" .bool input.isInstanceOwner
  let data := setSome data "passwordChangeTimestamp" .int input.passwordChangeTimestamp
  setSome data "firstLogin" .bool input.firstLogin

/-- `updateUserToJson`. -/
def updateUserToJson (input : UpdateUserInput) : Json :=
  let data := setSome .null "username" .str input.username
  let data := setSome data "email" .str input.email
  let data := setSome data "role" .str input.role
  let data := setSome data "profilePicture" .str input.profilePicture
  let data := setSome data "bio" .str input.bio
  let data := setSome data "tenantId" .str input.tenantId
  let data := setSome data "isInstanceOwner" .bool input.isInstanceOwner
  let data := setSome data "passwordChangeTimestamp" .int input.passwordChangeTimestamp
  setSome data "firstLogin" .bool input.firstLogin

/-- `user_to_json`. -/
def userToJson (user : User) : Json :=
  let value := Json.obj [("id", .str user.id), ("tenantId", .str (user.tenantId.getD "")),
    ("username", .str user.username), ("email", .str user.email), ("role", .str user.role)]
  let value := setSome value "createdAt" .int user.createdAt
  let value := setSome value "profilePicture" .str user.profilePicture
  let value := setSome value "bio" .str user.bio
  let value := value.set "isInstanceOwner" (.bool (user.isInstanceOwner.getD false))
  let value := setSome value "passwordChangeTimestamp" .int user.passwordChangeTimestamp
  value.set "firstLogin" (.bool (user.firstLogin.getD false))

/-! ### Calls -/

/-- A call that the client makes to the adapter for the entity `User`. -/
inductive UserCall where
  | list (options : ListOptions)
  | read (id : String)
  | create (data : Json)
  | update (id : String) (data : Json)
  | remove (id : String)

/-- The answers to a call. -/
def UserCall.Answer : UserCall → Type
  | list _ => Except Thrown (Result ListResult)
  | read _ | create _ | update _ _ => Except Thrown (Result Json)
  | remove _ => Except Thrown (Result Bool)

/-- What runs on these calls. -/
abbrev UserRoutine := Routine UserCall UserCall.Answer

/-- A call, and its answer. -/
def ask (call : UserCall) : UserRoutine call.Answer := .call call .done

/-- An answer of the adapter, read. -/
def decoded {α β : Type} (read : β → Except JsonError α) :
    Except Thrown (Result β) → Except Thrown (Result α)
  | .ok (.ok b) => ((read b).map .ok).mapError .json
  | .ok (.error e) => .ok (.error e)
  | .error e => .error e

/-- `createUser`. -/
def createUser (input : CreateUserInput) : UserRoutine (Except Thrown (Result User)) := do
  return decoded userFromJson (← ask (.create (createUserToJson input)))

/-- What `getUser`, `updateUser` and `deleteUser` answer without an id. -/
def noId {α : Type} : Except Thrown (Result α) :=
  .ok (.error (.validationError "User ID cannot be empty"))

/-- `getUser`. -/
def getUser (id : String) : UserRoutine (Except Thrown (Result User)) :=
  if id = "" then pure noId else do return decoded userFromJson (← ask (.read id))

/-- `updateUser`. -/
def updateUser (id : String) (input : UpdateUserInput) : UserRoutine (Except Thrown (Result User)) :=
  if id = "" then pure noId
  else do return decoded userFromJson (← ask (.update id (updateUserToJson input)))

/-- `deleteUser`. -/
def deleteUser (id : String) : UserRoutine (Except Thrown (Result Bool)) :=
  if id = "" then pure noId else ask (.remove id)

/-- `listUsers`. -/
def listUsers (options : ListOptions) : UserRoutine (Except Thrown (Result (List User))) := do
  return decoded (·.items.mapM userFromJson) (← ask (.list options))

/-! ### Requests -/

/-- jsoncpp's `get(key, default)`. -/
def getOr (node : Json) (key : String) (default : Json) : Except JsonError Json :=
  match node with
  | .null => .ok default
  | .obj _ => .ok ((node.find? key).getD default)
  | _ => .error .logicError

/-- jsoncpp's `isInt`, with the `int` that `asInt` makes of the value. -/
def asInt? (node : Json) : Option Int :=
  let whole : Option Int := match node with
    | .int i => some i
    | .uint n => some n
    | .real mantissa exponent =>
        let i := Json.truncate mantissa exponent
        if node == Json.int i then some i else none
    | _ => none
  whole.filter fun i => decide (-2 ^ 31 ≤ i) && decide (i < 2 ^ 31)

/-- `normalize_role`. -/
def normalizeRole (role : String) : String :=
  let value := toLower role
  if value ∈ ["admin", "god", "supergod", "moderator", "public"] then value else "user"

/-- What a request is answered with. -/
inductive RpcData where
  | user (u : User)
  | users (us : List User) (page limit : Int)
  | deleted (existed : Bool)

/-- The body of the data, by `user_to_json` and `list_response_value`. -/
def RpcData.toJson : RpcData → Json
  | .user u => userToJson u
  | .users us page limit => .obj [("data", .arr (us.map userToJson)), ("total", .int us.length),
      ("page", .int page), ("limit", .int limit), ("hasMore", .bool false)]
  | .deleted existed => .obj [("deleted", .bool existed)]

/-- How a request fails; what is thrown is not caught. -/
inductive RpcFailure where
  | tooLarge
  | error (message : String) (status : Nat)
  | thrown (e : Thrown)

/-- The end of a request. -/
abbrev RpcReply := Except RpcFailure RpcData

/-- The status and the body of a response. -/
def response : RpcReply → Option (Nat × Json)
  | .error .tooLarge =>
      some (413, .obj [("success", .bool false), ("error", .str "Request body too large")])
  | .error (.error message status) =>
      some (status, .obj [("success", .bool false), ("message", .str message)])
  | .error (.thrown _) => none
  | .ok data => some (200, .obj [("success", .bool true), ("data", data.toJson)])

/-- A request: the length of its body, and the body or what the reader has against it. -/
structure RpcBody where
  size : Nat
  parsed : Except String Json

/-- What is read of a request before its action. -/
structure RpcRequest where
  entity : String
  action : String
  payload : Json
  options : Json
  tenantId : String

section

variable (formatReal : Int → Int → String)

/-- `get(key, default).asString()`. -/
def getText (node : Json) (key : String) (default : Json) : Except RpcFailure String :=
  ((getOr node key default).bind (·.asString formatReal)).mapError fun e => .thrown (.json e)

/-- `get(key, default)`, in a handler. -/
def getNode (node : Json) (key : String) (default : Json) : Except RpcFailure Json :=
  (getOr node key default).mapError fun e => .thrown (.json e)

/-- What `handleRpc` reads before it looks at the action. -/
def readRequest (body : RpcBody) : Except RpcFailure RpcRequest := do
  if body.size > 10 * 1024 * 1024 then throw .tooLarge
  let request ← body.parsed.mapError fun errs => .error ("Invalid JSON payload: " ++ errs) 400
  let entity ← getText formatReal request "entity" (.str "")
  let action ← getText formatReal request "action" (← getNode request "method" (.str ""))
  if entity = "" ∨ action = "" then throw (.error "Both entity and action are required" 400)
  let payload ← getNode request "payload" (.obj [])
  let options ← getNode request "options" (.obj [])
  let tenantId ← getText formatReal request "tenantId" (← getNode payload "tenantId" (.str ""))
  if toLower entity ≠ "user" then throw (.error ("Unsupported entity: " ++ entity) 400)
  return ⟨entity, toLower action, payload, options, tenantId⟩

/-- The texts under the members of an object, put into a map. -/
def textMap (json : Json) : Except JsonError (Std.TreeMap String String) :=
  json.fields.toList.foldlM (fun texts member => do
    return texts.insert member.1 (← member.2.asString formatReal)) ∅

/-- `list_options_from_json`. -/
def listOptionsFromJson (json : Json) : Except JsonError ListOptions := do
  if json.isNull then return {}
  if !json.isObject then throw .logicError
  let textsOf (key : String) : Except JsonError (Std.TreeMap String String) :=
    match json.find? key with
    | some (.obj members) => textMap formatReal (.obj members)
    | _ => .ok ∅
  let filter ← textsOf "filter"
  let sort ← textsOf "sort"
  return {
    page := ((json.find? "page").bind asInt?).getD 1
    limit := ((json.find? "limit").bind asInt?).getD 20
    filter, sort }

/-! ### Actions -/

/-- `send_error`. -/
def sendError (message : String) (status : Nat) : UserRoutine RpcReply :=
  pure (.error (.error message status))

/-- An answer of the client: an error is the end of the request. -/
def onResult {α : Type} (answer : Except Thrown (Result α)) (next : α → UserRoutine RpcReply) :
    UserRoutine RpcReply :=
  match answer with
  | .error e => pure (.error (.thrown e))
  | .ok (.error e) => sendError e.message e.code.status
  | .ok (.ok a) => next a

/-- `handle_user_list`. -/
def handleUserList (tenantId : String) (options : Json) : UserRoutine RpcReply :=
  if tenantId = "" then sendError "Tenant ID is required" 400
  else
    match listOptionsFromJson formatReal options with
    | .error e => pure (.error (.thrown (.json e)))
    | .ok listOptions => do
        let listOptions :=
          { listOptions with filter := listOptions.filter.insert "tenantId" tenantId }
        onResult (← listUsers listOptions) fun users =>
          pure (.ok (.users users listOptions.page listOptions.limit))

/-- What reading, updating and deleting begin with: the user must be there, and be the tenant's. -/
def withOwnUser (tenantId id missing : String) (next : User → UserRoutine RpcReply) :
    UserRoutine RpcReply :=
  if tenantId = "" then sendError "Tenant ID is required" 400
  else if id = "" then sendError missing 400
  else do
    onResult (← getUser id) fun user =>
      if user.tenantId ≠ some tenantId then sendError "User not found" 404 else next user

/-- `handle_user_read`. -/
def handleUserRead (tenantId id : String) : UserRoutine RpcReply :=
  withOwnUser tenantId id "ID is required for read operations" fun user =>
    pure (.ok (.user user))

/-- The text under `key`, if it is one. -/
def textMember (payload : Json) (key : String) : Option String :=
  match payload.find? key with
  | some (.str text) => some text
  | _ => none

/-- `handle_user_create`. -/
def handleUserCreate (tenantId : String) (payload : Json) : UserRoutine RpcReply :=
  if tenantId = "" then sendError "Tenant ID is required" 400
  else
    match getText formatReal payload "username" (.str ""), getText formatReal payload "email" (.str "") with
    | .error e, _ | _, .error e => pure (.error e)
    | .ok username, .ok email =>
        if username = "" ∨ email = "" then
          sendError "Username and email are required for creation" 400
        else do
          let role := ((textMember payload "role").map normalizeRole).getD ""
          onResult (← createUser { tenantId := some tenantId, username, email, role }) fun user =>
            pure (.ok (.user user))

/-- `handle_user_update`. -/
def handleUserUpdate (tenantId id : String) (payload : Json) : UserRoutine RpcReply :=
  withOwnUser tenantId id "ID is required for updates" fun _ =>
    let username := textMember payload "username"
    let email := textMember payload "email"
    let role := (textMember payload "role").map normalizeRole
    if username.isNone && email.isNone && role.isNone then
      sendError "At least one update field must be provided" 400
    else do
      onResult (← updateUser id { username, email, role }) fun user => pure (.ok (.user user))

/-- `handle_user_delete`. -/
def handleUserDelete (tenantId id : String) : UserRoutine RpcReply :=
  withOwnUser tenantId id "ID is required for delete operations" fun _ => do
    onResult (← deleteUser id) fun deleted => pure (.ok (.deleted deleted))

/-- The action of a request. -/
def dispatch (request : RpcRequest) : UserRoutine RpcReply :=
  if request.action = "list" then handleUserList formatReal request.tenantId request.options
  else
    match getText formatReal request.payload "id" (.str "") with
    | .error e => pure (.error e)
    | .ok id =>
        if request.action ∈ ["get", "read"] then
          if id = "" then sendError "ID is required for read operations" 400
          else handleUserRead request.tenantId id
        else if request.action = "create" then
          handleUserCreate formatReal request.tenantId request.payload
        else if request.action = "update" then handleUserUpdate request.tenantId id request.payload
        else if request.action ∈ ["delete", "remove"] then handleUserDelete request.tenantId id
        else sendError ("Unsupported action: " ++ request.action) 400

/-- `handleRpc`. -/
def handleRpc (body : RpcBody) : UserRoutine RpcReply :=
  match readRequest formatReal body with
  | .error e => pure (.error e)
  | .ok request => dispatch formatReal request

end

/-! ### The stored users -/

/-- The tenant of a row. -/
def rowTenant (row : Json) : Option String := textMember row "tenantId"

/-- The rows of `User` by their ids, and all ids that were ever given to one. -/
structure Users where
  rows : Std.TreeMap String Json
  given : List String
  known : ∀ {id : String} {row : Json}, rows[id]? = some row → id ∈ given

/-- The row has the texts of the data. -/
def HasTexts (data row : Json) : Prop :=
  ∀ key text, data.find? key = some (.str text) → row.find? key = some (.str text)

namespace Users

/-- A new row has an id that none has or had. -/
def Creates (s : Users) (data row : Json) (s' : Users) : Prop :=
  ∃ id, id ∉ s.given ∧ HasTexts data row ∧ s'.rows = s.rows.insert id row ∧ s'.given = id :: s.given

/-- A row that is there takes over the data. -/
def Updates (s : Users) (id : String) (data row : Json) (s' : Users) : Prop :=
  ∃ old, s.rows[id]? = some old ∧ HasTexts data row ∧
    (∀ key, ¬ Generated key → data.find? key = none → row.find? key = old.find? key) ∧
    s'.rows = s.rows.insert id row ∧ s'.given = s.given

/-- A row is gone, and its id stays given. -/
def Removes (s : Users) (id : String) (s' : Users) : Prop :=
  s'.rows = s.rows.erase id ∧ s'.given = s.given

/-- A call that reads. -/
def Reads {α : Type} (s s' : Users) (found : α → Prop) : Except Thrown (Result α) → Prop
  | .ok (.ok a) => found a ∧ s' = s
  | _ => s' = s

/-- A call that writes: where it fails, it may have been carried out. -/
def Writes {α : Type} (s s' : Users) (written : α → Prop) : Except Thrown (Result α) → Prop
  | .ok (.ok a) => written a
  | _ => s' = s ∨ ∃ a, written a

/-- How the adapter may answer. -/
def answers : (call : UserCall) → Users → call.Answer → Users → Prop
  | .list options, s, o, s' => s.Reads s' (fun result => ∀ item ∈ result.items,
      (∃ id : String, s.rows[id]? = some item) ∧
      ∀ tenant, options.filter["tenantId"]? = some tenant → rowTenant item = some tenant) o
  | .read id, s, o, s' => s.Reads s' (fun row => s.rows[id]? = some row) o
  | .create data, s, o, s' => s.Writes s' (fun row => s.Creates data row s') o
  | .update id data, s, o, s' => s.Writes s' (fun row => s.Updates id data row s') o
  | .remove id, s, o, s' => s.Writes s' (fun _ => s.Removes id s') o

/-- No row is moved to another tenant, and no id is given again. -/
structure Keeps (s s' : Users) : Prop where
  given : ∀ {id}, id ∈ s.given → id ∈ s'.given
  rows : ∀ {id : String} {row'}, s'.rows[id]? = some row' → id ∈ s.given →
    ∃ row, s.rows[id]? = some row ∧ rowTenant row = rowTenant row'

/-- The rows of all but one tenant are the same. -/
def SameBut (tenant : String) (s s' : Users) : Prop :=
  ∀ (id : String) row, rowTenant row ≠ some tenant → (s.rows[id]? = some row ↔ s'.rows[id]? = some row)

end Users

/-- The users, with what the rest of the program does to them. -/
def users (rest : Users → Users → Prop) : SharedState UserCall UserCall.Answer Users where
  answers := Users.answers
  drifts := rest

/-! ### What a call does -/

/-- The tenant of a user is that of the row. -/
theorem tenantId_of_userFromJson {row : Json} {user : User} (h : userFromJson row = .ok user) :
    user.tenantId = rowTenant row := by
  unfold userFromJson at h
  obtain ⟨_, -, h⟩ := bind_ok_iff.1 h
  obtain ⟨_, -, h⟩ := bind_ok_iff.1 h
  obtain ⟨_, -, h⟩ := bind_ok_iff.1 h
  obtain ⟨_, -, h⟩ := bind_ok_iff.1 h
  obtain ⟨_, -, h⟩ := bind_ok_iff.1 h
  obtain ⟨_, -, h⟩ := bind_ok_iff.1 h
  obtain ⟨_, -, h⟩ := bind_ok_iff.1 h
  obtain ⟨tenantId, htenant, h⟩ := bind_ok_iff.1 h
  obtain ⟨_, -, h⟩ := bind_ok_iff.1 h
  obtain ⟨_, -, h⟩ := bind_ok_iff.1 h
  obtain ⟨_, -, h⟩ := bind_ok_iff.1 h
  cases h
  show tenantId = textMember row "tenantId"
  unfold present at htenant
  unfold textMember
  rcases hfind : row.find? "tenantId" with _ | value
  · rw [hfind] at htenant
    cases htenant
    rfl
  · rw [hfind] at htenant
    cases value <;> cases htenant <;> rfl

theorem rowTenant_eq {row : Json} {tenant : String} :
    rowTenant row = some tenant ↔ row.find? "tenantId" = some (.str tenant) := by
  unfold rowTenant textMember
  rcases row.find? "tenantId" with _ | value
  · simp
  · cases value <;> simp

/-- A row has the tenant that its data name. -/
theorem HasTexts.rowTenant {data row : Json} {tenant : String} (h : HasTexts data row)
    (hdata : rowTenant data = some tenant) : rowTenant row = some tenant :=
  rowTenant_eq.2 (h _ _ (rowTenant_eq.1 hdata))

namespace Users

variable {s s' : Users} {data row : Json} {id tenant : String}

theorem Keeps.refl (s : Users) : s.Keeps s := ⟨fun h => h, fun hrow _ => ⟨_, hrow, rfl⟩⟩

theorem Creates.keeps (h : s.Creates data row s') : s.Keeps s' := by
  obtain ⟨new, hnew, -, hrows, hgiven⟩ := h
  constructor
  · intro id hid
    rw [hgiven]
    exact List.mem_cons_of_mem new hid
  · intro id row' hrow' hid
    rw [hrows, getElem?_insert_eq, if_neg fun heq : new = id => hnew (heq ▸ hid)] at hrow'
    exact ⟨row', hrow', rfl⟩

theorem Updates.rowTenant_eq {old : Json} (h : s.Updates id data row s')
    (hdata : data.find? "tenantId" = none) (hold : s.rows[id]? = some old) :
    rowTenant row = rowTenant old := by
  obtain ⟨old', hold', -, hkept, -⟩ := h
  obtain rfl : old = old' := Option.some.inj (hold.symm.trans hold')
  have hfind : row.find? "tenantId" = old.find? "tenantId" := hkept _ (by simp [Generated]) hdata
  unfold rowTenant textMember
  rw [hfind]

theorem Updates.keeps (h : s.Updates id data row s') (hdata : data.find? "tenantId" = none) :
    s.Keeps s' := by
  have ⟨old, hold, _, _, hrows, hgiven⟩ := h
  constructor
  · intro id' hid
    rwa [hgiven]
  · intro id' row' hrow' hid
    rw [hrows, getElem?_insert_eq] at hrow'
    split_ifs at hrow' with heq
    · obtain rfl := heq
      obtain rfl := Option.some.inj hrow'
      exact ⟨old, hold, (h.rowTenant_eq hdata hold).symm⟩
    · exact ⟨row', hrow', rfl⟩

theorem Removes.keeps (h : s.Removes id s') : s.Keeps s' := by
  obtain ⟨hrows, hgiven⟩ := h
  constructor
  · intro id' hid
    rwa [hgiven]
  · intro id' row' hrow' hid
    rw [hrows, getElem?_erase_eq] at hrow'
    split_ifs at hrow'
    exact ⟨row', hrow', rfl⟩

/-! The rows of others -/

theorem SameBut.refl (s : Users) : s.SameBut tenant s := fun _ _ _ => Iff.rfl

theorem Creates.sameBut (h : s.Creates data row s') (hdata : rowTenant data = some tenant) :
    s.SameBut tenant s' := by
  obtain ⟨new, hnew, htexts, hrows, -⟩ := h
  intro id row' hother
  rw [hrows, getElem?_insert_eq]
  split_ifs with heq
  · obtain rfl := heq
    constructor
    · exact fun hrow' => absurd (s.known hrow') hnew
    · rintro ⟨⟩
      exact absurd (htexts.rowTenant hdata) hother
  · exact Iff.rfl

theorem Updates.sameBut {old : Json} (h : s.Updates id data row s')
    (hdata : data.find? "tenantId" = none) (hold : s.rows[id]? = some old)
    (htenant : rowTenant old = some tenant) : s.SameBut tenant s' := by
  have hrow : rowTenant row = some tenant := (h.rowTenant_eq hdata hold).trans htenant
  obtain ⟨-, -, -, -, hrows, -⟩ := h
  intro id' row' hother
  rw [hrows, getElem?_insert_eq]
  split_ifs with heq
  · obtain rfl := heq
    rw [hold]
    constructor
    · rintro ⟨⟩
      exact absurd htenant hother
    · rintro ⟨⟩
      exact absurd hrow hother
  · exact Iff.rfl

theorem Removes.sameBut (h : s.Removes id s')
    (htenant : ∀ old, s.rows[id]? = some old → rowTenant old = some tenant) :
    s.SameBut tenant s' := by
  intro id' row' hother
  rw [h.1, getElem?_erase_eq]
  split_ifs with heq
  · obtain rfl := heq
    constructor
    · exact fun hrow' => absurd (htenant row' hrow') hother
    · rintro ⟨⟩
  · exact Iff.rfl

theorem Reads.eq {α : Type} {found : α → Prop} {o : Except Thrown (Result α)}
    (h : s.Reads s' found o) : s' = s := by
  rcases o with _ | _ | _
  · exact h
  · exact h
  · exact h.2

theorem Writes.cases {α : Type} {written : α → Prop} {o : Except Thrown (Result α)}
    (h : s.Writes s' written o) : s' = s ∨ ∃ a, written a := by
  rcases o with _ | _ | a
  · exact h
  · exact h
  · exact .inr ⟨a, h⟩

/-- An answered call leaves the rows alone, or it writes what it asks for. -/
theorem cases_of_answers {call : UserCall} {answer : call.Answer} (h : answers call s answer s') :
    s' = s ∨ (∃ data row, call = .create data ∧ s.Creates data row s') ∨
      (∃ id data row, call = .update id data ∧ s.Updates id data row s') ∨
      ∃ id, call = .remove id ∧ s.Removes id s' := by
  cases call with
  | list options => exact .inl (Reads.eq h)
  | read id => exact .inl (Reads.eq h)
  | create data =>
      rcases Writes.cases h with heq | ⟨row, hcreates⟩
      · exact .inl heq
      · exact .inr (.inl ⟨data, row, rfl, hcreates⟩)
  | update id data =>
      rcases Writes.cases h with heq | ⟨row, hupdates⟩
      · exact .inl heq
      · exact .inr (.inr (.inl ⟨id, data, row, rfl, hupdates⟩))
  | remove id =>
      rcases Writes.cases h with heq | ⟨_, hremoves⟩
      · exact .inl heq
      · exact .inr (.inr (.inr ⟨id, rfl, hremoves⟩))

end Users

/-! ### What is sent and what is read -/

theorem find?_setSome {α : Type} {key k : String} (h : key ≠ k) (data : Json) (json : α → Json)
    (value : Option α) : (setSome data key json value).find? k = data.find? k := by
  cases value with
  | none => rfl
  | some a => exact (Json.find?_set data key k (json a)).trans (if_neg h)

theorem rowTenant_createUserToJson {input : CreateUserInput} {tenant : String}
    (h : input.tenantId = some tenant) : rowTenant (createUserToJson input) = some tenant := by
  rw [rowTenant_eq]
  unfold createUserToJson
  simp only [find?_setSome (k := "tenantId"), ne_eq, String.reduceEq, not_false_eq_true]
  rw [h]
  exact (Json.find?_set _ _ _ _).trans (if_pos rfl)

/-- The requests put no tenant into an update. -/
theorem find?_updateUserToJson (username email role : Option String) :
    (updateUserToJson { username, email, role }).find? "tenantId" = none := by
  show (setSome (setSome (setSome .null "username" .str username) "email" .str email) "role" .str
    role).find? "tenantId" = none
  rw [find?_setSome (by decide), find?_setSome (by decide), find?_setSome (by decide)]
  rfl

theorem exists_of_decoded {α β : Type} {read : β → Except JsonError α}
    {answer : Except Thrown (Result β)} {a : α} (h : decoded read answer = .ok (.ok a)) :
    ∃ b, answer = .ok (.ok b) ∧ read b = .ok a := by
  rcases answer with e | e | b
  · cases h
  · cases h
  · refine ⟨b, rfl, ?_⟩
    change ((read b).map Except.ok).mapError Thrown.json = Except.ok (.ok a) at h
    rcases hread : read b with e | a'
    · rw [hread] at h
      cases h
    · rw [hread] at h
      cases h
      rfl

theorem exists_row_of_mapM {rows : List Json} {us : List User} {user : User}
    (h : rows.mapM userFromJson = .ok us) (hmem : user ∈ us) :
    ∃ row ∈ rows, userFromJson row = .ok user := by
  induction rows generalizing us with
  | nil =>
      cases h
      exact absurd hmem List.not_mem_nil
  | cons row rows ih =>
      rw [List.mapM_cons] at h
      obtain ⟨first, hfirst, h⟩ := bind_ok_iff.1 h
      obtain ⟨rest, hrest, h⟩ := bind_ok_iff.1 h
      cases h
      rcases List.mem_cons.1 hmem with rfl | hmem
      · exact ⟨row, List.mem_cons_self, hfirst⟩
      · obtain ⟨row', hrow', huser⟩ := ih hrest hmem
        exact ⟨row', List.mem_cons_of_mem row hrow', huser⟩

/-! ### Why a request makes its calls -/

/-- The tenant of a request, where it is read. -/
def requestTenant (formatReal : Int → Int → String) (body : RpcBody) : String :=
  match readRequest formatReal body with
  | .ok request => request.tenantId
  | .error _ => ""

/-- A user of the tenant was found under the id. -/
def Found (tenant : String) (heard : Heard UserCall.Answer) (id : String) : Prop :=
  ∃ row, ⟨.read id, .ok (.ok row)⟩ ∈ heard ∧ rowTenant row = some tenant

/-- A call that a request of the tenant makes. -/
def UserCall.Within (tenant : String) (heard : Heard UserCall.Answer) : UserCall → Prop
  | list options => options.filter["tenantId"]? = some tenant
  | read _ => True
  | create data => rowTenant data = some tenant
  | update id data => data.find? "tenantId" = none ∧ Found tenant heard id
  | remove id => Found tenant heard id

/-- The rows that a call has listed or written. -/
def UserCall.rowsOf : (call : UserCall) → call.Answer → List Json
  | list _, .ok (.ok result) => result.items
  | create _, .ok (.ok row) | update _ _, .ok (.ok row) => [row]
  | _, _ => []

/-- The users of a reply. -/
def shownUsers : RpcReply → List User
  | .ok (.user u) => [u]
  | .ok (.users us _ _) => us
  | _ => []

/-- Each user of the reply is the tenant's, or was listed or written. -/
def Shown (tenant : String) (heard : Heard UserCall.Answer) (reply : RpcReply) : Prop :=
  ∀ user ∈ shownUsers reply, user.tenantId = some tenant ∨
    ∃ answered ∈ heard, ∃ row ∈ answered.1.rowsOf answered.2, userFromJson row = .ok user

section

variable {tenant : String} {heard : Heard UserCall.Answer} {α : Type}

/-- A request that is over without users. -/
theorem meets_pure {reply : RpcReply} (h : shownUsers reply = []) :
    Meets (UserCall.Within tenant) (Shown tenant) heard (pure reply) := by
  intro user hmem
  rw [h] at hmem
  exact absurd hmem List.not_mem_nil

theorem meets_onResult {answer : Except Thrown (Result α)} {next : α → UserRoutine RpcReply}
    (h : ∀ a, answer = .ok (.ok a) →
      Meets (UserCall.Within tenant) (Shown tenant) heard (next a)) :
    Meets (UserCall.Within tenant) (Shown tenant) heard (onResult answer next) := by
  rcases answer with e | e | a
  · exact meets_pure rfl
  · exact meets_pure rfl
  · exact h a rfl

theorem meets_withOwnUser {id missing : String} {next : User → UserRoutine RpcReply}
    (hnext : ∀ user heard', Found tenant heard' id → user.tenantId = some tenant →
      Meets (UserCall.Within tenant) (Shown tenant) heard' (next user)) :
    Meets (UserCall.Within tenant) (Shown tenant) heard
      (withOwnUser tenant id missing next) := by
  unfold withOwnUser
  split_ifs with htenant hid
  · exact meets_pure rfl
  · exact meets_pure rfl
  unfold getUser
  rw [if_neg hid]
  refine ⟨trivial, fun answer => meets_onResult fun user huser => ?_⟩
  split_ifs with hown
  · exact meets_pure rfl
  · rw [not_not] at hown
    obtain ⟨row, rfl, hrow⟩ := exists_of_decoded huser
    refine hnext user _ ⟨row, List.mem_append_right _ List.mem_cons_self, ?_⟩ hown
    rw [← tenantId_of_userFromJson hrow, hown]

theorem meets_handleUserRead (id : String) :
    Meets (UserCall.Within tenant) (Shown tenant) heard (handleUserRead tenant id) := by
  refine meets_withOwnUser fun user heard' _ hown => ?_
  intro user' hmem
  obtain rfl := List.mem_singleton.1 hmem
  exact .inl hown

/-- A reply with the user that a call has written. -/
theorem shown_written (call : UserCall) (answer : call.Answer) {row : Json} {user : User}
    (hrow : row ∈ call.rowsOf answer) (huser : userFromJson row = .ok user) :
    Shown tenant (heard ++ [⟨call, answer⟩]) (.ok (.user user)) := by
  intro user' hmem
  obtain rfl := List.mem_singleton.1 hmem
  exact .inr ⟨_, List.mem_append_right _ List.mem_cons_self, row, hrow, huser⟩

theorem meets_handleUserUpdate (id : String) (payload : Json) :
    Meets (UserCall.Within tenant) (Shown tenant) heard
      (handleUserUpdate tenant id payload) := by
  refine meets_withOwnUser fun _ heard' hfound _ => ?_
  dsimp only
  split_ifs
  · exact meets_pure rfl
  unfold updateUser
  split_ifs
  · exact meets_pure rfl
  refine ⟨⟨find?_updateUserToJson _ _ _, hfound⟩, fun answer => meets_onResult fun user huser => ?_⟩
  obtain ⟨row, rfl, hrow⟩ := exists_of_decoded huser
  exact shown_written (.update _ _) (.ok (.ok row)) List.mem_cons_self hrow

theorem meets_handleUserDelete (id : String) :
    Meets (UserCall.Within tenant) (Shown tenant) heard (handleUserDelete tenant id) := by
  refine meets_withOwnUser fun _ heard' hfound _ => ?_
  rcases eq_or_ne id "" with rfl | hid
  · exact meets_pure rfl
  have hask : deleteUser id = ask (.remove id) := if_neg hid
  rw [hask]
  exact ⟨hfound, fun answer => meets_onResult fun _ _ => meets_pure rfl⟩

variable {formatReal : Int → Int → String}

theorem meets_handleUserCreate (payload : Json) :
    Meets (UserCall.Within tenant) (Shown tenant) heard
      (handleUserCreate formatReal tenant payload) := by
  unfold handleUserCreate
  split_ifs
  · exact meets_pure rfl
  split
  · exact meets_pure rfl
  · exact meets_pure rfl
  · split_ifs
    · exact meets_pure rfl
    refine ⟨rowTenant_createUserToJson rfl, fun answer => meets_onResult fun user huser => ?_⟩
    obtain ⟨row, rfl, hrow⟩ := exists_of_decoded huser
    exact shown_written (.create _) (.ok (.ok row)) List.mem_cons_self hrow

theorem meets_handleUserList (options : Json) :
    Meets (UserCall.Within tenant) (Shown tenant) heard
      (handleUserList formatReal tenant options) := by
  unfold handleUserList
  split_ifs
  · exact meets_pure rfl
  split
  · exact meets_pure rfl
  · refine ⟨?_, fun answer => meets_onResult fun us hus => ?_⟩
    · show (Std.TreeMap.insert _ _ _)["tenantId"]? = some tenant
      rw [getElem?_insert_eq, if_pos rfl]
    · intro user hmem
      obtain ⟨result, rfl, hmap⟩ := exists_of_decoded hus
      obtain ⟨row, hrow, huser⟩ := exists_row_of_mapM hmap hmem
      exact .inr ⟨_, List.mem_append_right _ List.mem_cons_self, row, hrow, huser⟩

theorem meets_dispatch (request : RpcRequest) :
    Meets (UserCall.Within request.tenantId) (Shown request.tenantId) heard
      (dispatch formatReal request) := by
  unfold dispatch
  by_cases hlist : request.action = "list"
  · rw [if_pos hlist]
    exact meets_handleUserList request.options
  rw [if_neg hlist]
  rcases getText formatReal request.payload "id" (.str "") with e | id
  · exact meets_pure rfl
  dsimp only
  split_ifs
  · exact meets_pure rfl
  · exact meets_handleUserRead id
  · exact meets_handleUserCreate request.payload
  · exact meets_handleUserUpdate id request.payload
  · exact meets_handleUserDelete id
  · exact meets_pure rfl

/-- **All calls of a request are its tenant's**, and so are the users that it is answered with. -/
theorem meets_handleRpc (body : RpcBody) :
    Meets (UserCall.Within (requestTenant formatReal body))
      (Shown (requestTenant formatReal body)) heard (handleRpc formatReal body) := by
  unfold handleRpc requestTenant
  rcases readRequest formatReal body with e | request
  · exact meets_pure rfl
  · exact meets_dispatch request

end

/-! ### Every order of the calls -/

/-- What requests have read is the same tenant's for ever, and what they have listed or written is
their own tenant's. -/
structure Confined {Thread : Type} (tenant : Thread → String)
    (events : List (ThreadCall Thread UserCall UserCall.Answer)) (s : Users) : Prop where
  read : ∀ {t id row}, ⟨t, .read id, .ok (.ok row)⟩ ∈ events →
    id ∈ s.given ∧ ∀ row', s.rows[id]? = some row' → rowTenant row' = rowTenant row
  shown : ∀ {e}, e ∈ events →
    ∀ row ∈ e.request.rowsOf e.answer, rowTenant row = some (tenant e.thread)

section

variable {Thread : Type} [DecidableEq Thread] {tenant : Thread → String}
  {events : List (ThreadCall Thread UserCall UserCall.Answer)} {s s' : Users} {t : Thread}

omit [DecidableEq Thread] in
theorem Confined.keeps (h : Confined tenant events s) (hkeeps : s.Keeps s') :
    Confined tenant events s' where
  read hmem := by
    obtain ⟨hgiven, hsame⟩ := h.read hmem
    refine ⟨hkeeps.given hgiven, fun row' hrow' => ?_⟩
    obtain ⟨row, hrow, htenant⟩ := hkeeps.rows hrow' hgiven
    exact htenant.symm.trans (hsame row hrow)
  shown := h.shown

/-- Who was found under an id has it still, or nobody has. -/
theorem Confined.found (h : Confined tenant events s) {id : String}
    (hfound : Found (tenant t) (heardBy t events) id) {row : Json} (hrow : s.rows[id]? = some row) :
    rowTenant row = some (tenant t) := by
  obtain ⟨read, hmem, htenant⟩ := hfound
  exact ((h.read (mem_heardBy.1 hmem)).2 row hrow).trans htenant

theorem keeps_of_answers {name : String} {heard : Heard UserCall.Answer} {call : UserCall}
    {answer : call.Answer} (hwithin : call.Within name heard)
    (h : Users.answers call s answer s') : s.Keeps s' := by
  rcases Users.cases_of_answers h with rfl | ⟨data, row, rfl, hcreates⟩ |
    ⟨id, data, row, rfl, hupdates⟩ | ⟨id, rfl, hremoves⟩
  · exact .refl s'
  · exact hcreates.keeps
  · exact hupdates.keeps hwithin.1
  · exact hremoves.keeps

/-- What a call lists or writes is its tenant's. -/
theorem Confined.rows (h : Confined tenant events s) {call : UserCall} {answer : call.Answer}
    (hwithin : call.Within (tenant t) (heardBy t events)) (hanswer : Users.answers call s answer s') :
    ∀ row ∈ call.rowsOf answer, rowTenant row = some (tenant t) := by
  intro row hrow
  cases call with
  | list options =>
      rcases answer with _ | _ | result
      · exact absurd hrow List.not_mem_nil
      · exact absurd hrow List.not_mem_nil
      · exact (hanswer.1 row hrow).2 _ hwithin
  | create data =>
      rcases answer with _ | _ | created
      · exact absurd hrow List.not_mem_nil
      · exact absurd hrow List.not_mem_nil
      · obtain rfl := List.mem_singleton.1 hrow
        obtain ⟨_, -, htexts, -⟩ := hanswer
        exact htexts.rowTenant hwithin
  | update id data =>
      rcases answer with _ | _ | updated
      · exact absurd hrow List.not_mem_nil
      · exact absurd hrow List.not_mem_nil
      · obtain rfl := List.mem_singleton.1 hrow
        have hupdates : s.Updates id data row s' := hanswer
        obtain ⟨old, hold, -⟩ := hanswer
        exact (hupdates.rowTenant_eq hwithin.1 hold).trans (h.found hwithin.2 hold)
  | read id => exact absurd hrow List.not_mem_nil
  | remove id => exact absurd hrow List.not_mem_nil

theorem Confined.answer (h : Confined tenant events s) {call : UserCall} {answer : call.Answer}
    (hwithin : call.Within (tenant t) (heardBy t events)) (hanswer : Users.answers call s answer s') :
    Confined tenant (events ++ [⟨t, call, answer⟩]) s' where
  read hmem := by
    rcases List.mem_append.1 hmem with hmem | hmem
    · exact (h.keeps (keeps_of_answers hwithin hanswer)).read hmem
    · cases List.mem_singleton.1 hmem
      obtain ⟨hrow, rfl⟩ := hanswer
      refine ⟨s'.known hrow, fun row' hrow' => ?_⟩
      rw [Option.some.inj (hrow'.symm.trans hrow)]
  shown hmem := by
    rcases List.mem_append.1 hmem with hmem | hmem
    · exact h.shown hmem
    · cases List.mem_singleton.1 hmem
      exact h.rows hwithin hanswer

variable {formatReal : Int → Int → String} {rest : Users → Users → Prop} {bodies : Thread → RpcBody}
  {start : Users}

theorem confined (hrest : ∀ {s s'}, rest s s' → s.Keeps s')
    (h : Interleaved (users rest) (fun t => handleRpc formatReal (bodies t)) start events s) :
    Confined (fun t => requestTenant formatReal (bodies t)) events s := by
  have hmeets : ∀ t, Meets (UserCall.Within (requestTenant formatReal (bodies t))) (fun _ _ => True) []
      (handleRpc formatReal (bodies t)) :=
    fun t => (meets_handleRpc (bodies t)).mono fun _ _ _ _ => trivial
  refine h.induction hmeets ⟨?_, ?_⟩ (fun hinv hdrift => hinv.keeps (hrest hdrift))
    fun hinv hallowed hanswer => hinv.answer hallowed hanswer
  · exact fun hmem => absurd hmem List.not_mem_nil
  · exact fun hmem => absurd hmem List.not_mem_nil

/-! A tenant updates its user, and another one asks for that user in between. -/

def sampleUser (id tenantId email : String) : Json :=
  .obj [("id", .str id), ("username", .str id), ("email", .str email), ("role", .str "user"),
    ("tenantId", .str tenantId)]

def sampleBodies : Bool → RpcBody
  | true => ⟨120, .ok (.obj [("entity", .str "User"), ("action", .str "update"),
      ("tenantId", .str "acme"), ("payload", .obj [("id", .str "u1"), ("email", .str "new@mail")])])⟩
  | false => ⟨90, .ok (.obj [("entity", .str "user"), ("action", .str "get"),
      ("tenantId", .str "beta"), ("payload", .obj [("id", .str "u1")])])⟩

def sampleUsers : Users where
  rows := .insert (.insert ∅ "u1" (sampleUser "u1" "acme" "old@mail")) "u2"
    (sampleUser "u2" "beta" "two@mail")
  given := ["u2", "u1"]
  known := by
    intro id row h
    rw [getElem?_insert_eq, getElem?_insert_eq] at h
    split_ifs at h with hu2 hu1
    · exact hu2 ▸ by decide
    · exact hu1 ▸ by decide
    · cases h

def sampleUpdate : Json := updateUserToJson { email := some "new@mail" }

def sampleRow : Json := (sampleUser "u1" "acme" "old@mail").set "email" (.str "new@mail")

def sampleUpdated : Users where
  rows := sampleUsers.rows.insert "u1" sampleRow
  given := sampleUsers.given
  known := by
    intro id row h
    rw [getElem?_insert_eq] at h
    split_ifs at h with hu1
    · exact hu1 ▸ by decide
    · exact sampleUsers.known h

theorem sampleUsers_u1 : sampleUsers.rows["u1"]? = some (sampleUser "u1" "acme" "old@mail") := by
  show (Std.TreeMap.insert _ _ _)["u1"]? = _
  rw [getElem?_insert_eq, if_neg (by decide), getElem?_insert_eq, if_pos rfl]

theorem sampleUsers_answers : Users.answers (.update "u1" sampleUpdate) sampleUsers (.ok (.ok sampleRow))
    sampleUpdated := by
  show sampleUsers.Updates "u1" sampleUpdate sampleRow sampleUpdated
  have hdata : ∀ key, sampleUpdate.find? key = if "email" = key then some (.str "new@mail") else none :=
    fun key => Json.find?_set .null "email" key (.str "new@mail")
  refine ⟨_, sampleUsers_u1, fun key text htext => ?_, fun key _ hnone => ?_, rfl, rfl⟩
  · rw [hdata] at htext
    split_ifs at htext with hkey
    rw [sampleRow, Json.find?_set, if_pos hkey, htext]
  · rw [hdata] at hnone
    split_ifs at hnone with hkey
    rw [sampleRow, Json.find?_set, if_neg hkey]

/-- Both requests have read the user. -/
def sampleEvents : List (ThreadCall Bool UserCall UserCall.Answer) :=
  [⟨true, .read "u1", .ok (.ok (sampleUser "u1" "acme" "old@mail"))⟩,
    ⟨false, .read "u1", .ok (.ok (sampleUser "u1" "acme" "old@mail"))⟩]

theorem sample_run : Interleaved (users fun _ _ => False)
    (fun t => handleRpc (fun _ _ => "") (sampleBodies t)) sampleUsers sampleEvents sampleUsers := by
  have hread : Users.answers (.read "u1") sampleUsers
      (.ok (.ok (sampleUser "u1" "acme" "old@mail"))) sampleUsers := ⟨sampleUsers_u1, rfl⟩
  exact (Interleaved.start.answer (t := true) .start hread).answer (t := false) .start hread

/-- **A request changes users of its own tenant only.**  In every state that is reached, whatever call
it makes next and however that is answered, the rows of all other tenants stay as they are, though the
user was looked up some time before and the rest of the program has changed the rows since. -/
theorem rpc_rows_confined (hrest : ∀ {s s'}, rest s s' → s.Keeps s')
    (h : Interleaved (users rest) (fun t => handleRpc formatReal (bodies t)) start events s)
    {call : UserCall} {next : call.Answer → UserRoutine RpcReply}
    (hnext : After (handleRpc formatReal (bodies t)) (heardBy t events) (.call call next))
    {answer : call.Answer} (hanswer : Users.answers call s answer s') :
    s.SameBut (requestTenant formatReal (bodies t)) s' := by
  have hconfined := confined hrest h
  have hwithin : call.Within (requestTenant formatReal (bodies t)) (heardBy t events) :=
    ((meets_handleRpc (bodies t)).after hnext).1
  rcases Users.cases_of_answers hanswer with rfl | ⟨data, row, rfl, hcreates⟩ |
    ⟨id, data, row, rfl, hupdates⟩ | ⟨id, rfl, hremoves⟩
  · exact .refl s'
  · exact hcreates.sameBut hwithin
  · have ⟨old, hold, _⟩ := hupdates
    exact hupdates.sameBut hwithin.1 hold (hconfined.found hwithin.2 hold)
  · exact hremoves.sameBut fun old hold => hconfined.found hwithin hold

theorem sample_rows_confined : sampleUsers.SameBut "acme" sampleUpdated :=
  rpc_rows_confined (t := true) (fun h => h.elim) sample_run (.answer .start _) sampleUsers_answers

/-- **A request is answered with users of its own tenant only**, in every order of the calls. -/
theorem rpc_replies_own (hrest : ∀ {s s'}, rest s s' → s.Keeps s')
    (h : Interleaved (users rest) (fun t => handleRpc formatReal (bodies t)) start events s)
    {reply : RpcReply}
    (hend : After (handleRpc formatReal (bodies t)) (heardBy t events) (.done reply)) :
    ∀ user ∈ shownUsers reply, user.tenantId = some (requestTenant formatReal (bodies t)) := by
  intro user hmem
  have hshown : Shown (requestTenant formatReal (bodies t)) (heardBy t events) reply :=
    (meets_handleRpc (bodies t)).after hend
  rcases hshown user hmem with hown | ⟨answered, hanswered, row, hrow, huser⟩
  · exact hown
  · rw [tenantId_of_userFromJson huser]
    exact (confined hrest h).shown (mem_heardBy.1 hanswered) row hrow

theorem sample_replies_own : (shownUsers (.ok (.user ⟨"u1", "u1", "new@mail", "user", none, none,
    none, some "acme", none, none, none⟩))).all (·.tenantId == some "acme") := by
  have hrun : Interleaved (users fun _ _ => False)
      (fun t => handleRpc (fun _ _ => "") (sampleBodies t)) sampleUsers
      (sampleEvents ++ [⟨true, .update "u1" sampleUpdate, .ok (.ok sampleRow)⟩]) sampleUpdated :=
    sample_run.answer (.answer .start _) sampleUsers_answers
  have hstart : After (handleRpc (fun _ _ => "") (sampleBodies true)) []
      (handleRpc (fun _ _ => "") (sampleBodies true)) := .start
  have hread := After.answer hstart (.ok (.ok (sampleUser "u1" "acme" "old@mail")))
  have hend := After.answer hread (.ok (.ok sampleRow))
  rw [List.all_eq_true]
  intro user hmem
  exact beq_iff_eq.2 (rpc_replies_own (t := true) (fun h => h.elim) hrun hend user hmem)

end

end Rpc
end Daemon
end Dbal
