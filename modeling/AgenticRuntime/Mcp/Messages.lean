/-
The JSON-RPC messages of the MCP client and how a transport types an incoming one.
-/

import AgenticRuntime.Python.Values

namespace AgenticRuntime.Mcp

open Python

/-- `Union[str, int]` -/
inductive RequestId where
  | text (id : String)
  | number (id : Int)
  deriving DecidableEq, Repr

structure JsonRpcRequest where
  id : RequestId
  method : String
  params : Option Mapping

structure JsonRpcResponse where
  id : RequestId
  result : PyValue
  error : Option Mapping

structure JsonRpcNotification where
  method : String
  params : Option Mapping

inductive JsonRpcMessage where
  | request (request : JsonRpcRequest)
  | response (response : JsonRpcResponse)
  | notification (notification : JsonRpcNotification)

/-! ### What the models accept of a field -/

def RequestId.ofValue : PyValue → Option RequestId
  | .str id => some (.text id)
  | .int id => some (.number id)
  | .bool value => some (.number (if value then 1 else 0))
  | .float (.finite value) => if value.den = 1 then some (.number value.num) else none
  | _ => none

variable (data : Mapping)

/-- `jsonrpc: Literal["2.0"] = "2.0"` -/
def versionAccepted : Bool :=
  match Items.get? data (.str "jsonrpc") with
  | none => true
  | some value => value.asStr? = some "2.0"

/-- `id: Union[str, int] = Field(...)` -/
def idField : Option RequestId :=
  (Items.get? data (.str "id")).bind RequestId.ofValue

/-- `method: str = Field(...)` -/
def methodField : Option String :=
  (Items.get? data (.str "method")).bind PyValue.asStr?

/-- A field `dict[str, Any] | None = Field(None)`; the outer `none` is a refusal. -/
def objectField (name : String) : Option (Option Mapping) :=
  match Items.get? data (.str name) with
  | none => some none
  | some .none => some none
  | some value => (asMapping? value).map some

/-- `result: Any | None = Field(None)` -/
def resultField : PyValue :=
  (Items.get? data (.str "result")).getD .none

/-! ### `McpTransport._parse_json_rpc` -/

def parseRequest : Option JsonRpcMessage :=
  if versionAccepted data then do
    let id ← idField data
    let method ← methodField data
    let params ← objectField data "params"
    return .request { id, method, params }
  else none

def parseResponse : Option JsonRpcMessage :=
  if versionAccepted data then do
    let id ← idField data
    let error ← objectField data "error"
    return .response { id, result := resultField data, error }
  else none

def parseNotification : Option JsonRpcMessage :=
  if versionAccepted data then do
    let method ← methodField data
    let params ← objectField data "params"
    return .notification { method, params }
  else none

/-- `none` where the construction raises; what is no object raises too. -/
def parseJsonRpc (data : PyValue) : Option JsonRpcMessage :=
  match asMapping? data with
  | none => none
  | some items =>
      if (Items.get? items (.str "id")).isSome then
        if (Items.get? items (.str "method")).isSome then parseRequest items
        else parseResponse items
      else parseNotification items

/-- `if response.error:` -/
def JsonRpcResponse.failed (response : JsonRpcResponse) : Bool :=
  match response.error with
  | none => false
  | some error => !error.isEmpty

end AgenticRuntime.Mcp
