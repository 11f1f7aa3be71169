/-
The steps of the login handshake.

    client                                     host
      claim: user, device, old checkpoint  →
                                           ←   challenge: nonce, attempt
      response: attempt, hash              →
                                           ←   checkpoint, or failed

On the wire a step is a JSON object whose member `step` names it; the
same members may also stand in order in an array, the name first.
-/
import CellSync.Control
import CellSync.Json.Reader
import CellSync.Json.Writer
import CellSync.Text.Quoted
import CellSync.Text.Record

namespace CellSync.Login

-- ================================================================= steps

/-- The client says who it is. -/
structure Claim where
  userId : String
  hostAddress : String := ""
  deviceId : String := ""
  deviceLabel : String := ""
  /-- The token of an earlier checkpoint. -/
  checkpoint : Option String := none
deriving DecidableEq

/-- The host asks for proof. -/
structure Challenge where
  nonce : String
  /-- What the response must repeat. -/
  correlationId : String
deriving DecidableEq

/-- The client's proof. -/
structure Response where
  correlationId : String
  hash : String
deriving DecidableEq

/-- The credential of a session. -/
structure Checkpoint where
  /-- Whoever holds the token may log in again without a challenge. -/
  token : String
  sessionId : String
  memberId : String
  homeFeed : String
  userId : String
deriving DecidableEq

/-- One step of the handshake. -/
inductive Message where
  | claim (claim : Claim)
  | challenge (challenge : Challenge)
  | response (response : Response)
  | checkpoint (checkpoint : Checkpoint)
  | failed (code : ErrorCode) (reason : String)
deriving DecidableEq

/-- The name of a step. -/
def Message.step : Message → String
  | .claim _ => "claim"
  | .challenge _ => "challenge"
  | .response _ => "response"
  | .checkpoint _ => "checkpoint"
  | .failed .. => "failed"

-- ================================================================== JSON

namespace Message

/-- A step in JSON. -/
def toJson (m : Message) : List UInt8 :=
  let s := Json.string
  Json.object (("step", s m.step) :: match m with
    | claim c =>
      [("user_id", s c.userId), ("host_address", s c.hostAddress), ("device_id", s c.deviceId),
        ("device_label", s c.deviceLabel)] ++ (c.checkpoint.map fun t => ("checkpoint", s t)).toList
    | challenge c => [("nonce", s c.nonce), ("correlation_id", s c.correlationId)]
    | response r => [("correlation_id", s r.correlationId), ("hash", s r.hash)]
    | checkpoint c =>
      [("token", s c.token), ("session_id", s c.sessionId), ("member_id", s c.memberId),
        ("home_feed", s c.homeFeed), ("user_id", s c.userId)]
    | failed code reason => [("code", s code.name), ("message", s reason)])

/-- The names of the members of a step, in order. -/
def memberNames : String → List String
  | "claim" => ["user_id", "host_address", "device_id", "device_label", "checkpoint"]
  | "challenge" => ["nonce", "correlation_id"]
  | "response" => ["correlation_id", "hash"]
  | "checkpoint" => ["token", "session_id", "member_id", "home_feed", "user_id"]
  | "failed" => ["code", "message"]
  | _ => []

/-- The error code that a JSON value names. -/
def codeOf? : Json.Value → Option ErrorCode
  | .object [(some name, .object [])] => ErrorCode.ofName? name
  | v => v.member? ErrorCode.ofName?

/-- The text of a member that may be missing or null. -/
def optionalText? : Option Json.Value → Option (Option String)
  | none => some none
  | some .null => some none
  | some v => v.text?.map some

/-- The step with a name and with the members that are there, in order. -/
def build (step : String) (members : List (Option Json.Value)) : Option Message :=
  match step, members with
  | "claim", [some user, some host, some device, some label, token] => do
    pure (claim ⟨← user.text?, ← host.text?, ← device.text?, ← label.text?, ← optionalText? token⟩)
  | "challenge", [some nonce, some correlation] => do
    pure (challenge ⟨← nonce.text?, ← correlation.text?⟩)
  | "response", [some correlation, some hash] => do
    pure (response ⟨← correlation.text?, ← hash.text?⟩)
  | "checkpoint", [some token, some session, some member, some feed, some user] => do
    pure (checkpoint
      ⟨← token.text?, ← session.text?, ← member.text?, ← feed.text?, ← user.text?⟩)
  | "failed", [some code, some reason] => do
    pure (failed (← codeOf? code) (← reason.text?))
  | _, _ => none

/-- The deepest nesting that a step may have. -/
def maxDepth : Nat := 127

/-- The step that a JSON value holds. -/
def ofValue? : Json.Value → Option Message
  | .object members => do
    let members : Json.Members := members
    let step ← (← members.required "step").text?
    build step (← (memberNames step).mapM members.optional)
  | .array (first :: rest) => do
    let step ← first.text?
    let names := memberNames step
    if names.length < rest.length then none
    else build step (rest.map some ++ List.replicate (names.length - rest.length) none)
  | _ => none

/-- The step that a JSON document holds. -/
def ofJson? (bs : List UInt8) : Option Message := do
  let v ← Json.parse bs
  if v.isPlain maxDepth then ofValue? v else none

-- ========================================================== transactions

/-- What the carrying transaction tells of a step. -/
def outcome : Message → Status × ErrorCode
  | checkpoint _ => (.synced, .nil)
  | failed code _ => (.closed, code)
  | _ => (.syncing, .nil)

/-- The transaction that carries a step. -/
def toTx (m : Message) : Tx :=
  Control.wrap ⟨.login, none, 0, m.outcome.1, m.outcome.2⟩ Control.loginAttr m.toJson

/-- The step that a transaction carries. -/
def ofTx (tx : Tx) : Except SessionError Message :=
  if tx.info.kind ≠ .login then
    .error (.protocol ("expected login message, got " ++ tx.info.kind.name))
  else Control.read ofJson? tx Control.loginAttr

end Message

-- =========================================================== diagnostics

/-- A secret in diagnostics: only its size is shown. -/
def redacted (secret : String) : String := s!"<redacted:{secret.utf8ByteSize} bytes>"

/-- A claim in diagnostics. -/
def Claim.describe (c : Claim) : String :=
  Text.record "LoginClaim" [("user_id", Text.quoted c.userId),
    ("host_address", Text.quoted c.hostAddress), ("device_id", Text.quoted c.deviceId),
    ("device_label", Text.quoted c.deviceLabel),
    ("checkpoint", (c.checkpoint.map redacted).getD "None")]

/-- A checkpoint in diagnostics. -/
def Checkpoint.describe (c : Checkpoint) : String :=
  Text.record "AuthCheckpoint" [("token", redacted c.token),
    ("session_id", Text.quoted c.sessionId), ("member_id", Text.quoted c.memberId),
    ("home_feed", Text.quoted c.homeFeed), ("user_id", Text.quoted c.userId)]

/-- A step in diagnostics. -/
def Message.describe : Message → String
  | .claim c => "Claim(" ++ c.describe ++ ")"
  | .challenge c => "Challenge(" ++ Text.record "LoginChallenge"
      [("nonce", Text.quoted c.nonce), ("correlation_id", Text.quoted c.correlationId)] ++ ")"
  | .response r => "Response(" ++ Text.record "LoginResponse"
      [("correlation_id", Text.quoted r.correlationId), ("hash", Text.quoted r.hash)] ++ ")"
  | .checkpoint c => "Checkpoint(" ++ c.describe ++ ")"
  | .failed code reason => "Failed(" ++ Text.record "LoginFailure"
      [("code", Text.capitalized code.name), ("message", Text.quoted reason)] ++ ")"

end CellSync.Login
