/-
A step of the handshake is read as it was written.

Every step is a JSON object of strings (`fields`), so the document reads
back by the lemmas about such objects, and what is left is that the
members under their names build the step again. A step `Fits` the limits
of a writer or a reader by the size of its document alone.
-/
import CellSync.Login.Message
import CellSync.Proofs.Control
import CellSync.Proofs.Json

namespace CellSync.Login.Message

-- ============================================================= documents

/-- The members of a step. -/
def fields (m : Message) : List (String × String) :=
  ("step", m.step) :: match m with
    | claim c =>
      [("user_id", c.userId), ("host_address", c.hostAddress), ("device_id", c.deviceId),
        ("device_label", c.deviceLabel)] ++ (c.checkpoint.map fun t => ("checkpoint", t)).toList
    | challenge c => [("nonce", c.nonce), ("correlation_id", c.correlationId)]
    | response r => [("correlation_id", r.correlationId), ("hash", r.hash)]
    | checkpoint c =>
      [("token", c.token), ("session_id", c.sessionId), ("member_id", c.memberId),
        ("home_feed", c.homeFeed), ("user_id", c.userId)]
    | failed code reason => [("code", code.name), ("message", reason)]

/-- A step is written as the object of its members. -/
theorem toJson_eq (m : Message) : m.toJson = Json.object (Json.parts m.fields) := by
  cases m with
  | claim c =>
      obtain ⟨user, host, device, label, token⟩ := c
      cases token <;> rfl
  | challenge | response | checkpoint | failed => rfl

/-- The members of a step build it again, whichever step it is. -/
theorem ofValue?_fields (m : Message) : ofValue? (.object (Json.asRead m.fields)) = some m := by
  cases m with
  | claim c =>
      obtain ⟨user, host, device, label, token⟩ := c
      cases token <;> rfl
  | challenge => rfl
  | response => rfl
  | checkpoint => rfl
  | failed code reason => cases code <;> rfl

/-- The document of a step holds that step. -/
theorem ofJson?_toJson (m : Message) : ofJson? m.toJson = some m := by
  rw [ofJson?, toJson_eq, Json.parse_object]
  simp only [Option.bind_eq_bind, Option.bind_some, maxDepth, Json.isPlain_asRead, if_true,
    ofValue?_fields]

-- ========================================================== transactions

variable {config : TxConfig} {m : Message}

/-- Whether a step may be written, or read, within some limits. -/
def Fits (config : TxConfig) (m : Message) : Prop := Control.Fits config m.toJson

/-- A step can be written exactly if it fits, and then as one frame. -/
theorem encode_toTx_iff {frame : ByteArray} :
    Frame.encode m.toTx config = .ok frame ↔ m.Fits config ∧ frame = Frame.bytes m.toTx :=
  Control.encode_wrap_iff (by rintro ⟨⟩)

/-- A step that fits is within the limits of a reader. -/
theorem Fits.within (h : m.Fits config) : Frame.Within config m.toTx :=
  Control.within_wrap_iff.mpr ⟨h.ops, h.data⟩

/-- It is also one that may be written at all. -/
theorem Fits.writable (h : m.Fits config) : Frame.Writable m.toTx :=
  (Control.writable_wrap_iff (by rintro ⟨⟩)).mpr h.size

/-- The transaction that carries a step carries that step. -/
theorem ofTx_toTx (h : m.Fits config) : ofTx m.toTx = .ok m := by
  have hkind : m.toTx.info.kind = .login := rfl
  rw [ofTx, if_neg (fun hne => hne hkind)]
  exact Control.read_wrap (ofJson?_toJson m) h.size

end CellSync.Login.Message
