/-
What a control message carries comes out at the other end.

Three codecs stand on top of each other: the value is written as JSON,
the document is wrapped in a transaction, and that is written as a frame.
Each is read as it was written, so a frame `Carries` the value that went
in, under the attribute that it went in for. The reader compares
identifiers, so two names of one identifier are one attribute to it, and
under every other attribute there is nothing, whatever the frame carries.
-/
import CellSync.Proofs.Login.Message
import CellSync.Proofs.Pin.Request
import CellSync.Proofs.Tx.Exact

namespace CellSync.Control

variable {α : Type} {ofJson? : List UInt8 → Option α} {a : α} {info : Info}
  {attr other : String} {document : List UInt8} {frame : ByteArray}

/-- Whether a frame holds a transaction that is read as a value under one attribute, and
under every attribute with another identifier as a message without it. -/
def Carries (ofJson? : List UInt8 → Option α) (frame : ByteArray) (attr : String) (a : α) : Prop :=
  ∃ tx, Tx.deserialize frame = .ok tx
    ∧ ∀ other, read ofJson? tx other
        = if TagId.ofName other = TagId.ofName attr then .ok a
          else .error (.rejected .attrNotFound ("expected '" ++ other ++ "' payload"))

/-- Names of one identifier are one attribute. -/
theorem wrap_congr (h : TagId.ofName other = TagId.ofName attr) :
    wrap info attr document = wrap info other document := by
  unfold wrap
  rw [h]

theorem read_wrap_of_ne (h : TagId.ofName other ≠ TagId.ofName attr) :
    read ofJson? (wrap info attr document) other
      = .error (.rejected .attrNotFound ("expected '" ++ other ++ "' payload")) := by
  have hunwrap : unwrap (wrap info attr document) other
      = .error (.rejected .attrNotFound ("expected '" ++ other ++ "' payload")) := by
    rw [unwrap, ops_wrap]
    exact if_pos h.symm
  rw [read, hunwrap]

/-- Only the size of a document can keep it from having a frame. -/
theorem exists_serialize_iff (htid : info.tid ≠ some .zero) :
    (∃ frame, (wrap info attr document).serialize = .ok frame)
      ↔ document.length ≤ ({} : TxConfig).maxData := by
  constructor
  · rintro ⟨frame, hframe⟩
    exact ((encode_wrap_iff htid).mp hframe).1.data
  · intro hdata
    have hsize : document.length ≤ Frame.maxSize := Nat.le_trans hdata (by decide)
    exact ⟨_, (encode_wrap_iff htid).mpr ⟨⟨by decide, hdata, hsize⟩, rfl⟩⟩

/-- The frame of a document carries what the document holds. -/
theorem carries_of_reads (hread : ofJson? document = some a) (htid : info.tid ≠ some .zero)
    (hframe : (wrap info attr document).serialize = .ok frame) : Carries ofJson? frame attr a := by
  refine ⟨_, Frame.deserialize_of_serialize hframe, ?_⟩
  intro other
  have hsize : document.length ≤ Frame.maxSize := ((encode_wrap_iff htid).mp hframe).1.size
  by_cases hid : TagId.ofName other = TagId.ofName attr
  · rw [if_pos hid, wrap_congr hid]
    exact read_wrap hread hsize
  · rw [if_neg hid]
    exact read_wrap_of_ne hid

/-- A request and a step of the handshake are carried under whatever attribute, and in
whatever sort of message, they are written; and they are written whenever their
document is within the limit for data. -/
theorem payload_carried (kind : Kind) (contextId : UInt64) (status : Status) (code : ErrorCode)
    (attr : String) :
    (∀ request : PinRequest,
        let tx := wrap ⟨kind, none, contextId, status, code⟩ attr request.toJson
        ((∃ frame, tx.serialize = .ok frame)
            ↔ request.toJson.length ≤ ({} : TxConfig).maxData)
          ∧ ∀ frame, tx.serialize = .ok frame → Carries PinRequest.ofJson? frame attr request)
      ∧ ∀ step : Login.Message,
          let tx := wrap ⟨kind, none, contextId, status, code⟩ attr step.toJson
          ((∃ frame, tx.serialize = .ok frame) ↔ step.toJson.length ≤ ({} : TxConfig).maxData)
            ∧ ∀ frame, tx.serialize = .ok frame →
                Carries Login.Message.ofJson? frame attr step := by
  have htid : (Info.mk kind none contextId status code).tid ≠ some .zero := nofun
  constructor
  · intro request tx
    refine ⟨exists_serialize_iff htid, fun frame hframe => ?_⟩
    exact carries_of_reads request.ofJson?_toJson htid hframe
  · intro step tx
    refine ⟨exists_serialize_iff htid, fun frame hframe => ?_⟩
    exact carries_of_reads step.ofJson?_toJson htid hframe

/-- A request with texts that cannot stand in a document as they are. -/
def escapedRequest : PinRequest := ⟨.url "x://\"\\\u0001", ["", "ß\n"], .none⟩

/-- A claim with such texts, and with an empty token. -/
def escapedClaim : Login.Message := .claim ⟨"\"\\", "", "\u0001", "ß\n", some ""⟩

/-- Both are carried, and the claim is none where a request is expected. -/
theorem payload_carried_escaped :
    (∃ frame,
        (wrap ⟨.pinRequest, none, 12, .notStarted, .nil⟩ pinAttr escapedRequest.toJson).serialize
          = .ok frame
        ∧ Carries PinRequest.ofJson? frame pinAttr escapedRequest)
      ∧ ∃ frame tx,
        (wrap ⟨.login, none, 0, .syncing, .nil⟩ loginAttr escapedClaim.toJson).serialize = .ok frame
        ∧ Tx.deserialize frame = .ok tx
        ∧ read Login.Message.ofJson? tx loginAttr = .ok escapedClaim
        ∧ read Login.Message.ofJson? tx pinAttr
          = .error (.rejected .attrNotFound ("expected '" ++ pinAttr ++ "' payload")) := by
  constructor
  · obtain ⟨hwritten, hcarried⟩ := (payload_carried .pinRequest 12 .notStarted .nil pinAttr).1
      escapedRequest
    obtain ⟨frame, hframe⟩ := hwritten.mpr (by decide +kernel)
    exact ⟨frame, hframe, hcarried frame hframe⟩
  · obtain ⟨hwritten, hcarried⟩ := (payload_carried .login 0 .syncing .nil loginAttr).2
      escapedClaim
    obtain ⟨frame, hframe⟩ := hwritten.mpr (by decide +kernel)
    obtain ⟨tx, htx, hread⟩ := hcarried frame hframe
    have hne : TagId.ofName pinAttr ≠ TagId.ofName loginAttr := by decide +kernel
    refine ⟨frame, tx, hframe, htx, ?_, ?_⟩
    · rw [hread loginAttr, if_pos rfl]
    · rw [hread pinAttr, if_neg hne]

end CellSync.Control
