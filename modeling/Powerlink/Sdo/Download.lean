import Powerlink.Sdo.Responses

/-! # Segmented downloads

A value that is too long for one frame is written in segments: one `Initiate` frame with the size
of the data, any number of `Segment` frames and one `Complete` frame.  The command layer answers
every frame of a download with an expedited response, and an expedited response closes the
connection.  The download state that `Initiate` stores is therefore gone when the next frame
arrives, and `download_not_delivered` shows that no cut of any data is ever written. -/

namespace Powerlink

open LittleEndian

/-! ### The frames of a download -/

/-- The data of an object, cut into the chunks of a segmented download. -/
structure Download where
  index : UInt16
  subIndex : UInt8
  transactionId : UInt8
  first : List UInt8
  segments : List (List UInt8)
  last : List UInt8

namespace Download

/-- The data that the chunks make up. -/
def data (d : Download) : List UInt8 := d.first ++ d.segments.flatten ++ d.last

/-- A write by index of the transaction. -/
def command (d : Download) (segmentation : Segmentation) (dataSize : Option UInt32)
    (payload : List UInt8) : SdoCommand where
  header :=
    { transactionId := d.transactionId
      segmentation := segmentation
      commandId := .writeByIndex
      segmentSize := UInt16.ofNat payload.length }
  dataSize := dataSize
  payload := payload

/-- The first command, with the size of the data and the address of the object. -/
def initiate (d : Download) : SdoCommand :=
  d.command .initiate (some (UInt32.ofNat d.data.length))
    (u16Bytes d.index ++ [d.subIndex, 0] ++ d.first)

/-- The commands after the first one. -/
def continuation (d : Download) : List SdoCommand :=
  d.segments.map (d.command .segment none) ++ [d.command .complete none d.last]

/-- The commands of the download. -/
def commands (d : Download) : List SdoCommand := d.initiate :: d.continuation

end Download

/-- The frame carries the command under the sequence number, and is no request for
retransmission. -/
def CarriesCommand (number : UInt8) (command : SdoCommand) (payload : List UInt8) : Prop :=
  ∃ request, SequenceLayerHeader.deserialize (payload.take 4) = .ok request ∧
    request.sendSequenceNumber = number ∧ request.receiveCon ≠ .errorResponse ∧
    payload.drop 4 = command.bytes

/-- The frames carry the commands, under consecutive sequence numbers. -/
def CarriesInOrder : UInt8 → List SdoCommand → List (List UInt8) → Prop
  | _, [], [] => True
  | number, command :: commands, payload :: payloads =>
      CarriesCommand (nextSequence number) command payload ∧
        CarriesInOrder (nextSequence number) commands payloads
  | _, _, _ => False

namespace SdoSequenceHandler

variable {σ η : Type} [ObjectDictionaryStorage σ] [SdoCommandHandler σ η]

/-- The results of a list of requests, each with its time, and the dictionary after them. -/
def feed (h : SdoSequenceHandler) (od : ObjectDictionary σ) (ch : η) :
    List (List UInt8 × ℕ) → List (Except PowerlinkError SdoResponseData) × ObjectDictionary σ
  | [] => ([], od)
  | (payload, currentTimeUs) :: frames =>
      let out := h.handleRequest payload od currentTimeUs ch
      let rest := out.handler.feed out.od out.commandHandler frames
      (out.result :: rest.1, rest.2)

/-- No request fails or is aborted, and the object holds the value afterwards. -/
def Delivers (h : SdoSequenceHandler) (od : ObjectDictionary σ) (ch : η)
    (frames : List (List UInt8 × ℕ)) (index : UInt16) (subIndex : UInt8) (value : ObjectValue) :
    Prop :=
  (∀ result ∈ (h.feed od ch frames).1, ∃ response,
      result = .ok response ∧ response.command.header.isAborted = false) ∧
    (h.feed od ch frames).2.read index subIndex = some value

/-! ### Every download fails -/

variable {h : SdoSequenceHandler} {d : Download} {payload : List UInt8} {number : UInt8}

theorem segmentSize_command (d : Download) (segmentation : Segmentation) (dataSize : Option UInt32)
    (chunk : List UInt8) :
    (d.command segmentation dataSize chunk).header.segmentSize.toNat ≤
      (d.command segmentation dataSize chunk).payload.length :=
  (UInt16.toNat_ofNat' ..).trans_le (Nat.mod_le ..)

theorem segmentSize_initiate (d : Download) :
    d.initiate.header.segmentSize.toNat ≤ d.initiate.payload.length :=
  segmentSize_command ..

/-- The first command is refused, or its download is stored. -/
theorem ofCommand_initiate (od : ObjectDictionary σ) (currentTimeUs : ℕ) (ch : η) :
    (∃ abortCode,
        Verdict.ofCommand .established d.initiate.decoded od currentTimeUs ch =
          .refuse abortCode od) ∨
      ∃ t, Verdict.ofCommand .established d.initiate.decoded od currentTimeUs ch =
        .receive t := by
  have hwrite : Verdict.ofCommand .established d.initiate.decoded od currentTimeUs ch =
      .ofWrite .established d.initiate.decoded od currentTimeUs := rfl
  have hinitiate : d.initiate.decoded.header.segmentation = .initiate := rfl
  rw [hwrite, Verdict.ofWrite, hinitiate]
  cases WriteByIndexRequest.fromPayload d.initiate.decoded.payload with
  | ok req =>
      dsimp only
      split_ifs
      · exact .inl ⟨_, rfl⟩
      · exact .inr ⟨_, rfl⟩
  | error e => exact .inl ⟨_, rfl⟩

/-- The answer to the first frame closes the connection. -/
theorem initiate_closes (hs : h.state = .established)
    (hframe : CarriesCommand (nextSequence h.lastReceivedSequenceNumber) d.initiate payload)
    (od : ObjectDictionary σ) (currentTimeUs : ℕ) (ch : η) :
    (h.handleRequest payload od currentTimeUs ch).handler.state = .closed := by
  obtain ⟨request, hdec, hnumber, hr, hcommand⟩ := hframe
  obtain ⟨sendCon, hseq⟩ := processSequenceLayer_inOrder (by rw [hs]; rfl) hnumber
  have hs' : (h.received request).state = .established := by
    simp only [received, acknowledge, hs]
  rw [handleRequest_command hdec hr hseq (by simp [hcommand, SdoCommand.bytes]), hcommand, hs',
    verdict_bytes (segmentSize_initiate d)]
  rcases ofCommand_initiate (d := d) od currentTimeUs ch with ⟨abortCode, hv⟩ | ⟨t, hv⟩
  · rw [hv]
    rfl
  · rw [hv]
    rfl

/-- Outside a download its commands are refused. -/
theorem ofCommand_continuation {state : SdoServerState}
    (hstate : state = .closed ∨ state = .opening) {command : SdoCommand}
    (hmem : command ∈ d.continuation) (od : ObjectDictionary σ) (currentTimeUs : ℕ) (ch : η) :
    Verdict.ofCommand state command.decoded od currentTimeUs ch = .refuse 0x05040003 od := by
  rcases List.mem_append.mp hmem with hsegment | hcomplete
  · obtain ⟨chunk, -, rfl⟩ := List.mem_map.mp hsegment
    rcases hstate with rfl | rfl <;> rfl
  · rw [List.mem_singleton.mp hcomplete]
    rcases hstate with rfl | rfl <;> rfl

theorem segmentSize_continuation {command : SdoCommand} (hmem : command ∈ d.continuation) :
    command.header.segmentSize.toNat ≤ command.payload.length := by
  rcases List.mem_append.mp hmem with hsegment | hcomplete
  · obtain ⟨chunk, -, rfl⟩ := List.mem_map.mp hsegment
    exact segmentSize_command ..
  · rw [List.mem_singleton.mp hcomplete]
    exact segmentSize_command ..

/-- A closed connection knows no download. -/
theorem continuation_aborted (hs : h.state = .closed) {command : SdoCommand}
    (hmem : command ∈ d.continuation) (hframe : CarriesCommand number command payload)
    (od : ObjectDictionary σ) (currentTimeUs : ℕ) (ch : η) :
    ∃ response, (h.handleRequest payload od currentTimeUs ch).result = .ok response ∧
      response.command.header.isAborted = true := by
  obtain ⟨request, hdec, -, hr, hcommand⟩ := hframe
  obtain ⟨responseHeader, h', hseq, hh'⟩ := processSequenceLayer_closed hs request
  have hs' : h'.state = .closed ∨ h'.state = .opening := by
    rcases hh' with ⟨-, hs'⟩ | ⟨-, hs'⟩
    · exact .inr hs'
    · exact .inl hs'
  rw [handleRequest_command hdec hr hseq (by simp [hcommand, SdoCommand.bytes]), hcommand,
    verdict_bytes (segmentSize_continuation hmem), ofCommand_continuation hs' hmem]
  exact ⟨_, rfl, rfl⟩

/-- No cut of any data is written. -/
theorem download_not_delivered (hs : h.state = .established) (d : Download)
    {frames : List (List UInt8 × ℕ)}
    (hframes : CarriesInOrder h.lastReceivedSequenceNumber d.commands (frames.map Prod.fst))
    (od : ObjectDictionary σ) (ch : η) (value : ObjectValue) :
    ¬ h.Delivers od ch frames d.index d.subIndex value := by
  rintro ⟨hresults, -⟩
  obtain ⟨command, commands, hcontinuation⟩ : ∃ command commands,
      d.continuation = command :: commands := by
    cases hc : d.continuation with
    | nil => simp [Download.continuation] at hc
    | cons command commands => exact ⟨command, commands, rfl⟩
  have hmem : command ∈ d.continuation := by
    rw [hcontinuation]
    exact List.mem_cons_self
  rw [Download.commands, hcontinuation] at hframes
  match frames, hframes with
  | (payload, time) :: (payload', time') :: rest, ⟨hfirst, hsecond, _⟩ =>
      obtain ⟨response, hok, haborted⟩ := continuation_aborted
        (initiate_closes hs hfirst od time ch) hmem hsecond
        (h.handleRequest payload od time ch).od time'
        (h.handleRequest payload od time ch).commandHandler
      obtain ⟨response', hok', hnot⟩ := hresults _ (List.mem_cons_of_mem _ List.mem_cons_self)
      cases hok.symm.trans hok'
      rw [haborted] at hnot
      cases hnot

end SdoSequenceHandler

/-! ### Three chunks -/

/-- A dictionary with a writable domain. -/
def domainDictionary : ObjectDictionary Empty :=
  (ObjectDictionary.new none).insert 0x2000
    ⟨.variable (.domain []), "Firmware", some .readWrite, none⟩

/-- Three octets for the domain, cut into three chunks. -/
def threeChunks : Download where
  index := 0x2000
  subIndex := 0
  transactionId := 7
  first := [1]
  segments := [[2]]
  last := [3]

/-- Their frames on the established connection. -/
def threeFrames : List (List UInt8 × ℕ) :=
  [(SequenceLayerHeader.bytes ⟨1, .connectionValid, 1, .connectionValid⟩ ++
      threeChunks.initiate.bytes, 0),
    (SequenceLayerHeader.bytes ⟨2, .connectionValid, 2, .connectionValid⟩ ++
      (threeChunks.command .segment none [2]).bytes, 0),
    (SequenceLayerHeader.bytes ⟨3, .connectionValid, 3, .connectionValid⟩ ++
      (threeChunks.command .complete none [3]).bytes, 0)]

theorem threeFrames_inOrder :
    CarriesInOrder establishedHandler.lastReceivedSequenceNumber threeChunks.commands
      (threeFrames.map Prod.fst) := by
  refine ⟨⟨⟨1, .connectionValid, 1, .connectionValid⟩, ?_⟩,
    ⟨⟨2, .connectionValid, 2, .connectionValid⟩, ?_⟩,
    ⟨⟨3, .connectionValid, 3, .connectionValid⟩, ?_⟩, trivial⟩ <;> exact ⟨rfl, rfl, by decide, rfl⟩

theorem three_chunks_not_delivered :
    ¬ establishedHandler.Delivers domainDictionary ({} : DefaultSdoHandler) threeFrames
      threeChunks.index threeChunks.subIndex (.domain [1, 2, 3]) := by
  apply SdoSequenceHandler.download_not_delivered
  · rfl
  · exact threeFrames_inOrder

/-- The domain accepts the three octets, and does not hold them after the download. -/
theorem three_chunks_not_written :
    establishedHandler.state = .established ∧
      CarriesInOrder establishedHandler.lastReceivedSequenceNumber threeChunks.commands
        (threeFrames.map Prod.fst) ∧
      (domainDictionary.write 0x2000 0 (.domain [1, 2, 3])).1 = .ok () ∧
      domainDictionary.read 0x2000 0 = some (.domain []) ∧
      ObjectValue.deserialize threeChunks.data (.domain []) = .ok (.domain [1, 2, 3]) ∧
      ¬ establishedHandler.Delivers domainDictionary ({} : DefaultSdoHandler) threeFrames
        threeChunks.index threeChunks.subIndex (.domain [1, 2, 3]) := by
  refine ⟨rfl, threeFrames_inOrder, by decide +kernel, by decide +kernel, rfl, ?_⟩
  rintro ⟨-, hread⟩
  exact absurd hread (by decide +kernel)

end Powerlink
