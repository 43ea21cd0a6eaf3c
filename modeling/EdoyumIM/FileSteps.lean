import EdoyumIM.FileServer

/-!
What one frame does to a file session. `Frame.order` is the request that a
frame reaches the two handlers with; for each way through a handler there is
one equation. Later results use these and never look into the handlers.
-/

namespace EdoyumIM.FileSteps

open MachineWords FieldCodec OrderedStore ByteFiles Effects FileServer

/-! The existence check. -/
section Offered

variable (fs : FileSystem) (luck : Luck) (name : Bytes) (host : Host)

def offered : Bool := (isFileExsit fs luck name host).1

theorem offered_iff :
    offered fs luck name host = true ↔
      name ∈ host.m_listFiles ∨ (luck.probe = true ∧ readableAt fs name host.files = true) := by
  rw [offered, isFileExsit]
  split_ifs with listed readable
  · simp [listed]
  · simpa [listed] using readable
  · simpa [listed] using readable

theorem isFileExsit_absent (absent : offered fs luck name host = false) :
    isFileExsit fs luck name host = (false, host) := by
  rw [offered, isFileExsit] at absent
  rw [isFileExsit]
  split_ifs at absent ⊢ with listed readable
  rfl

/-- A hit can only lengthen the list. -/
theorem isFileExsit_host :
    ∃ listed, (isFileExsit fs luck name host).2 = { host with m_listFiles := listed } ∧
      (listed = host.m_listFiles ∨ listed = host.m_listFiles ++ [name]) := by
  rw [isFileExsit]
  split_ifs
  · exact ⟨host.m_listFiles, rfl, Or.inl rfl⟩
  · exact ⟨host.m_listFiles ++ [name], rfl, Or.inr rfl⟩
  · exact ⟨host.m_listFiles, rfl, Or.inl rfl⟩

theorem offered_listed (hit : offered fs luck name host = true) :
    name ∈ (isFileExsit fs luck name host).2.m_listFiles := by
  rw [offered, isFileExsit] at hit
  rw [isFileExsit]
  split_ifs at hit ⊢ with listed readable
  · exact listed
  · exact List.mem_append_right _ List.mem_cons_self

end Offered

/-! The upload handler. -/
section Upload

variable (fs : FileSystem) (luck : Luck) (request : Request) (desk : Desk)

theorem writeChunk_null (null : desk.me.m_fp = none) :
    writeChunk luck request desk = ⟨[], desk, .error .nullStream⟩ := by
  rw [writeChunk, Act.gets_bind, null]
  rfl

/-- The stream and the disk after `fseek`, and after `fwrite`. -/
def sought (stream : File) (files : Disk Bytes UInt8) : File × Disk Bytes UInt8 :=
  stream.seek request.offset.toInt files

def written (stream : File) (files : Disk Bytes UInt8) : File × Disk Bytes UInt8 :=
  (sought request stream files).1.put luck.kept request.filedata (sought request stream files).2

theorem writeChunk_empty (stream : File) (held : desk.me.m_fp = some stream)
    (empty : request.filedata = []) :
    writeChunk luck request desk =
      ⟨[], keep (sought request stream desk.host.files).1
        (sought request stream desk.host.files).2 desk, .ok ()⟩ := by
  rw [writeChunk, Act.gets_bind, held]
  simp only [Act.gets_bind, if_pos empty]
  rfl

def Completes : Prop :=
  request.offset + int32OfNat request.filedata.length = request.filesize

instance decidableCompletes : Decidable (Completes request) :=
  inferInstanceAs (Decidable (_ = _))

def uploadReply (seq offset filesize : Int32) : Reply :=
  ⟨.upload_resp, seq, request.filemd5, offset, filesize, []⟩

theorem writeChunk_part (stream : File) (held : desk.me.m_fp = some stream)
    (filled : request.filedata ≠ []) (part : ¬ Completes request) :
    writeChunk luck request desk =
      ⟨[.wrote (sought request stream desk.host.files).1.file
            (sought request stream desk.host.files).1.tell request.filedata,
          .send (uploadReply request desk.me.m_seq request.offset request.filesize).bytes
            (uploadReply request desk.me.m_seq request.offset request.filesize)],
        keep (written luck request stream desk.host.files).1
          (written luck request stream desk.host.files).2 desk, .ok ()⟩ := by
  rw [writeChunk, Act.gets_bind, held]
  unfold Completes at part
  simp only [Act.gets_bind, Act.emit_bind, Act.modify_bind, if_neg filled, if_neg part, answer,
    Act.emit_apply, uploadReply, written, sought]

theorem writeChunk_last (stream : File) (held : desk.me.m_fp = some stream)
    (filled : request.filedata ≠ []) (last : Completes request) :
    writeChunk luck request desk =
      ⟨[.wrote (sought request stream desk.host.files).1.file
            (sought request stream desk.host.files).1.tell request.filedata,
          .send (uploadReply request desk.me.m_seq (-1) (-1)).bytes
            (uploadReply request desk.me.m_seq (-1) (-1))],
        { me := { desk.me with m_fp := none, m_offset := 0, m_filesize := 0 }
          host := addFile request.name { desk.host with
            files := ((written luck request stream desk.host.files).1.flush
              (written luck request stream desk.host.files).2).2 } }, .ok ()⟩ := by
  rw [writeChunk, Act.gets_bind, held]
  unfold Completes at last
  simp only [Act.gets_bind, Act.emit_bind, Act.modify_bind, onHost, Act.call_bind, if_neg filled,
    if_pos last, answer, Act.emit_apply, keep, resetFile, addFile, uploadReply, written, sought]

theorem upload_offered (hit : offered fs luck request.name desk.host = true) :
    onUploadFileResponse fs luck request desk =
      ⟨[.send (uploadReply request desk.me.m_seq (-1) (-1)).bytes
          (uploadReply request desk.me.m_seq (-1) (-1))],
        { desk with host := (isFileExsit fs luck request.name desk.host).2 }, .ok ()⟩ := by
  unfold offered at hit
  rw [onUploadFileResponse, Act.gets_bind, Act.bind_ok _ _ desk true (by simp [onHost, hit])]
  rfl

theorem upload_absent (absent : offered fs luck request.name desk.host = false) :
    onUploadFileResponse fs luck request desk =
      (if request.offset = 0 then do
        if ← Act.call (openUpload fs luck request.name) then writeChunk luck request else pure ()
      else writeChunk luck request : Handler Unit) desk := by
  have check := isFileExsit_absent fs luck request.name desk.host absent
  rw [onUploadFileResponse, Act.gets_bind, Act.bind_ok _ _ desk false (by simp [onHost, check])]
  simp [onHost, check]

theorem upload_next (absent : offered fs luck request.name desk.host = false)
    (later : request.offset ≠ 0) :
    onUploadFileResponse fs luck request desk = writeChunk luck request desk := by
  rw [upload_absent fs luck request desk absent, if_neg later]

theorem upload_unopened (absent : offered fs luck request.name desk.host = false)
    (first : request.offset = 0) (failed : (openUpload fs luck request.name desk).1 = false) :
    onUploadFileResponse fs luck request desk =
      ⟨[], (openUpload fs luck request.name desk).2, .ok ()⟩ := by
  rw [upload_absent fs luck request desk absent, if_pos first,
    Act.bind_ok _ _ desk false (by simp [failed])]
  simp

theorem upload_first (absent : offered fs luck request.name desk.host = false)
    (first : request.offset = 0) (granted : (openUpload fs luck request.name desk).1 = true) :
    onUploadFileResponse fs luck request desk =
      writeChunk luck request (openUpload fs luck request.name desk).2 := by
  rw [upload_absent fs luck request desk absent, if_pos first,
    Act.bind_ok _ _ desk true (by simp [granted])]
  simp

theorem openUpload_failed (failed : (openUpload fs luck request.name desk).1 = false) :
    (openUpload fs luck request.name desk).2 =
      { me := { desk.me with m_fp := none }
        host := { desk.host with leaked := desk.me.m_fp.toList ++ desk.host.leaked } } := by
  rw [openUpload, openNew] at failed ⊢
  cases resolved : fs.resolve (cached request.name) with
  | none => rfl
  | some file =>
      rw [resolved] at failed
      dsimp only at failed ⊢
      split_ifs at failed ⊢
      · cases failed
      · rfl

/-- The file is emptied, and the stream that stood in `m_fp` is lost. -/
theorem openUpload_granted (granted : (openUpload fs luck request.name desk).1 = true) :
    ∃ file, fs.resolve (cached request.name) = some file ∧
      (openUpload fs luck request.name desk).2 =
        { me := { desk.me with
            m_fp := some { file := file, readable := false, opened := desk.host.opened } }
          host := { desk.host with
            files := desk.host.files.set file [], opened := desk.host.opened + 1
            leaked := desk.me.m_fp.toList ++ desk.host.leaked } } := by
  rw [openUpload, openNew] at granted ⊢
  cases resolved : fs.resolve (cached request.name) with
  | none =>
      rw [resolved] at granted
      cases granted
  | some file =>
      rw [resolved] at granted
      dsimp only at granted ⊢
      split_ifs at granted ⊢
      · exact ⟨file, rfl, rfl⟩
      · cases granted

end Upload

/-! The download handler. -/
section Download

variable (fs : FileSystem) (luck : Luck) (request : Request) (desk : Desk)

theorem download_absent (absent : offered fs luck request.name desk.host = false) :
    onDownloadFileResponse fs luck request desk = ⟨[], desk, .ok ()⟩ := by
  have check := isFileExsit_absent fs luck request.name desk.host absent
  rw [onDownloadFileResponse, Act.bind_ok _ _ desk false (by simp [onHost, check])]
  simp [onHost, check]

/-- The desk after the existence check. -/
def checked : Desk := { desk with host := (isFileExsit fs luck request.name desk.host).2 }

def afterOpen : Bool × Desk := openDownload fs luck request.name (checked fs luck request desk)

theorem download_unopened (hit : offered fs luck request.name desk.host = true)
    (failed : (afterOpen fs luck request desk).1 = false) :
    onDownloadFileResponse fs luck request desk =
      ⟨[], (afterOpen fs luck request desk).2, .ok ()⟩ := by
  unfold offered at hit
  rw [onDownloadFileResponse, onHost, Act.call_bind]
  dsimp only
  rw [if_pos hit, Act.call_bind]
  exact congrFun (if_neg (Bool.eq_false_iff.mp failed)) _

theorem download_opened (hit : offered fs luck request.name desk.host = true)
    (granted : (afterOpen fs luck request desk).1 = true) :
    onDownloadFileResponse fs luck request desk =
      sendBlock request (afterOpen fs luck request desk).2 := by
  unfold offered at hit
  rw [onDownloadFileResponse, onHost, Act.call_bind]
  dsimp only
  rw [if_pos hit, Act.call_bind]
  exact congrFun (if_pos granted) _

def downloadReply (me : FileSession) (filedata : Bytes) : Reply :=
  ⟨.download_resp, me.m_seq, request.filemd5, me.m_offset, me.m_filesize, filedata⟩

def advance (size : Int32) (desk : Desk) : Desk :=
  let moved : Desk := { desk with me := { desk.me with m_offset := desk.me.m_offset + size } }
  if moved.me.m_offset = moved.me.m_filesize then resetFile moved else moved

/-- The desk after `fopen(filename, "r+")` on a file of the given content. -/
def reading (file content : Bytes) (base : Nat) : Desk :=
  { me := { desk.me with
      m_fp := some { file := file, base := base, readable := true, opened := desk.host.opened }
      m_filesize := int32OfNat content.length }
    host := { desk.host with opened := desk.host.opened + 1 } }

theorem openOld_cases (luck : Luck) (path : Bytes) (host : Host) :
    openOld fs luck path host = (none, host) ∨
      ∃ file content, fs.resolve path = some file ∧ host.files.find? file = some content ∧
        openOld fs luck path host =
          (some { file := file, readable := true, opened := host.opened },
            { host with opened := host.opened + 1 }) := by
  rw [openOld]
  cases resolved : fs.resolve path with
  | none => exact Or.inl rfl
  | some file =>
      cases stored : host.files.find? file with
      | none => exact Or.inl (by simp [stored])
      | some content =>
          dsimp only
          split_ifs
          · exact Or.inr ⟨file, content, rfl, stored, rfl⟩
          · exact Or.inl rfl

/-- A session goes on with the stream it has; without one it opens the file,
where an empty one, or one whose size is no `int32_t`, ends the request with the
stream left open. -/
theorem openDownload_cases (luck : Luck) (name : Bytes) :
    (∃ stream, desk.me.m_fp = some stream ∧ openDownload fs luck name desk = (true, desk)) ∨
      (desk.me.m_fp = none ∧ openDownload fs luck name desk = (false, desk)) ∨
      (desk.me.m_fp = none ∧ ∃ file content, fs.resolve (cached name) = some file ∧
        desk.host.files.find? file = some content ∧
        openDownload fs luck name desk =
          if int32OfNat content.length ≤ 0 then
            (false, reading desk file content content.length)
          else (true, reading desk file content 0)) := by
  rw [openDownload]
  cases held : desk.me.m_fp with
  | some stream => exact Or.inl ⟨stream, rfl, rfl⟩
  | none =>
      refine Or.inr ?_
      rcases openOld_cases fs luck (cached name) desk.host with
        refused | ⟨file, content, resolved, stored, opening⟩
      · exact Or.inl ⟨rfl, by simp only [refused]⟩
      · refine Or.inr ⟨rfl, file, content, resolved, stored, ?_⟩
        simp only [opening, stored, Option.getD_some, reading]

theorem openDownload_held (luck : Luck) (name : Bytes)
    (granted : (openDownload fs luck name desk).1 = true) :
    ∃ stream, (openDownload fs luck name desk).2.me.m_fp = some stream := by
  rcases openDownload_cases fs desk luck name with
    ⟨stream, held, same⟩ | ⟨-, refused⟩ | ⟨-, file, content, -, -, opening⟩
  · exact ⟨stream, by rw [same, held]⟩
  · rw [refused] at granted
    cases granted
  · rw [opening] at granted ⊢
    split_ifs at granted ⊢
    exact ⟨_, rfl⟩

theorem readBlock_held (size : Int32) (stream : File) (held : desk.me.m_fp = some stream) :
    (readBlock size desk).2 =
      if size ≤ 0 then desk
      else keep (stream.get size.toInt.toNat desk.host.files).2.1
        (stream.get size.toInt.toNat desk.host.files).2.2 desk := by
  rw [readBlock, held]
  dsimp only
  split_ifs <;> rfl

theorem readBlock_keeps (size : Int32) (stream : File) (held : desk.me.m_fp = some stream) :
    ∃ later files, (readBlock size desk).2 = keep later files desk := by
  rw [readBlock_held desk size stream held]
  split_ifs
  · exact ⟨stream, desk.host.files, by rw [keep, ← held]⟩
  · exact ⟨_, _, rfl⟩

theorem advance_last (size : Int32) (stream : File) (held : desk.me.m_fp = some stream)
    (last : desk.me.m_offset + size = desk.me.m_filesize) :
    advance size desk =
      { me := { desk.me with m_fp := none, m_offset := 0, m_filesize := 0 }
        host := { desk.host with files := (stream.flush desk.host.files).2 } } := by
  simp only [advance, resetFile, held, last, if_true]

theorem advance_more (size : Int32) (more : desk.me.m_offset + size ≠ desk.me.m_filesize) :
    advance size desk = { desk with me := { desk.me with m_offset := desk.me.m_offset + size } } := by
  simp only [advance, more, if_false]

-- The size is a variable here: comparing two sides must not compute with the block size.
theorem sendSized_negative (size : Int32) (negative : size < 0) :
    sendSized request size desk = ⟨[], desk, .error (.thrown .lengthError)⟩ := by
  have unread : readBlock size desk = ([], desk) := by
    rw [readBlock]
    split
    · rfl
    · rw [if_pos negative.le]
  rw [sendSized, Act.gets_bind, Act.call_bind, if_pos negative, unread, Act.lift_apply]

theorem sendSized_block (size : Int32) (proper : ¬ size < 0) :
    sendSized request size desk =
      ⟨[.send (downloadReply request desk.me (readBlock size desk).1).bytes
          (downloadReply request desk.me (readBlock size desk).1)],
        advance size (readBlock size desk).2, .ok ()⟩ := by
  rw [sendSized, Act.gets_bind, Act.call_bind, if_neg proper, Act.modify_bind, answer,
    Act.emit_bind, Act.modify_apply]
  simp only [downloadReply, advance]

theorem sendBlock_sized :
    sendBlock request desk = sendSized request (currentSendSize desk.me) desk := by
  rw [sendBlock, Act.gets_bind]

end Download

/-! Whole frames. -/
section Frames

variable (fs : FileSystem) (desk : Desk) (frame : Frame)

inductive Order where
  | upload (seq : Int32) (request : Request)
  | download (seq : Int32) (request : Request)
  deriving DecidableEq, Repr

def orderFor (cmd seq : Int32) (request : Request) : Option Order :=
  if cmd = MsgType.upload_req.code then some (.upload seq request)
  else if cmd = MsgType.download_req.code then
    if request.filedata ≠ [] then none else some (.download seq request)
  else none

/-- The request that a frame hands to one of the two handlers. -/
def order : Option Order :=
  match (BinaryReader.ofBytes frame.buffer).readInt with
  | none => none
  | some (cmd, reader) =>
      match reader.readInt with
      | none => none
      | some (m_seq, reader) =>
          match readRequest frame.mem reader with
          | .ok (some request) => orderFor cmd m_seq request
          | _ => none

def concluded (outcome : Outcome Desk Label Crash Unit) : List Label × Station :=
  match outcome.value with
  | .ok _ => (outcome.trace, ⟨setSeq (· + 1) outcome.state, true⟩)
  | .error _ => (outcome.trace, ⟨outcome.state, false⟩)

theorem concluded_ok (outcome : Outcome Desk Label Crash Unit) (returned : outcome.value = .ok ()) :
    concluded outcome = (outcome.trace, ⟨setSeq (· + 1) outcome.state, true⟩) := by
  rw [concluded, returned]

/-- The handler that an order calls. -/
def handled (luck : Luck) : Order → Desk → Outcome Desk Label Crash Unit
  | .upload seq request, desk =>
      onUploadFileResponse fs luck request (setSeq (fun _ => seq) desk)
  | .download seq request, desk =>
      onDownloadFileResponse fs luck request (setSeq (fun _ => seq) desk)

/-- The end of `process`, behind a frame that could be read. -/
def dispatch (luck : Luck) (cmd : Int32) (request : Request) : Handler Bool := do
  if ← switch fs luck cmd request then
    Act.modify (setSeq (· + 1))
    pure true
  else pure false

theorem process_read (cmd m_seq : Int32) (request : Request) (reader last : BinaryReader)
    (first : (BinaryReader.ofBytes frame.buffer).readInt = some (cmd, reader))
    (second : reader.readInt = some (m_seq, last))
    (read : readRequest frame.mem last = .ok (some request)) :
    process fs frame.mem frame.luck frame.buffer desk =
      dispatch fs frame.luck cmd request (setSeq (fun _ => m_seq) desk) := by
  rw [process, first]
  simp only [second]
  rw [Act.modify_bind, read, Except.mapError, Act.lift_ok_bind]
  rfl

theorem serve_none (silent : order frame = none) :
    ∃ change up, serve fs desk frame = ([], ⟨setSeq change desk, up⟩) := by
  have same : setSeq id desk = desk := rfl
  rw [order] at silent
  cases first : (BinaryReader.ofBytes frame.buffer).readInt with
  | none => exact ⟨id, true, by rw [serve, process, first, same]; rfl⟩
  | some parts =>
      obtain ⟨cmd, reader⟩ := parts
      cases second : reader.readInt with
      | none => exact ⟨id, true, by rw [serve, process, first, same]; simp only [second]; rfl⟩
      | some parts =>
          obtain ⟨m_seq, last⟩ := parts
          refine ⟨fun _ => m_seq, ?_⟩
          cases read : readRequest frame.mem last with
          | error fault =>
              refine ⟨false, ?_⟩
              rw [serve, process, first]
              simp only [second, read]
              rfl
          | ok parsed =>
              refine ⟨true, ?_⟩
              cases parsed with
              | none =>
                  rw [serve, process, first]
                  simp only [second, read]
                  rfl
              | some request =>
                  -- the request was read, and the command or its data are refused
                  simp only [first, second, read, orderFor] at silent
                  rw [serve, process_read fs desk frame cmd m_seq request reader last first second
                    read, dispatch, switch]
                  split_ifs at silent ⊢ <;> rfl

/-- The sequence number is raised behind a handler that returned. -/
theorem accepted_concluded (command : Handler Unit) :
    finish (((command >>= fun _ => pure true) >>= fun accepted =>
        if accepted = true then do
          Act.modify (setSeq (· + 1))
          pure true
        else pure false : Handler Bool) desk) = concluded (command desk) := by
  cases value : (command desk).value with
  | error fault =>
      rw [Act.bind_error _ _ desk fault (by rw [Act.bind_error _ _ desk fault value]),
        Act.bind_error _ _ desk fault value, concluded, value]
      rfl
  | ok done =>
      rw [Act.bind_ok _ _ desk true (by rw [Act.bind_ok _ _ desk done value]; rfl),
        Act.bind_ok _ _ desk done value, concluded, value]
      simp [Act.modify_bind, finish]

theorem serve_order (asked : Order) (sent : order frame = some asked) :
    serve fs desk frame = concluded (handled fs frame.luck asked desk) := by
  rw [order] at sent
  cases first : (BinaryReader.ofBytes frame.buffer).readInt with
  | none => simp [first] at sent
  | some parts =>
      obtain ⟨cmd, reader⟩ := parts
      cases second : reader.readInt with
      | none => simp [first, second] at sent
      | some parts =>
          obtain ⟨m_seq, last⟩ := parts
          cases read : readRequest frame.mem last with
          | error fault => simp [first, second, read] at sent
          | ok parsed =>
              cases parsed with
              | none => simp [first, second, read] at sent
              | some request =>
                  simp only [first, second, read, orderFor] at sent
                  rw [serve, process_read fs desk frame cmd m_seq request reader last first second
                    read, dispatch, switch]
                  split_ifs at sent with upload download filled <;> cases sent
                  · rw [if_pos upload, handled, ← accepted_concluded]
                  · rw [if_neg upload, if_pos download, if_neg filled, handled,
                      ← accepted_concluded]

end Frames

/-! The server seen from one of its sessions. -/
section Sessions

variable (fs : FileSystem)

/-- `outcome` is what the world shows of a station that served `conn`. -/
structure Serves (conn : Bytes) (before : World) (outcome : List (Bytes × Label) × World)
    (station : List Label × Station) : Prop where
  trace : outcome.1 = station.1.map (conn, ·)
  host : outcome.2.host = station.2.desk.host
  up : outcome.2.up = station.2.up
  session : outcome.2.m_sessions.find? conn = some station.2.desk.me
  others : ∀ other, other ≠ conn →
    outcome.2.m_sessions.find? other = before.m_sessions.find? other

theorem step_serves (conn : Bytes) (world : World) (me : FileSession)
    (held : world.m_sessions.find? conn = some me) (frame : Frame) :
    Serves conn world (step fs world (.frame conn frame))
      (sessionStep fs ⟨⟨me, world.host⟩, world.up⟩ frame) := by
  cases up : world.up with
  | false =>
      rw [step, sessionStep]
      simp only [up]
      exact ⟨rfl, rfl, up, held, fun _ _ => rfl⟩
  | true =>
      rw [step, sessionStep]
      simp only [up, held, if_true]
      refine ⟨rfl, rfl, rfl, ?_, ?_⟩
      · rw [OrderedMap.find?_modify, held, Option.map_some, if_pos rfl]
      · intro other apart
        rw [OrderedMap.find?_modify]
        cases world.m_sessions.find? other with
        | none => rfl
        | some session => rw [Option.map_some, if_neg apart]

theorem run_serves (conn : Bytes) (frames : List Frame) (world : World) (me : FileSession)
    (held : world.m_sessions.find? conn = some me) :
    Serves conn world (run (step fs) world (frames.map (.frame conn)))
      (run (sessionStep fs) ⟨⟨me, world.host⟩, world.up⟩ frames) := by
  induction frames generalizing world me with
  | nil => exact ⟨rfl, rfl, rfl, held, fun _ _ => rfl⟩
  | cons frame rest ih =>
      have here := step_serves fs conn world me held frame
      have later := ih (step fs world (.frame conn frame)).2 _ here.session
      rw [here.host, here.up] at later
      constructor
      · rw [List.map_cons, run, run, List.map_append, here.trace, later.trace]
      · exact later.host
      · exact later.up
      · exact later.session
      · intro other apart
        exact (later.others other apart).trans (here.others other apart)

end Sessions

/-! Requests as a client writes them. -/
section Requests

/-- What a frame carries or meets besides its request. -/
structure Extra where
  seq : Int32
  mem : Nat → UInt8 := fun _ => 0
  probe : Bool
  kept : Nat

def fields (kind : MsgType) (seq : Int32) (request : Request) : List Field :=
  [.int kind.code, .int seq, .string request.filemd5, .int request.offset,
    .int request.filesize, .string request.filedata]

/-- A frame whose `fopen` in `filecache` is granted. -/
def requestFrame (kind : MsgType) (request : Request) (extra : Extra) : Frame :=
  { buffer := (writeFields .fresh (fields kind extra.seq request)).toBytes
    mem := extra.mem
    luck := ⟨extra.probe, true, extra.kept⟩ }

theorem read_int (mem : Nat → UInt8) (kinds : List Kind) (reader last : BinaryReader)
    (value : Int32) (rest : List Field)
    (read : readFields mem (.int :: kinds) reader = .ok (some (.int value :: rest, last))) :
    ∃ next, reader.readInt = some (value, next) ∧
      readFields mem kinds next = .ok (some (rest, last)) := by
  rw [readFields, readField] at read
  cases first : reader.readInt with
  | none => simp [first] at read
  | some parts =>
      obtain ⟨value', next⟩ := parts
      cases tail : readFields mem kinds next with
      | error fault => simp [first, tail] at read
      | ok parsed =>
          cases parsed with
          | none => simp [first, tail] at read
          | some parsed =>
              obtain ⟨⟨rfl, rfl⟩, rfl⟩ : (value' = value ∧ parsed.1 = rest) ∧ parsed.2 = last := by
                simpa [first, tail] using read
              exact ⟨next, rfl, tail⟩

theorem read_string (mem : Nat → UInt8) (kinds : List Kind) (reader last : BinaryReader)
    (data : Bytes) (rest : List Field)
    (read : readFields mem (.string :: kinds) reader = .ok (some (.string data :: rest, last))) :
    ∃ next, reader.readString mem = .ok (data, next) ∧
      readFields mem kinds next = .ok (some (rest, last)) := by
  rw [readFields, readField] at read
  cases first : reader.readString mem with
  | error fault => simp [first, Except.map] at read
  | ok parts =>
      obtain ⟨data', next⟩ := parts
      cases tail : readFields mem kinds next with
      | error fault => simp [first, tail, Except.map] at read
      | ok parsed =>
          cases parsed with
          | none => simp [first, tail, Except.map] at read
          | some parsed =>
              obtain ⟨⟨rfl, rfl⟩, rfl⟩ : (data' = data ∧ parsed.1 = rest) ∧ parsed.2 = last := by
                simpa [first, tail, Except.map] using read
              exact ⟨next, rfl, tail⟩

theorem order_read (frame : Frame) (cmd seq : Int32) (request : Request) (last : BinaryReader)
    (named : request.filemd5 ≠ [])
    (read : readFields frame.mem [.int, .int, .string, .int, .int, .string]
      (BinaryReader.ofBytes frame.buffer) = .ok (some ([.int cmd, .int seq,
        .string request.filemd5, .int request.offset, .int request.filesize,
        .string request.filedata], last))) :
    order frame = orderFor cmd seq request := by
  obtain ⟨afterCmd, first, read⟩ := read_int _ _ _ _ _ _ read
  obtain ⟨afterSeq, second, read⟩ := read_int _ _ _ _ _ _ read
  obtain ⟨afterName, third, read⟩ := read_string _ _ _ _ _ _ read
  obtain ⟨afterOffset, fourth, read⟩ := read_int _ _ _ _ _ _ read
  obtain ⟨afterSize, fifth, read⟩ := read_int _ _ _ _ _ _ read
  obtain ⟨afterData, sixth, -⟩ := read_string _ _ _ _ _ _ read
  have parsed : readRequest frame.mem afterSeq = .ok (some request) := by
    simp only [readRequest, third, bind, Except.bind, named, if_false, fourth, fifth, sixth]
    rfl
  simp only [order, first, second, parsed]

theorem order_request (kind : MsgType) (request : Request) (extra : Extra)
    (named : request.filemd5 ≠ [])
    (short : request.filemd5.length + request.filedata.length + 32 < 2 ^ 32)
    (shortName : request.filemd5.length < 2 ^ 31) (shortData : request.filedata.length < 2 ^ 31) :
    order (requestFrame kind request extra) = orderFor kind.code extra.seq request := by
  have total : ((fields kind extra.seq request).flatMap encodeField).length < 2 ^ 32 := by
    have name := (encodeString_length_le request.filemd5 shortName).1
    have data := (encodeString_length_le request.filedata shortData).1
    simp only [fields, List.flatMap_cons, List.flatMap_nil, encodeField, List.length_append,
      encodeInt_length, List.length_nil]
    omega
  have read := read_fields extra.mem (fields kind extra.seq request) []
    (by simpa [fields, Field.Short] using ⟨shortName, shortData⟩) total
  rw [List.append_nil, ← written_fields _ total] at read
  exact order_read (requestFrame kind request extra) kind.code extra.seq request _ named read

end Requests

end EdoyumIM.FileSteps
