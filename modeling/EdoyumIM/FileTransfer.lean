import EdoyumIM.FileSteps

/-!
A file that is uploaded in chunks is the file that is downloaded in blocks. The
chunks are placed by the client, the blocks by the session; both ends know the
size, which decides where either loop stops.
-/

namespace EdoyumIM.FileTransfer

open MachineWords FieldCodec OrderedStore ByteFiles Effects FileServer FileSteps

/-! The upload. `Uploading` is the state between two chunks: what the stream
holds back counts as sent. -/
section Uploads

variable (fs : FileSystem) (name file : Bytes)

structure Unknown (host : Host) : Prop where
  unlisted : name ∉ host.m_listFiles
  unreadable : readableAt fs name host.files = false

structure Uploading (sent : Bytes) (desk : Desk) : Prop where
  stream : ∃ stream, desk.me.m_fp = some stream ∧ stream.file = file ∧
    shown desk.host.files [stream] file = some sent
  unknown : Unknown fs name desk.host

structure Uploaded (content : Bytes) (desk : Desk) : Prop where
  idle : desk.me.m_fp = none
  start : desk.me.m_offset = 0
  listed : name ∈ desk.host.m_listFiles
  stored : desk.host.files.find? file = some content

theorem unknown_absent (host : Host) (luck : Luck) (unknown : Unknown fs name host) :
    offered fs luck name host = false := by
  apply Bool.eq_false_iff.mpr
  intro hit
  rcases (offered_iff fs luck name host).mp hit with listed | ⟨-, readable⟩
  · exact unknown.unlisted listed
  · rw [unknown.unreadable] at readable
    cases readable

/-- Only the cached file itself may have come into being. -/
theorem unreadable_same (files later : Disk Bytes UInt8)
    (resolved : fs.resolve (cached name) = some file)
    (same : ∀ other, other ≠ file → (later.find? other).isSome = (files.find? other).isSome)
    (unreadable : readableAt fs name files = false) : readableAt fs name later = false := by
  rw [← unreadable, readableAt, readableAt]
  congr 1
  cases found : fs.resolve name with
  | none => rfl
  | some other =>
      exact same other fun equal => fs.apart name file resolved (found.trans (congrArg some equal))

variable {fs name file}

theorem written_shown (luck : Luck) (request : Request) (stream : File)
    (files : Disk Bytes UInt8) (sent : Bytes) (here : stream.file = file)
    (held : shown files [stream] file = some sent)
    (placed : request.offset.toInt = sent.length) :
    shown (written luck request stream files).2 [(written luck request stream files).1] file =
      some (sent ++ request.filedata) := by
  have target : (sought request stream files).1.file = file := by
    rw [sought, Stream.seek_file, here]
  have found : (sought request stream files).2.find? file = some sent := by
    rw [sought, Stream.seek_disk, find?_flush, held]
  have position : (sought request stream files).1.tell = sent.length := by
    rw [sought, Stream.seek_tell, placed, if_pos (by omega), Int.toNat_natCast]
  have put := shown_put_idle luck.kept request.filedata (sought request stream files).1
    (sought request stream files).2 (stream.seek_pending _ files)
  rw [target, found, position, Option.map_some, writeAt_end] at put
  exact put

theorem written_present (luck : Luck) (request : Request) (stream : File)
    (files : Disk Bytes UInt8) (other : Bytes) :
    ((written luck request stream files).2.find? other).isSome = (files.find? other).isSome := by
  rw [written, Stream.put, Stream.settle_present, sought, Stream.seek_disk, Stream.flush,
    Stream.settle_present]

theorem openUpload_uploading (resolved : fs.resolve (cached name) = some file) (luck : Luck)
    (granted : luck.opens = true) (desk : Desk) (unknown : Unknown fs name desk.host) :
    (openUpload fs luck name desk).1 = true ∧
      Uploading fs name file [] (openUpload fs luck name desk).2 := by
  have opening : openNew fs luck (cached name) desk.host =
      (some { file := file, readable := false, opened := desk.host.opened },
        { desk.host with
          files := desk.host.files.set file [], opened := desk.host.opened + 1 }) := by
    rw [openNew, resolved]
    simp only [granted, if_true]
  rw [openUpload, opening]
  refine ⟨rfl, ⟨_, rfl, rfl, ?_⟩, unknown.unlisted, ?_⟩
  · simp [shown, OrderedMap.find?_set, overlay]
  · refine unreadable_same fs name file desk.host.files _ resolved ?_ unknown.unreadable
    intro other apart
    simp [OrderedMap.find?_set, apart]

def replies (trace : List Label) : List Reply :=
  trace.filterMap fun label => match label with
    | .send _ reply => some reply
    | .wrote _ _ _ => none

theorem chunk_part (resolved : fs.resolve (cached name) = some file) (luck : Luck)
    (request : Request) (desk : Desk) (sent : Bytes) (uploading : Uploading fs name file sent desk)
    (placed : request.offset.toInt = sent.length) (filled : request.filedata ≠ [])
    (part : ¬ Completes request) :
    let outcome := writeChunk luck request desk
    outcome.value = .ok () ∧
      replies outcome.trace =
        [uploadReply request desk.me.m_seq request.offset request.filesize] ∧
      Uploading fs name file (sent ++ request.filedata) outcome.state := by
  obtain ⟨⟨stream, held, here, shows⟩, unknown⟩ := uploading
  rw [writeChunk_part luck request desk stream held filled part]
  refine ⟨rfl, rfl, ⟨_, rfl, ?_, ?_⟩, unknown.unlisted, ?_⟩
  · rw [written, Stream.put_file, sought, Stream.seek_file, here]
  · exact written_shown luck request stream desk.host.files sent here shows placed
  · exact unreadable_same fs name file desk.host.files _ resolved
      (fun other _ => written_present luck request stream desk.host.files other) unknown.unreadable

theorem chunk_last (luck : Luck) (request : Request) (named : request.name = name) (desk : Desk)
    (sent : Bytes) (uploading : Uploading fs name file sent desk)
    (placed : request.offset.toInt = sent.length) (filled : request.filedata ≠ [])
    (last : Completes request) :
    let outcome := writeChunk luck request desk
    outcome.value = .ok () ∧
      replies outcome.trace = [uploadReply request desk.me.m_seq (-1) (-1)] ∧
      Uploaded name file (sent ++ request.filedata) outcome.state := by
  obtain ⟨⟨stream, held, here, shows⟩, -⟩ := uploading
  rw [writeChunk_last luck request desk stream held filled last]
  refine ⟨rfl, rfl, rfl, rfl, ?_, ?_⟩
  · simp [addFile, named]
  · exact (find?_flush _ _ file).trans
      (written_shown luck request stream desk.host.files sent here shows placed)

/-- Before the first chunk nothing has to be open. -/
def Awaiting (fs : FileSystem) (name file sent : Bytes) (desk : Desk) : Prop :=
  (sent = [] ∧ Unknown fs name desk.host) ∨ (sent ≠ [] ∧ Uploading fs name file sent desk)

theorem upload_writes (resolved : fs.resolve (cached name) = some file) (luck : Luck)
    (granted : luck.opens = true) (request : Request) (named : request.name = name) (desk : Desk)
    (sent : Bytes) (small : sent.length < 2 ^ 31) (placed : request.offset = int32OfNat sent.length)
    (awaiting : Awaiting fs name file sent desk) :
    ∃ held, onUploadFileResponse fs luck request desk = writeChunk luck request held ∧
      held.me.m_seq = desk.me.m_seq ∧ Uploading fs name file sent held := by
  rcases awaiting with ⟨rfl, unknown⟩ | ⟨begun, uploading⟩
  · have absent := unknown_absent fs name desk.host luck unknown
    obtain ⟨success, uploading⟩ := openUpload_uploading resolved luck granted desk unknown
    rw [← named] at absent success
    refine ⟨(openUpload fs luck request.name desk).2,
      upload_first fs luck request desk absent placed success, ?_, by rwa [named]⟩
    simp [openUpload]
  · have absent := unknown_absent fs name desk.host luck uploading.unknown
    rw [← named] at absent
    refine ⟨desk, upload_next fs luck request desk absent ?_, rfl, uploading⟩
    intro zero
    have length : sent.length = 0 :=
      (int32OfNat_inj sent.length 0 small (by omega)).mp (placed.symm.trans zero)
    exact begun (List.length_eq_zero_iff.mp length)

theorem awaiting_setSeq (change : Int32 → Int32) (sent : Bytes) (desk : Desk)
    (awaiting : Awaiting fs name file sent desk) :
    Awaiting fs name file sent (setSeq change desk) :=
  awaiting.imp id fun ⟨begun, uploading⟩ => ⟨begun, uploading.stream, uploading.unknown⟩

variable (filemd5 : Bytes) (size : Nat)

def chunkRequest (sent : Nat) (chunk : Bytes) : Request :=
  ⟨filemd5, int32OfNat sent, int32OfNat size, chunk⟩

theorem chunk_served (resolved : fs.resolve (cached name) = some file) (named : filemd5 ≠ [])
    (short : filemd5.length < 2 ^ 31) (small : size ≤ 2 ^ 31 - 2 ^ 19) (sent chunk : Bytes)
    (sameName : (chunkRequest filemd5 size sent.length chunk).name = name)
    (filled : chunk ≠ []) (fits : sent.length + chunk.length ≤ size) (extra : Extra) (desk : Desk)
    (awaiting : Awaiting fs name file sent desk) :
    let served := serve fs desk
      (requestFrame .upload_req (chunkRequest filemd5 size sent.length chunk) extra)
    served.2.up = true ∧
      if sent.length + chunk.length = size then
        replies served.1 = [⟨.upload_resp, extra.seq, filemd5, -1, -1, []⟩] ∧
          Uploaded name file (sent ++ chunk) served.2.desk
      else
        replies served.1 = [⟨.upload_resp, extra.seq, filemd5, int32OfNat sent.length,
            int32OfNat size, []⟩] ∧
          Uploading fs name file (sent ++ chunk) served.2.desk := by
  intro served
  have asked : order (requestFrame .upload_req (chunkRequest filemd5 size sent.length chunk) extra) =
      some (.upload extra.seq (chunkRequest filemd5 size sent.length chunk)) :=
    order_request .upload_req _ extra named
      (by simp only [chunkRequest]; omega) short (by simp only [chunkRequest]; omega)
  obtain ⟨held, writes, seq, uploading⟩ := upload_writes resolved
    (requestFrame .upload_req (chunkRequest filemd5 size sent.length chunk) extra).luck rfl
    (chunkRequest filemd5 size sent.length chunk) sameName (setSeq (fun _ => extra.seq) desk) sent
    (by omega) rfl (awaiting_setSeq _ sent desk awaiting)
  have placed : (chunkRequest filemd5 size sent.length chunk).offset.toInt = sent.length :=
    int32OfNat_toInt sent.length (by omega)
  have completes : Completes (chunkRequest filemd5 size sent.length chunk) ↔
      sent.length + chunk.length = size := by
    rw [Completes, chunkRequest]
    dsimp only
    rw [int32OfNat_add, int32OfNat_inj _ _ (by omega) (by omega)]
  have result := (serve_order fs desk _ _ asked).trans (congrArg concluded writes)
  by_cases last : sent.length + chunk.length = size
  · obtain ⟨returned, answered, uploaded⟩ := chunk_last _ _ sameName held sent uploading placed
      filled (completes.mpr last)
    rw [show served = _ from result.trans (concluded_ok _ returned), if_pos last]
    refine ⟨rfl, ?_, uploaded.idle, uploaded.start, uploaded.listed, uploaded.stored⟩
    rw [answered, seq]
    rfl
  · obtain ⟨returned, answered, uploading⟩ := chunk_part resolved _ _ held sent uploading placed
      filled (completes.not.mpr last)
    rw [show served = _ from result.trans (concluded_ok _ returned), if_neg last]
    refine ⟨rfl, ?_, uploading.stream, uploading.unknown⟩
    rw [answered, seq]
    rfl

def uploadFrames (sent : Nat) : List (Bytes × Extra) → List Frame
  | [] => []
  | (chunk, extra) :: rest =>
      requestFrame .upload_req (chunkRequest filemd5 size sent chunk) extra ::
        uploadFrames (sent + chunk.length) rest

/-- What a response says about its upload. -/
def verdict (reply : Reply) : MsgType × Bytes × Bool :=
  (reply.kind, reply.filemd5, decide (reply.offset = -1 ∧ reply.filesize = -1))

theorem int32OfNat_nonnegative (value : Nat) (small : value < 2 ^ 31) : int32OfNat value ≠ -1 := by
  intro same
  have values := congrArg Int32.toInt same
  rw [int32OfNat_toInt value small, show (-1 : Int32).toInt = -1 from rfl] at values
  omega

theorem replies_append (front back : List Label) :
    replies (front ++ back) = replies front ++ replies back :=
  List.filterMap_append

/-- A frame that the process survives, and the frames behind it. -/
theorem run_served (desk : Desk) (frame : Frame) (rest : List Frame)
    (up : (serve fs desk frame).2.up = true) :
    run (sessionStep fs) ⟨desk, true⟩ (frame :: rest) =
      ((serve fs desk frame).1 ++
          (run (sessionStep fs) ⟨(serve fs desk frame).2.desk, true⟩ rest).1,
        (run (sessionStep fs) ⟨(serve fs desk frame).2.desk, true⟩ rest).2) := by
  have step : sessionStep fs ⟨desk, true⟩ frame = serve fs desk frame := rfl
  have station : (serve fs desk frame).2 = ⟨(serve fs desk frame).2.desk, true⟩ :=
    congrArg (Station.mk _) up
  rw [run, step, ← station]

theorem uploads_run (resolved : fs.resolve (cached name) = some file) (named : filemd5 ≠ [])
    (short : filemd5.length < 2 ^ 31) (sameName : filemd5.takeWhile (· ≠ 0) = name)
    (small : size ≤ 2 ^ 31 - 2 ^ 19) (chunks : List (Bytes × Extra)) (present : chunks ≠ [])
    (filled : ∀ entry ∈ chunks, entry.1 ≠ []) (sent : Bytes) (desk : Desk)
    (awaiting : Awaiting fs name file sent desk)
    (total : sent.length + (chunks.flatMap Prod.fst).length = size) :
    let outcome := run (sessionStep fs) ⟨desk, true⟩
      (uploadFrames filemd5 size sent.length chunks)
    outcome.2.up = true ∧ Uploaded name file (sent ++ chunks.flatMap Prod.fst) outcome.2.desk ∧
      (replies outcome.1).map verdict =
        List.replicate (chunks.length - 1) (.upload_resp, filemd5, false) ++
          [(.upload_resp, filemd5, true)] := by
  induction chunks generalizing sent desk with
  | nil => exact absurd rfl present
  | cons entry rest ih =>
      obtain ⟨chunk, extra⟩ := entry
      simp only [List.flatMap_cons, List.length_append] at total
      have here : chunk ≠ [] := filled (chunk, extra) List.mem_cons_self
      obtain ⟨up, result⟩ := chunk_served filemd5 size resolved named short small sent chunk
        sameName here (by omega) extra desk awaiting
      rw [uploadFrames, run_served desk _ _ up]
      dsimp only
      rw [replies_append, List.map_append]
      cases rest with
      | nil =>
          simp only [List.flatMap_nil, List.length_nil, Nat.add_zero] at total
          rw [if_pos total] at result
          obtain ⟨answered, uploaded⟩ := result
          simp only [uploadFrames, run, answered]
          exact ⟨trivial, by simpa using uploaded, rfl⟩
      | cons next later =>
          -- another chunk with data follows, so this one cannot end the file
          have more : 0 < (next.1).length :=
            List.length_pos_iff.mpr (filled next (List.mem_cons_of_mem _ List.mem_cons_self))
          simp only [List.flatMap_cons, List.length_append] at total
          rw [if_neg (by omega)] at result
          obtain ⟨answered, uploading⟩ := result
          obtain ⟨stillUp, uploaded, answers⟩ := ih (List.cons_ne_nil next later)
            (fun entry member => filled entry (List.mem_cons_of_mem _ member)) (sent ++ chunk) _
            (Or.inr ⟨by simp [here], uploading⟩)
            (by simp only [List.flatMap_cons, List.length_append]; omega)
          rw [List.length_append] at stillUp uploaded answers
          rw [answered, answers]
          have unfinished := int32OfNat_nonnegative sent.length (by omega)
          refine ⟨stillUp, ?_, ?_⟩
          · rw [List.flatMap_cons, ← List.append_assoc]
            exact uploaded
          · simp [verdict, unfinished, List.replicate_succ]

end Uploads

/-! The download, block by block. -/
section Downloads

variable (name file content : Bytes)

/-- Irreducible, so that no step counts it out. -/
@[irreducible] def blockBytes : Nat := 524288

theorem blockBytes_eq : blockBytes = 524288 := by rw [blockBytes]

theorem int32OfNat_blockBytes : int32OfNat blockBytes = blockSize := by
  rw [blockBytes_eq]
  rfl

structure Offered (desk : Desk) : Prop where
  listed : name ∈ desk.host.m_listFiles
  stored : desk.host.files.find? file = some content

structure Downloading (position : Nat) (desk : Desk) : Prop extends Offered name file content desk where
  stream : ∃ stream, desk.me.m_fp = some stream ∧ stream.file = file ∧ stream.base = position ∧
    stream.pending = [] ∧ stream.readable = true
  offset : desk.me.m_offset = int32OfNat position
  size : desk.me.m_filesize = int32OfNat content.length

structure Downloaded (desk : Desk) : Prop extends Offered name file content desk where
  idle : desk.me.m_fp = none
  start : desk.me.m_offset = 0
  size : desk.me.m_filesize = 0

variable {name file content}

theorem downloading_setSeq (change : Int32 → Int32) (position : Nat) (desk : Desk)
    (downloading : Downloading name file content position desk) :
    Downloading name file content position (setSeq change desk) :=
  ⟨⟨downloading.listed, downloading.stored⟩, downloading.stream, downloading.offset,
    downloading.size⟩

theorem downloaded_setSeq (change : Int32 → Int32) (desk : Desk)
    (downloaded : Downloaded name file content desk) :
    Downloaded name file content (setSeq change desk) :=
  ⟨⟨downloaded.listed, downloaded.stored⟩, downloaded.idle, downloaded.start, downloaded.size⟩

theorem int32OfNat_sub (whole part : Nat) (less : part ≤ whole) :
    int32OfNat whole - int32OfNat part = int32OfNat (whole - part) := by
  have sum := int32OfNat_add (whole - part) part
  rw [Nat.sub_add_cancel less] at sum
  rw [← sum, Int32.add_sub_cancel]

theorem block_size (position : Nat) (desk : Desk)
    (downloading : Downloading name file content position desk) (inside : position < content.length)
    (fits : content.length < 2 ^ 31) (room : position + blockBytes < 2 ^ 31) :
    currentSendSize desk.me = int32OfNat (min (content.length - position) blockBytes) := by
  have bytes := blockBytes_eq
  rw [currentSendSize, downloading.offset, downloading.size, ← int32OfNat_blockBytes,
    int32OfNat_add, int32OfNat_sub _ _ inside.le]
  have compare : int32OfNat content.length ≤ int32OfNat (position + blockBytes) ↔
      content.length ≤ position + blockBytes := by
    rw [Int32.le_iff_toInt_le, int32OfNat_toInt _ (by omega), int32OfNat_toInt _ (by omega)]
    exact Int.ofNat_le
  by_cases last : content.length ≤ position + blockBytes
  · rw [if_pos (compare.mpr last), Nat.min_eq_left (by omega)]
  · rw [if_neg (compare.not.mpr last), Nat.min_eq_right (by omega)]

theorem block_read (position count : Nat) (desk : Desk) (stream : File)
    (held : desk.me.m_fp = some stream) (here : stream.file = file) (base : stream.base = position)
    (idle : stream.pending = []) (readable : stream.readable = true)
    (stored : desk.host.files.find? file = some content) (positive : 0 < count)
    (fits : position + count ≤ content.length) (small : content.length < 2 ^ 31) :
    readBlock (int32OfNat count) desk =
      (readAt position count content,
        keep { stream with base := position + count } desk.host.files desk) := by
  have value := int32OfNat_toInt count (by omega)
  have some' : ¬ int32OfNat count ≤ 0 := by
    rw [Int32.le_iff_toInt_le, value, Int32.toInt_zero]
    omega
  have full : (readAt position count content).length = count := by
    rw [readAt, List.length_take, List.length_drop]
    omega
  subst here base
  rw [readBlock, held]
  simp only [if_neg some', value, Int.toNat_natCast,
    stream.get_idle count desk.host.files content idle readable stored, full, Nat.sub_self,
    List.replicate_zero, List.append_nil]

theorem readAt_capped (position : Nat) (whole : Bytes) :
    readAt position (min (whole.length - position) blockBytes) whole =
      readAt position blockBytes whole := by
  rw [readAt, readAt, ← List.length_drop, List.take_eq_take_min, min_eq_left (min_le_left _ _),
    List.take_eq_take_min (i := blockBytes), min_comm]

theorem block_sent (request : Request) (position : Nat) (desk : Desk)
    (downloading : Downloading name file content position desk) (inside : position < content.length)
    (fits : content.length < 2 ^ 31) (room : position + blockBytes < 2 ^ 31) :
    let outcome := sendBlock request desk
    outcome.value = .ok () ∧
      replies outcome.trace = [⟨.download_resp, desk.me.m_seq, request.filemd5,
        int32OfNat position, int32OfNat content.length, readAt position blockBytes content⟩] ∧
      if content.length ≤ position + blockBytes then Downloaded name file content outcome.state
      else Downloading name file content (position + blockBytes) outcome.state := by
  have bytes := blockBytes_eq
  obtain ⟨stream, held, here, base, idle, readable⟩ := downloading.stream
  generalize counted : min (content.length - position) blockBytes = count
  have sized := block_size position desk downloading inside fits room
  rw [counted] at sized
  have proper : ¬ int32OfNat count < 0 := by
    rw [Int32.lt_iff_toInt_lt, int32OfNat_toInt count (by omega), Int32.toInt_zero]
    omega
  have block := block_read position count desk stream held here base idle readable
    downloading.stored (by omega) (by omega) (by omega)
  have filedata : readAt position count content = readAt position blockBytes content := by
    rw [← counted, readAt_capped]
  intro outcome
  have result : outcome = _ :=
    (sendBlock_sized request desk).trans ((congrArg (fun size => sendSized request size desk)
      sized).trans (sendSized_block request desk (int32OfNat count) proper))
  rw [block, filedata] at result
  rw [result]
  refine ⟨rfl, ?_, ?_⟩
  · rw [← downloading.offset, ← downloading.size]
    rfl
  · have moved : desk.me.m_offset + int32OfNat count = int32OfNat (position + count) := by
      rw [downloading.offset, int32OfNat_add]
    have ends : desk.me.m_offset + int32OfNat count = desk.me.m_filesize ↔
        position + count = content.length := by
      rw [moved, downloading.size, int32OfNat_inj _ _ (by omega) (by omega)]
    let read := keep { stream with base := position + count } desk.host.files desk
    dsimp only
    by_cases last : content.length ≤ position + blockBytes
    · rw [if_pos last, advance_last read (int32OfNat count) _ rfl (ends.mpr (by omega)),
        Stream.flush, Stream.settle_idle 0 { stream with base := position + count } _ idle]
      exact ⟨⟨downloading.listed, downloading.stored⟩, rfl, rfl, rfl⟩
    · have full : count = blockBytes := by omega
      rw [if_neg last, advance_more read (int32OfNat count) (ends.not.mpr (by omega)), ← full]
      exact ⟨⟨downloading.listed, downloading.stored⟩,
        ⟨_, rfl, here, rfl, idle, readable⟩, moved, downloading.size⟩

variable (fs : FileSystem) (filemd5 : Bytes)

/-- Before the first block the stream has to be opened. -/
def Waiting (name file content : Bytes) (position : Nat) (desk : Desk) : Prop :=
  (position = 0 ∧ desk.me.m_fp = none ∧ desk.me.m_offset = 0 ∧ Offered name file content desk) ∨
    (0 < position ∧ Downloading name file content position desk)

theorem waiting_opens (resolved : fs.resolve (cached name) = some file) (luck : Luck)
    (request : Request) (named : request.name = name) (desk : Desk) (position : Nat)
    (granted : position = 0 → luck.opens = true) (inside : position < content.length)
    (fits : content.length < 2 ^ 31) (waiting : Waiting name file content position desk) :
    offered fs luck request.name desk.host = true ∧
      ∃ held, afterOpen fs luck request desk = (true, held) ∧ held.me.m_seq = desk.me.m_seq ∧
        Downloading name file content position held := by
  have listed : name ∈ desk.host.m_listFiles := by
    rcases waiting with ⟨-, -, -, offered⟩ | ⟨-, downloading⟩
    · exact offered.listed
    · exact downloading.listed
  have check : isFileExsit fs luck request.name desk.host = (true, desk.host) := by
    rw [isFileExsit, named, if_pos listed]
  have same : checked fs luck request desk = desk := by rw [checked, check]
  refine ⟨congrArg Prod.fst check, ?_⟩
  rcases waiting with ⟨rfl, idle, start, offered⟩ | ⟨-, downloading⟩
  · have opening : openOld fs luck (cached name) desk.host =
        (some { file := file, readable := true, opened := desk.host.opened },
          { desk.host with opened := desk.host.opened + 1 }) := by
      rw [openOld, resolved]
      simp only [granted rfl, offered.stored, Option.isSome_some, Bool.and_self, if_true]
    have proper : ¬ int32OfNat content.length ≤ 0 := by
      rw [Int32.le_iff_toInt_le, int32OfNat_toInt _ fits, Int32.toInt_zero]
      omega
    refine ⟨reading desk file content 0, ?_, rfl, ⟨offered.listed, offered.stored⟩,
      ⟨_, rfl, rfl, rfl, rfl, rfl⟩, start, rfl⟩
    rw [afterOpen, same, named, openDownload, idle]
    simp only [opening, offered.stored, Option.getD_some, if_neg proper, reading]
  · obtain ⟨stream, held, -⟩ := downloading.stream
    refine ⟨desk, ?_, rfl, downloading⟩
    rw [afterOpen, same, openDownload, held]

theorem download_sends (resolved : fs.resolve (cached name) = some file) (luck : Luck)
    (granted : luck.opens = true) (request : Request) (named : request.name = name) (desk : Desk)
    (position : Nat) (inside : position < content.length) (fits : content.length < 2 ^ 31)
    (waiting : Waiting name file content position desk) :
    ∃ held, onDownloadFileResponse fs luck request desk = sendBlock request held ∧
      held.me.m_seq = desk.me.m_seq ∧ Downloading name file content position held := by
  obtain ⟨hit, held, opening, seq, downloading⟩ := waiting_opens fs resolved luck request named desk
    position (fun _ => granted) inside fits waiting
  refine ⟨held, ?_, seq, downloading⟩
  rw [download_opened fs luck request desk hit (congrArg Prod.fst opening), opening]

/-- The sizes that a download request carries are not looked at. -/
structure Ask where
  offset : Int32
  filesize : Int32
  extra : Extra

def Ask.frame (filemd5 : Bytes) (ask : Ask) : Frame :=
  requestFrame .download_req ⟨filemd5, ask.offset, ask.filesize, []⟩ ask.extra

theorem block_served (resolved : fs.resolve (cached name) = some file) (named : filemd5 ≠ [])
    (short : filemd5.length < 2 ^ 31) (sameName : filemd5.takeWhile (· ≠ 0) = name) (ask : Ask)
    (desk : Desk) (position : Nat) (inside : position < content.length)
    (small : content.length ≤ 2 ^ 31 - 2 ^ 19)
    (waiting : Waiting name file content position desk) :
    let served := serve fs desk (ask.frame filemd5)
    served.2.up = true ∧
      replies served.1 = [⟨.download_resp, ask.extra.seq, filemd5, int32OfNat position,
        int32OfNat content.length, readAt position blockBytes content⟩] ∧
      if content.length ≤ position + blockBytes then Downloaded name file content served.2.desk
      else Downloading name file content (position + blockBytes) served.2.desk := by
  intro served
  have bytes := blockBytes_eq
  have asked : order (ask.frame filemd5) =
      some (.download ask.extra.seq ⟨filemd5, ask.offset, ask.filesize, []⟩) :=
    order_request .download_req _ ask.extra named (by simp only [List.length_nil]; omega) short
      (by simp)
  have ready : Waiting name file content position (setSeq (fun _ => ask.extra.seq) desk) :=
    waiting.imp
      (fun ⟨zero, idle, start, offered⟩ => ⟨zero, idle, start, offered.listed, offered.stored⟩)
      fun ⟨positive, downloading⟩ => ⟨positive, downloading_setSeq _ position desk downloading⟩
  obtain ⟨held, sends, seq, downloading⟩ := download_sends fs resolved (ask.frame filemd5).luck rfl
    ⟨filemd5, ask.offset, ask.filesize, []⟩ sameName _ position inside (by omega) ready
  obtain ⟨returned, answered, next⟩ := block_sent ⟨filemd5, ask.offset, ask.filesize, []⟩ position
    held downloading inside (by omega) (by omega)
  have result := (serve_order fs desk _ _ asked).trans
    ((congrArg concluded sends).trans (concluded_ok _ returned))
  rw [show served = _ from result]
  refine ⟨rfl, ?_, ?_⟩
  · rw [answered, seq]
    rfl
  · split_ifs at next ⊢ with last
    · have later := downloaded_setSeq (· + 1) _ next
      exact later
    · have later := downloading_setSeq (· + 1) _ _ next
      exact later

/-- How many requests a file of the given length takes. -/
def blocks (length : Nat) : Nat := (length + (blockBytes - 1)) / blockBytes

theorem downloads_run (resolved : fs.resolve (cached name) = some file) (named : filemd5 ≠ [])
    (short : filemd5.length < 2 ^ 31) (sameName : filemd5.takeWhile (· ≠ 0) = name)
    (small : content.length ≤ 2 ^ 31 - 2 ^ 19) (asks : List Ask) (position : Nat) (desk : Desk)
    (inside : position < content.length)
    (count : asks.length = blocks (content.length - position))
    (waiting : Waiting name file content position desk) :
    let outcome := run (sessionStep fs) ⟨desk, true⟩ (asks.map (Ask.frame filemd5))
    let answers := replies outcome.1
    Downloaded name file content outcome.2.desk ∧
      answers.map Reply.offset =
        (List.range asks.length).map (fun k => int32OfNat (position + k * blockBytes)) ∧
      (∀ reply ∈ answers, reply.kind = .download_resp ∧ reply.filemd5 = filemd5 ∧
        reply.filesize = int32OfNat content.length) ∧
      answers.flatMap Reply.filedata = content.drop position := by
  have bytes := blockBytes_eq
  induction asks generalizing position desk with
  | nil =>
      rw [List.length_nil, blocks, bytes] at count
      omega
  | cons ask rest ih =>
      obtain ⟨up, answered, next⟩ := block_served fs filemd5 resolved named short sameName ask desk
        position inside small waiting
      rw [List.map_cons, run_served desk _ _ up]
      dsimp only
      rw [replies_append, answered]
      by_cases last : content.length ≤ position + blockBytes
      · -- one block was left
        have none' : rest = [] := by
          rw [List.length_cons, blocks, bytes] at count
          exact List.length_eq_zero_iff.mp (by omega)
        rw [if_pos last] at next
        subst none'
        simp only [List.map_nil, run, replies, List.filterMap_nil, List.append_nil,
          List.flatMap_cons, List.flatMap_nil, List.mem_singleton, forall_eq]
        refine ⟨next, ?_, ⟨trivial, trivial, trivial⟩, ?_⟩
        · rw [List.length_singleton, List.range_one, List.map_singleton, List.map_singleton,
            Nat.zero_mul, Nat.add_zero]
        · rw [readAt, List.take_of_length_le]
          rw [List.length_drop]
          omega
      · rw [if_neg last] at next
        obtain ⟨downloaded, offsets, labels, filedata⟩ := ih (position + blockBytes) _ (by omega)
          (by rw [List.length_cons, blocks, bytes] at count; rw [blocks, bytes]; omega)
          (Or.inr ⟨by omega, next⟩)
        refine ⟨downloaded, ?_, ?_, ?_⟩
        · rw [List.map_append, offsets]
          have shifted : (fun k => int32OfNat (position + blockBytes + k * blockBytes)) =
              (fun k => int32OfNat (position + k * blockBytes)) ∘ Nat.succ := by
            funext k
            rw [Function.comp, Nat.succ_mul, Nat.add_assoc, Nat.add_comm blockBytes]
          rw [shifted, ← List.map_map, List.length_cons, List.range_succ_eq_map,
            List.map_singleton, List.map_cons, Nat.zero_mul, Nat.add_zero, List.singleton_append]
        · intro reply member
          rcases List.mem_append.mp member with here | later
          · rw [List.mem_singleton.mp here]
            exact ⟨rfl, rfl, rfl⟩
          · exact labels reply later
        · rw [List.flatMap_append, filedata, List.flatMap_singleton, readAt, ← List.drop_drop,
            List.take_append_drop]

end Downloads

/-! Sessions without a stream stand at offset 0, as long as no `fopen` for an
upload fails. -/
section Resting

variable (fs : FileSystem)

def Resting (me : FileSession) : Prop := me.m_fp = none → me.m_offset = 0

/-- If the event makes a handler call `fopen(.., "w")`, the file is opened. -/
def Granted (world : World) : Event → Prop
  | .frame _ frame => ∀ seq request, order frame = some (.upload seq request) →
      request.offset = 0 → offered fs frame.luck request.name world.host = false →
      (openNew fs frame.luck (cached request.name) world.host).1.isSome = true
  | _ => True

theorem resting_writeChunk (luck : Luck) (request : Request) (desk : Desk)
    (resting : Resting desk.me) : Resting (writeChunk luck request desk).state.me := by
  cases held : desk.me.m_fp with
  | none =>
      rw [writeChunk_null luck request desk held]
      exact resting
  | some stream =>
      by_cases empty : request.filedata = []
      · rw [writeChunk_empty luck request desk stream held empty]
        rintro ⟨⟩
      · by_cases last : Completes request
        · rw [writeChunk_last luck request desk stream held empty last]
          exact fun _ => rfl
        · rw [writeChunk_part luck request desk stream held empty last]
          rintro ⟨⟩

theorem resting_upload (luck : Luck) (request : Request) (desk : Desk) (resting : Resting desk.me)
    (granted : request.offset = 0 → offered fs luck request.name desk.host = false →
      (openNew fs luck (cached request.name) desk.host).1.isSome = true) :
    Resting (onUploadFileResponse fs luck request desk).state.me := by
  by_cases hit : offered fs luck request.name desk.host = true
  · rw [upload_offered fs luck request desk hit]
    exact resting
  · have absent := Bool.eq_false_iff.mpr hit
    by_cases first : request.offset = 0
    · have opened := granted first absent
      rw [upload_first fs luck request desk absent first opened]
      apply resting_writeChunk
      intro closed
      -- the stream just opened stands in `m_fp`
      have unopened : (openNew fs luck (cached request.name) desk.host).1 = none := closed
      rw [unopened] at opened
      cases opened
    · rw [upload_next fs luck request desk absent first]
      exact resting_writeChunk luck request desk resting

theorem resting_sendBlock (request : Request) (desk : Desk) (stream : File)
    (held : desk.me.m_fp = some stream) : Resting (sendBlock request desk).state.me := by
  rw [sendBlock_sized]
  generalize currentSendSize desk.me = size
  by_cases negative : size < 0
  · rw [sendSized_negative request desk size negative]
    intro closed
    rw [held] at closed
    cases closed
  · rw [sendSized_block request desk size negative]
    obtain ⟨later, files, kept⟩ := readBlock_keeps desk size stream held
    dsimp only
    rw [kept]
    by_cases last : desk.me.m_offset + size = desk.me.m_filesize
    · rw [advance_last (keep later files desk) size later rfl last]
      exact fun _ => rfl
    · rw [advance_more (keep later files desk) size last]
      rintro ⟨⟩

theorem resting_openDownload (luck : Luck) (name : Bytes) (desk : Desk)
    (resting : Resting desk.me) : Resting (openDownload fs luck name desk).2.me := by
  rw [openDownload]
  split
  · exact resting
  · next closed =>
    split
    · exact resting
    · dsimp only
      split_ifs <;> rintro ⟨⟩

theorem resting_download (luck : Luck) (request : Request) (desk : Desk)
    (resting : Resting desk.me) :
    Resting (onDownloadFileResponse fs luck request desk).state.me := by
  by_cases hit : offered fs luck request.name desk.host = true
  · by_cases granted : (afterOpen fs luck request desk).1 = true
    · obtain ⟨stream, held⟩ := openDownload_held fs _ luck request.name granted
      rw [download_opened fs luck request desk hit granted]
      exact resting_sendBlock request _ stream held
    · rw [download_unopened fs luck request desk hit (Bool.eq_false_iff.mpr granted)]
      exact resting_openDownload fs luck request.name (checked fs luck request desk) resting
  · rw [download_absent fs luck request desk (Bool.eq_false_iff.mpr hit)]
    exact resting

theorem resting_concluded (outcome : Outcome Desk Label Crash Unit)
    (resting : Resting outcome.state.me) : Resting (concluded outcome).2.desk.me := by
  rw [concluded]
  split <;> exact resting

theorem serve_rests (desk : Desk) (frame : Frame) (resting : Resting desk.me)
    (granted : ∀ seq request, order frame = some (.upload seq request) →
      request.offset = 0 → offered fs frame.luck request.name desk.host = false →
      (openNew fs frame.luck (cached request.name) desk.host).1.isSome = true) :
    Resting (serve fs desk frame).2.desk.me := by
  cases sent : order frame with
  | none =>
      obtain ⟨change, up, silent⟩ := serve_none fs desk frame sent
      rw [silent]
      exact resting
  | some asked =>
      rw [serve_order fs desk frame asked sent]
      apply resting_concluded
      cases asked with
      | upload seq request =>
          exact resting_upload fs frame.luck request _ resting (granted seq request sent)
      | download seq request => exact resting_download fs frame.luck request _ resting

def AllRest (world : World) : Prop :=
  ∀ conn me, world.m_sessions.find? conn = some me → Resting me

theorem step_rests (world : World) (event : Event) (rest : AllRest world)
    (granted : Granted fs world event) : AllRest (step fs world event).2 := by
  intro conn me found
  cases event with
  | connect fresh =>
      rw [step] at found
      split_ifs at found
      · rw [OrderedMap.find?_insert] at found
        split_ifs at found
        · cases old : world.m_sessions.find? fresh with
          | none =>
              rw [old, Option.getD_none, Option.some.injEq] at found
              subst found
              exact fun _ => rfl
          | some session =>
              rw [old, Option.getD_some, Option.some.injEq] at found
              exact found ▸ rest fresh session old
        · exact rest conn me found
      · exact rest conn me found
  | close gone =>
      rw [step] at found
      split_ifs at found
      · rw [OrderedMap.find?_erase] at found
        split_ifs at found
        exact rest conn me found
      · exact rest conn me found
  | restart saved => cases found
  | frame sender frame =>
      cases held : world.m_sessions.find? sender with
      | none =>
          have silent : (step fs world (.frame sender frame)).2 = world := by
            rw [step, held]
            split
            · next same => cases same
            · rfl
          rw [silent] at found
          exact rest conn me found
      | some session =>
          have served := step_serves fs sender world session held frame
          by_cases same : conn = sender
          · subst same
            rw [served.session, Option.some.injEq] at found
            subst found
            have before := rest conn session held
            rw [sessionStep]
            split_ifs
            · exact serve_rests fs ⟨session, world.host⟩ frame before granted
            · exact before
          · rw [served.others conn same] at found
            exact rest conn me found

/-- The state in which a session is idle has only `m_fp` to look at. -/
theorem run_rests (host : Host) (history : List Event)
    (granted : Along (step fs) (Granted fs) { host := host } history) :
    AllRest (run (step fs) { host := host } history).2 := by
  have start : AllRest { host := host } := by
    intro conn me found
    cases found
  generalize ({ host := host } : World) = world at granted start
  induction history generalizing world with
  | nil => exact start
  | cons event rest ih =>
      exact ih _ granted.2 (step_rests fs world event start granted.1)

end Resting

/-! Both together, in a running server. -/
section Transfer

/-- The responses that a connection is sent. -/
def answers (conn : Bytes) (trace : List (Bytes × Label)) : List Reply :=
  replies ((trace.filter fun entry => entry.1 = conn).map Prod.snd)

theorem answers_own (conn : Bytes) (trace : List Label) :
    answers conn (trace.map (conn, ·)) = replies trace := by
  rw [answers, List.filter_eq_self.mpr, List.map_map]
  · exact congrArg replies (List.map_id trace)
  · intro entry member
    obtain ⟨label, -, rfl⟩ := List.mem_map.mp member
    simp

def plainExtra : Extra := { seq := 7, probe := true, kept := 4096 }

end Transfer

end EdoyumIM.FileTransfer
