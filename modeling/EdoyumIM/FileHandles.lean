import EdoyumIM.FileSteps

/-!
Whether `m_fp` of a file session is NULL, over its requests. What lies outside
the session is up to each request: what IsFileExsit answers, whether `fopen`
succeeds, which size `ftell` tells, and whether `fwrite` writes its item. The
process is taken to end where a NULL stream is given to `fseek`, and where
`append` throws for a negative size.
-/

namespace EdoyumIM.FileHandles

open MachineWords Effects FileServer FileSteps

/-! The session, with a truth value for `m_fp != NULL`. -/
section Machine

structure Call where
  order : Order
  exsits : Bool
  opens : Bool
  size : Int32
  writes : Bool
  deriving DecidableEq

structure Holder where
  up : Bool := true
  m_fp : Bool := false
  m_offset : Int32 := 0
  m_filesize : Int32 := 0
  deriving DecidableEq

def Holder.sendSize (holder : Holder) : Int32 :=
  currentSendSize { m_offset := holder.m_offset, m_filesize := holder.m_filesize }

def resetFile (holder : Holder) : Holder :=
  if holder.m_fp then { holder with m_fp := false, m_offset := 0, m_filesize := 0 } else holder

/-- From `fseek` on; the trace keeps what `fseek` finds in `m_fp`. -/
def writeChunk (call : Call) (request : Request) (holder : Holder) : List Bool × Holder :=
  ([holder.m_fp],
    if holder.m_fp = false then { holder with up := false }
    else if call.writes = true ∧ request.filedata ≠ [] then
      if Completes request then resetFile holder else holder
    else holder)

def onUploadFileResponse (call : Call) (request : Request) (holder : Holder) :
    List Bool × Holder :=
  if call.exsits then ([], holder)
  else if request.offset = 0 then
    if call.opens then writeChunk call request { holder with m_fp := true }
    else ([], { holder with m_fp := false })
  else writeChunk call request holder

def openDownload (call : Call) (holder : Holder) : Bool × Holder :=
  if holder.m_fp then (true, holder)
  else if call.opens then
    (decide (¬ call.size ≤ 0), { holder with m_fp := true, m_filesize := call.size })
  else (false, holder)

def sendBlock (holder : Holder) : Holder :=
  if holder.sendSize < 0 then { holder with up := false }
  else
    let moved : Holder := { holder with m_offset := holder.m_offset + holder.sendSize }
    if moved.m_offset = moved.m_filesize then resetFile moved else moved

def onDownloadFileResponse (call : Call) (holder : Holder) : Holder :=
  if call.exsits then
    match openDownload call holder with
    | (false, failed) => failed
    | (true, ready) => sendBlock ready
  else holder

def step (holder : Holder) (call : Call) : List Bool × Holder :=
  if holder.up then
    match call.order with
    | .upload _ request => onUploadFileResponse call request holder
    | .download _ _ => ([], onDownloadFileResponse call holder)
  else ([], holder)

end Machine

/-! The requests that open the stream, and those that give it up. -/
section Requests

/-- An upload that opens its file anew, or a download that opens one. -/
def Opens (holder : Holder) (call : Call) : Prop :=
  holder.up = true ∧ call.opens = true ∧
    match call.order with
    | .upload _ request => call.exsits = false ∧ request.offset = 0
    | .download _ _ => call.exsits = true ∧ holder.m_fp = false

def LastBlock (holder : Holder) : Prop :=
  ¬ holder.sendSize < 0 ∧ holder.m_offset + holder.sendSize = holder.m_filesize

/-- An upload whose `fopen` fails or that completes its file, or a download of
the last block. -/
def GivesUp (holder : Holder) (call : Call) : Prop :=
  holder.up = true ∧
    match call.order with
    | .upload _ request =>
        call.exsits = false ∧ ((request.offset = 0 ∧ call.opens = false) ∨
          (call.writes = true ∧ request.filedata ≠ [] ∧ Completes request))
    | .download _ _ =>
        call.exsits = true ∧ (openDownload call holder).1 = true ∧
          LastBlock (openDownload call holder).2

/-- An upload that goes on with the stream there is. -/
def GoesOn (holder : Holder) (call : Call) : Prop :=
  holder.up = true ∧ ∃ seq request, call.order = .upload seq request ∧ call.exsits = false ∧
    request.offset ≠ 0

theorem writeChunk_held (call : Call) (request : Request) (holder : Holder) :
    (writeChunk call request holder).2.m_fp = true ↔
      holder.m_fp = true ∧
        ¬ (call.writes = true ∧ request.filedata ≠ [] ∧ Completes request) := by
  cases held : holder.m_fp with
  | false => simp [writeChunk, held]
  | true =>
      by_cases written : call.writes = true ∧ request.filedata ≠ []
      · by_cases last : Completes request
        · simp [writeChunk, held, written, last, resetFile]
        · simp [writeChunk, held, last]
      · have unfinished : ¬ (call.writes = true ∧ request.filedata ≠ [] ∧ Completes request) :=
          fun all => written ⟨all.1, all.2.1⟩
        simp [writeChunk, held, if_neg written, unfinished]

theorem upload_held (call : Call) (request : Request) (holder : Holder) :
    (onUploadFileResponse call request holder).2.m_fp = true ↔
      ((call.opens = true ∧ call.exsits = false ∧ request.offset = 0) ∨ holder.m_fp = true) ∧
      ¬ (call.exsits = false ∧ ((request.offset = 0 ∧ call.opens = false) ∨
        (call.writes = true ∧ request.filedata ≠ [] ∧ Completes request))) := by
  rw [onUploadFileResponse]
  cases found : call.exsits with
  | true => simp
  | false =>
      by_cases first : request.offset = 0
      · cases opened : call.opens with
        | true => simp [first, writeChunk_held]
        | false => simp [first]
      · simp [first, writeChunk_held]

theorem sendBlock_held (holder : Holder) :
    (sendBlock holder).m_fp = true ↔ holder.m_fp = true ∧ ¬ LastBlock holder := by
  by_cases negative : holder.sendSize < 0
  · simp [sendBlock, LastBlock, negative]
  · by_cases last : holder.m_offset + holder.sendSize = holder.m_filesize
    · cases held : holder.m_fp <;> simp [sendBlock, LastBlock, negative, last, resetFile, held]
    · simp [sendBlock, LastBlock, negative, last]

theorem download_held (call : Call) (holder : Holder) :
    (onDownloadFileResponse call holder).m_fp = true ↔
      ((call.opens = true ∧ call.exsits = true ∧ holder.m_fp = false) ∨ holder.m_fp = true) ∧
      ¬ (call.exsits = true ∧ (openDownload call holder).1 = true ∧
        LastBlock (openDownload call holder).2) := by
  rw [onDownloadFileResponse]
  cases found : call.exsits with
  | false => simp
  | true =>
      have opened : (openDownload call holder).2.m_fp = true ↔
          (call.opens = true ∧ holder.m_fp = false) ∨ holder.m_fp = true := by
        rw [openDownload]
        cases held : holder.m_fp with
        | true => simp [held]
        | false => cases call.opens <;> simp [held]
      rcases opening : openDownload call holder with ⟨ready, later⟩
      rw [opening] at opened
      cases ready with
      | false => simpa using opened
      | true => simp [sendBlock_held, opened]

/-- What a request does to `m_fp`. -/
theorem step_held (holder : Holder) (call : Call) :
    (step holder call).2.m_fp = true ↔
      (Opens holder call ∨ holder.m_fp = true) ∧ ¬ GivesUp holder call := by
  rw [step, Opens, GivesUp]
  cases up : holder.up with
  | false => simp
  | true =>
      cases order : call.order with
      | upload seq request => simpa using upload_held call request holder
      | download seq request => simpa using download_held call holder

theorem writeChunk_trace (call : Call) (request : Request) (holder : Holder) :
    (writeChunk call request holder).1 = [holder.m_fp] := rfl

/-- Only an upload that goes on can find no stream. -/
theorem step_trace (holder : Holder) (call : Call) :
    (∀ held ∈ (step holder call).1, held = true) ↔ (GoesOn holder call → holder.m_fp = true) := by
  rw [step, GoesOn]
  cases up : holder.up with
  | false => simp
  | true =>
      cases order : call.order with
      | download seq request => simp
      | upload seq request =>
          simp only [if_true, onUploadFileResponse]
          cases found : call.exsits with
          | true => simp
          | false =>
              by_cases first : request.offset = 0
              · cases opened : call.opens with
                | true => simp [first, writeChunk_trace]
                | false => simp [first]
              · simp [first, writeChunk_trace]

end Requests

/-! Any requests, from a fresh session on. -/
section Runs

/-- Some request opened the stream, and neither it nor one behind it gave the
stream up. -/
def LeftOpen (before : List Call) : Prop :=
  ∃ earlier opening later, before = earlier ++ opening :: later ∧
    Opens (run step {} earlier).2 opening ∧
    Along step (fun holder call => ¬ GivesUp holder call) (run step {} earlier).2 (opening :: later)

theorem held_iff (before : List Call) : (run step {} before).2.m_fp = true ↔ LeftOpen before := by
  have latched := latched_iff step (fun holder => holder.m_fp = true) step_held {} before
  rw [latched]
  constructor
  · rintro (⟨fresh, -⟩ | left)
    · cases fresh
    · exact left
  · exact Or.inr

/-- `fseek` never meets a NULL stream exactly if every upload that goes on has
a stream left open for it. -/
theorem uploads_hold_stream_iff (calls : List Call) :
    (∀ held ∈ (run step {} calls).1, held = true) ↔
      ∀ before call after, calls = before ++ call :: after →
        GoesOn (run step {} before).2 call → LeftOpen before := by
  rw [along_trace step (fun held => held = true), along_congr step step_trace, along_splits]
  apply forall_congr'
  intro before
  rw [held_iff]

/-- A chunk in the middle as the first request, and a download between two chunks. -/
theorem chunk_without_stream :
    (run step {} [⟨.upload 1 ⟨[97], 1, 2, [1]⟩, false, true, 0, true⟩]).1 = [false] ∧
    (run step {} [⟨.upload 1 ⟨[97], 0, 2, [1]⟩, false, true, 0, true⟩,
      ⟨.download 2 ⟨[98], 0, 0, []⟩, true, true, 5, true⟩,
      ⟨.upload 3 ⟨[97], 1, 2, [1]⟩, false, true, 0, true⟩]).1 = [true, false] := by
  decide +kernel

end Runs

/-! The file server, whose writes succeed, as one such machine. -/
section Server

variable (fs : FileSystem) (luck : Luck)

def holderOf (up : Bool) (me : FileSession) : Holder :=
  ⟨up, me.m_fp.isSome, me.m_offset, me.m_filesize⟩

/-- What a request meets at the server. -/
def callOf (asked : Order) (desk : Desk) : Call :=
  match asked with
  | .upload _ request =>
      { order := asked, exsits := offered fs luck request.name desk.host
        opens := (openUpload fs luck request.name desk).1, size := 0, writes := true }
  | .download _ request =>
      let (stream, host) := openOld fs luck (cached request.name)
        (isFileExsit fs luck request.name desk.host).2
      { order := asked, exsits := offered fs luck request.name desk.host, opens := stream.isSome
        size := int32OfNat ((stream.bind fun stream => host.files.find? stream.file).getD []).length
        writes := true }

/-- A handler does to the session what the machine does, and ends with a NULL
stream where the machine meets one. -/
structure Simulates (result : List Bool × Holder) (outcome : Outcome Desk Label Crash Unit) :
    Prop where
  holder : result.2 = holderOf outcome.value.isOk outcome.state.me
  null : false ∈ result.1 ↔ outcome.value = .error .nullStream

variable {luck}

theorem writeChunk_simulates (call : Call) (request : Request) (desk : Desk)
    (writes : call.writes = true) :
    Simulates (writeChunk call request (holderOf true desk.me))
      (FileServer.writeChunk luck request desk) := by
  cases held : desk.me.m_fp with
  | none =>
      rw [writeChunk_null luck request desk held]
      exact ⟨by simp [writeChunk, holderOf, held, Except.isOk, Except.toBool],
        by simp [writeChunk, holderOf, held]⟩
  | some stream =>
      by_cases empty : request.filedata = []
      · rw [writeChunk_empty luck request desk stream held empty]
        exact ⟨by simp [writeChunk, holderOf, held, empty, keep, Except.isOk, Except.toBool],
          by simp [writeChunk, holderOf, held]⟩
      · by_cases last : Completes request
        · rw [writeChunk_last luck request desk stream held empty last]
          exact ⟨by simp [writeChunk, holderOf, held, empty, writes, last, resetFile,
            Except.isOk, Except.toBool], by simp [writeChunk, holderOf, held]⟩
        · rw [writeChunk_part luck request desk stream held empty last]
          exact ⟨by simp [writeChunk, holderOf, held, last, keep, Except.isOk, Except.toBool],
            by simp [writeChunk, holderOf, held]⟩

theorem upload_simulates (seq : Int32) (request : Request) (desk : Desk) :
    Simulates
      (onUploadFileResponse (callOf fs luck (.upload seq request) desk) request
        (holderOf true desk.me))
      (FileServer.onUploadFileResponse fs luck request desk) := by
  rw [onUploadFileResponse, callOf]
  dsimp only
  cases found : offered fs luck request.name desk.host with
  | true =>
      rw [upload_offered fs luck request desk found, if_pos rfl]
      exact ⟨rfl, by simp⟩
  | false =>
      rw [if_neg Bool.false_ne_true]
      by_cases first : request.offset = 0
      · rw [if_pos first]
        cases opening : (openUpload fs luck request.name desk).1 with
        | false =>
            rw [upload_unopened fs luck request desk found first opening, if_neg Bool.false_ne_true,
              openUpload_failed fs luck request desk opening]
            exact ⟨rfl, by simp⟩
        | true =>
            obtain ⟨file, -, opened⟩ := openUpload_granted fs luck request desk opening
            rw [upload_first fs luck request desk found first opening, if_pos rfl, opened]
            exact writeChunk_simulates _ request
              { me := { desk.me with
                  m_fp := some { file := file, readable := false, opened := desk.host.opened } }
                host := { desk.host with
                  files := desk.host.files.set file [], opened := desk.host.opened + 1
                  leaked := desk.me.m_fp.toList ++ desk.host.leaked } } rfl
      · rw [if_neg first, upload_next fs luck request desk found first]
        exact writeChunk_simulates _ request desk rfl

theorem sendBlock_simulates (request : Request) (desk : Desk) (stream : File)
    (held : desk.me.m_fp = some stream) :
    sendBlock (holderOf true desk.me) =
      holderOf (FileServer.sendBlock request desk).value.isOk
        (FileServer.sendBlock request desk).state.me ∧
    (FileServer.sendBlock request desk).value ≠ .error .nullStream := by
  have size : (holderOf true desk.me).sendSize = currentSendSize desk.me := rfl
  rw [sendBlock_sized, sendBlock, size]
  generalize currentSendSize desk.me = count
  by_cases negative : count < 0
  · rw [sendSized_negative request desk count negative, if_pos negative]
    exact ⟨rfl, by simp⟩
  · obtain ⟨later, files, read⟩ := readBlock_keeps desk count stream held
    rw [sendSized_block request desk count negative, if_neg negative, read]
    refine ⟨?_, by simp⟩
    by_cases last : desk.me.m_offset + count = desk.me.m_filesize
    · rw [advance_last (keep later files desk) count later rfl last]
      simp [holderOf, last, resetFile, held, Except.isOk, Except.toBool]
    · rw [advance_more (keep later files desk) count last]
      simp [holderOf, last, held, keep, Except.isOk, Except.toBool]

theorem openDownload_simulates (seq : Int32) (request : Request) (desk : Desk) :
    openDownload (callOf fs luck (.download seq request) desk) (holderOf true desk.me) =
      ((afterOpen fs luck request desk).1, holderOf true (afterOpen fs luck request desk).2.me) := by
  rw [openDownload, afterOpen, FileServer.openDownload, checked]
  cases held : desk.me.m_fp with
  | some stream => simp [holderOf, held]
  | none =>
      rcases opening : openOld fs luck (cached request.name)
        (isFileExsit fs luck request.name desk.host).2 with ⟨stream, host⟩
      cases stream with
      | none => simp [holderOf, held, callOf, opening]
      | some stream =>
          by_cases empty : int32OfNat ((host.files.find? stream.file).getD []).length ≤ 0
          · simp [holderOf, held, callOf, opening, empty]
          · simp [holderOf, held, callOf, opening, empty]

theorem download_simulates (seq : Int32) (request : Request) (desk : Desk) :
    Simulates ([], onDownloadFileResponse (callOf fs luck (.download seq request) desk)
        (holderOf true desk.me))
      (FileServer.onDownloadFileResponse fs luck request desk) := by
  have asked : (callOf fs luck (.download seq request) desk).exsits =
      offered fs luck request.name desk.host := rfl
  rw [onDownloadFileResponse, asked, openDownload_simulates]
  cases found : offered fs luck request.name desk.host with
  | false =>
      rw [download_absent fs luck request desk found, if_neg Bool.false_ne_true]
      exact ⟨rfl, by simp⟩
  | true =>
      rw [if_pos rfl]
      cases opening : (afterOpen fs luck request desk).1 with
      | false =>
          rw [download_unopened fs luck request desk found opening]
          exact ⟨rfl, by simp⟩
      | true =>
          rw [download_opened fs luck request desk found opening]
          have opened : ∃ stream, (afterOpen fs luck request desk).2.me.m_fp = some stream :=
            openDownload_held fs (checked fs luck request desk) luck request.name opening
          generalize (afterOpen fs luck request desk).2 = ready at opened ⊢
          obtain ⟨stream, held⟩ := opened
          obtain ⟨same, proper⟩ := sendBlock_simulates request ready stream held
          constructor
          · dsimp only
            rw [same]
          · simp [proper]

/-- A frame that hands a request to one of the handlers does to the session what
the machine does. -/
theorem frame_simulates (desk : Desk) (frame : Frame) (asked : Order)
    (sent : order frame = some asked) :
    holderOf (sessionStep fs ⟨desk, true⟩ frame).2.up (sessionStep fs ⟨desk, true⟩ frame).2.desk.me =
      (step (holderOf true desk.me) (callOf fs frame.luck asked desk)).2 ∧
    (false ∈ (step (holderOf true desk.me) (callOf fs frame.luck asked desk)).1 ↔
      (handled fs frame.luck asked desk).value = .error .nullStream) := by
  have served : sessionStep fs ⟨desk, true⟩ frame =
      concluded (handled fs frame.luck asked desk) := by
    rw [sessionStep, if_pos rfl, serve_order fs desk frame asked sent]
  have one : Simulates (step (holderOf true desk.me) (callOf fs frame.luck asked desk))
      (handled fs frame.luck asked desk) := by
    cases asked with
    | upload seq request => exact upload_simulates fs seq request (setSeq (fun _ => seq) desk)
    | download seq request => exact download_simulates fs seq request (setSeq (fun _ => seq) desk)
  refine ⟨?_, one.null⟩
  rw [served, one.holder, concluded]
  cases value : (handled fs frame.luck asked desk).value with
  | error crash => rfl
  | ok done => rfl

end Server

end EdoyumIM.FileHandles
