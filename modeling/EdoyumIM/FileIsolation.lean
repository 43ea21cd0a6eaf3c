import EdoyumIM.FileTransfer

/-!
One session and its single `m_fp`. No name is tied to the stream: it is opened
by the first chunk of an upload and by a download, and every later chunk or
block goes through whatever it is. The results say for which sequences of
requests an upload stays in its own file and a download shows its own file.
-/

namespace EdoyumIM.FileIsolation

open MachineWords FieldCodec OrderedStore ByteFiles Effects FileServer FileSteps FileTransfer

/-! What the files hold, the bytes that wait in the streams included. -/
section Contents

def streams (desk : Desk) : List File := desk.me.m_fp.toList ++ desk.host.leaked

def contentOf (file : Bytes) (desk : Desk) : Option Bytes :=
  shown desk.host.files (streams desk) file

def target (fs : FileSystem) (request : Request) : Option Bytes := fs.resolve (cached request.name)

variable (fs : FileSystem) (luck : Luck) (request : Request) (desk : Desk)

/-- Between two desks only the given upload, if any, may have written: its data,
at its offset, in its file. -/
structure Confined (upload : Option Request) (before : Desk) (trace : List Label)
    (after : Desk) : Prop where
  wrote : ∀ file position data, Label.wrote file position data ∈ trace →
    ∃ request, upload = some request ∧ target fs request = some file ∧
      (position : Int) = request.offset.toInt ∧ data = request.filedata
  kept : ∀ file, (∀ request, upload = some request → target fs request ≠ some file) →
    contentOf file after = contentOf file before

variable {fs}

theorem Confined.still {before after : Desk} (upload : Option Request)
    (same : ∀ file, contentOf file after = contentOf file before) :
    Confined fs upload before [] after :=
  ⟨fun _ _ _ member => absurd member List.not_mem_nil, fun file _ => same file⟩

theorem Confined.then {upload : Option Request} {before between after : Desk}
    {trace : List Label} (first : Confined fs upload before [] between)
    (second : Confined fs upload between trace after) : Confined fs upload before trace after :=
  ⟨second.wrote, fun file apart => (second.kept file apart).trans (first.kept file apart)⟩

theorem content_moved (stream later : File) (files : Disk Bytes UInt8) (file : Bytes)
    (held : desk.me.m_fp = some stream)
    (same : ∀ rest, shown files (later :: rest) file = shown desk.host.files (stream :: rest) file) :
    contentOf file (keep later files desk) = contentOf file desk := by
  rw [contentOf, contentOf, streams, streams, held]
  exact same desk.host.leaked

theorem sought_confined (stream : File) (held : desk.me.m_fp = some stream)
    (upload : Option Request) :
    Confined fs upload desk [] (keep (sought request stream desk.host.files).1
      (sought request stream desk.host.files).2 desk) :=
  .still upload fun file => content_moved desk stream _ _ file held fun rest =>
    shown_seek request.offset.toInt stream rest desk.host.files file

/-- Bytes put to a stream matter to no other file. -/
theorem written_other (stream : File) (files : Disk Bytes UInt8) (rest : List File) (file : Bytes)
    (other : stream.file ≠ file) :
    shown (written luck request stream files).2 ((written luck request stream files).1 :: rest)
        file = shown files (stream :: rest) file := by
  rw [written, shown_put, ← shown_seek request.offset.toInt stream rest files file, shown, shown]
  congr 1
  funext content
  have elsewhere : (sought request stream files).1.file ≠ file := by
    rwa [sought, Stream.seek_file]
  rw [overlay_cons, overlay_cons file (stream.seek request.offset.toInt files).1]
  congr 1
  simp only [overlay, List.foldl_cons, List.foldl_nil, if_neg elsewhere]
  rw [if_neg (show (stream.seek request.offset.toInt files).1.file ≠ file from elsewhere)]

/-- `fwrite` as its label tells it. -/
theorem wrote_placed (stream : File) (files : Disk Bytes UInt8) (reply : Reply)
    (here : target fs request = some stream.file) (placed : 0 ≤ request.offset.toInt) :
    ∀ file position data, Label.wrote file position data ∈
        [.wrote (sought request stream files).1.file (sought request stream files).1.tell
          request.filedata, .send reply.bytes reply] →
      ∃ upload, some request = some upload ∧ target fs upload = some file ∧
        (position : Int) = upload.offset.toInt ∧ data = upload.filedata := by
  intro file position data member
  rcases List.mem_cons.mp member with wrote | sent
  · obtain ⟨rfl, rfl, rfl⟩ := Label.wrote.inj wrote
    refine ⟨request, rfl, ?_, ?_, rfl⟩
    · rw [sought, Stream.seek_file, here]
    · rw [sought, Stream.seek_tell, if_pos placed, Int.toNat_of_nonneg placed]
  · rcases List.mem_singleton.mp sent with ⟨⟩

theorem writeChunk_confined
    (fits : request.filedata ≠ [] → ∀ stream, desk.me.m_fp = some stream →
      target fs request = some stream.file ∧ 0 ≤ request.offset.toInt) :
    Confined fs (some request) desk (writeChunk luck request desk).trace
      (writeChunk luck request desk).state := by
  cases held : desk.me.m_fp with
  | none =>
      rw [writeChunk_null luck request desk held]
      exact .still _ fun _ => rfl
  | some stream =>
      by_cases empty : request.filedata = []
      · rw [writeChunk_empty luck request desk stream held empty]
        exact sought_confined request desk stream held (some request)
      · obtain ⟨here, placed⟩ := fits empty stream held
        have other : ∀ file, (∀ upload, some request = some upload → target fs upload ≠ some file) →
            stream.file ≠ file := by
          rintro file apart rfl
          exact apart request rfl here
        by_cases last : Completes request
        · rw [writeChunk_last luck request desk stream held empty last]
          refine ⟨wrote_placed request stream _ _ here placed, fun file apart => ?_⟩
          -- closing the stream writes out what it kept
          rw [contentOf, contentOf, streams, streams, held]
          exact (shown_flush _ desk.host.leaked _ file).trans
            (written_other luck request stream desk.host.files desk.host.leaked file
              (other file apart))
        · rw [writeChunk_part luck request desk stream held empty last]
          refine ⟨wrote_placed request stream _ _ here placed, fun file apart => ?_⟩
          exact content_moved desk stream _ _ file held fun rest =>
            written_other luck request stream desk.host.files rest file (other file apart)

theorem openUpload_confined :
    Confined fs (some request) desk [] (openUpload fs luck request.name desk).2 := by
  refine ⟨fun _ _ _ member => absurd member List.not_mem_nil, fun file apart => ?_⟩
  cases granted : (openUpload fs luck request.name desk).1 with
  | false =>
      rw [openUpload_failed fs luck request desk granted]
      rfl
  | true =>
      obtain ⟨opened, resolved, opening⟩ := openUpload_granted fs luck request desk granted
      have elsewhere : file ≠ opened := by
        rintro rfl
        exact apart request rfl resolved
      rw [opening]
      refine (shown_idle _ _ _ file rfl).trans ?_
      rw [shown, OrderedMap.find?_set, if_neg elsewhere]
      rfl

/-- The chunk goes to the file that the stream in `m_fp` stands on. -/
def Fits (fs : FileSystem) (luck : Luck) (request : Request) (desk : Desk) : Prop :=
  offered fs luck request.name desk.host = false → request.offset ≠ 0 → request.filedata ≠ [] →
    ∀ stream, desk.me.m_fp = some stream →
      target fs request = some stream.file ∧ 0 < request.offset

theorem upload_confined (fits : Fits fs luck request desk) :
    Confined fs (some request) desk (onUploadFileResponse fs luck request desk).trace
      (onUploadFileResponse fs luck request desk).state := by
  by_cases hit : offered fs luck request.name desk.host = true
  · rw [upload_offered fs luck request desk hit]
    obtain ⟨listed, host, -⟩ := isFileExsit_host fs luck request.name desk.host
    rw [host]
    refine ⟨fun file position data member => ?_, fun file _ => rfl⟩
    rcases List.mem_singleton.mp member with ⟨⟩
  · have absent := Bool.eq_false_iff.mpr hit
    by_cases first : request.offset = 0
    · have opening : Confined fs (some request) desk []
          (openUpload fs luck request.name desk).2 := openUpload_confined luck request desk
      cases granted : (openUpload fs luck request.name desk).1 with
      | false =>
          rw [upload_unopened fs luck request desk absent first granted]
          exact opening
      | true =>
          rw [upload_first fs luck request desk absent first granted]
          refine opening.then (writeChunk_confined luck request _ fun _ stream held => ?_)
          obtain ⟨file, resolved, opened⟩ := openUpload_granted fs luck request desk granted
          rw [opened] at held
          obtain rfl := Option.some.inj held
          exact ⟨resolved, by rw [first]; rfl⟩
    · rw [upload_next fs luck request desk absent first]
      refine writeChunk_confined luck request desk fun filled stream held => ?_
      obtain ⟨here, positive⟩ := fits absent first filled stream held
      exact ⟨here, by simpa using (Int32.lt_iff_toInt_lt.mp positive).le⟩

theorem writeChunk_wrote (stream : File) (held : desk.me.m_fp = some stream)
    (filled : request.filedata ≠ []) :
    Label.wrote (sought request stream desk.host.files).1.file
        (sought request stream desk.host.files).1.tell request.filedata ∈
      (writeChunk luck request desk).trace := by
  by_cases last : Completes request
  · rw [writeChunk_last luck request desk stream held filled last]
    exact List.mem_cons_self
  · rw [writeChunk_part luck request desk stream held filled last]
    exact List.mem_cons_self

theorem sendSized_confined (size : Int32) (upload : Option Request) (stream : File)
    (held : desk.me.m_fp = some stream) :
    Confined fs upload desk (sendSized request size desk).trace
      (sendSized request size desk).state := by
  by_cases negative : size < 0
  · rw [sendSized_negative request desk size negative]
    exact .still upload fun _ => rfl
  · rw [sendSized_block request desk size negative]
    refine ⟨fun file position data member => ?_, fun file _ => ?_⟩
    · rcases List.mem_singleton.mp member with ⟨⟩
    · -- the block is read through the stream, and the last one closes it
      obtain ⟨later, files, block, same⟩ : ∃ later files,
          (readBlock size desk).2 = keep later files desk ∧ ∀ rest,
            shown files (later :: rest) file = shown desk.host.files (stream :: rest) file := by
        rw [readBlock_held desk size stream held]
        split_ifs
        · exact ⟨stream, desk.host.files, by rw [keep, ← held], fun _ => rfl⟩
        · exact ⟨_, _, rfl, fun rest => shown_get _ stream rest desk.host.files file⟩
      dsimp only
      rw [block]
      by_cases last : desk.me.m_offset + size = desk.me.m_filesize
      · rw [advance_last (keep later files desk) size later rfl last, contentOf, contentOf, streams,
          streams, held]
        exact (shown_flush later desk.host.leaked files file).trans (same desk.host.leaked)
      · rw [advance_more (keep later files desk) size last]
        exact content_moved desk stream later files file held same

theorem openDownload_confined (name : Bytes) (upload : Option Request) :
    Confined fs upload desk [] (openDownload fs luck name desk).2 := by
  refine .still upload fun file => ?_
  rcases openDownload_cases fs desk luck name with
    ⟨stream, -, same⟩ | ⟨-, same⟩ | ⟨closed, opened, content, -, -, opening⟩
  · rw [same]
  · rw [same]
  · rw [opening]
    split_ifs
    all_goals
      rw [contentOf, contentOf, streams, streams, closed]
      exact shown_idle _ _ _ file rfl

theorem download_confined (upload : Option Request) :
    Confined fs upload desk (onDownloadFileResponse fs luck request desk).trace
      (onDownloadFileResponse fs luck request desk).state := by
  by_cases hit : offered fs luck request.name desk.host = true
  · have looked : Confined fs upload desk [] (checked fs luck request desk) := by
      obtain ⟨listed, host, -⟩ := isFileExsit_host fs luck request.name desk.host
      rw [checked, host]
      exact .still upload fun _ => rfl
    have opening := looked.then
      (openDownload_confined luck (checked fs luck request desk) request.name upload)
    by_cases granted : (afterOpen fs luck request desk).1 = true
    · obtain ⟨stream, held⟩ := openDownload_held fs _ luck request.name granted
      rw [download_opened fs luck request desk hit granted, sendBlock_sized]
      exact opening.then (sendSized_confined request _ _ upload stream held)
    · rw [download_unopened fs luck request desk hit (Bool.eq_false_iff.mpr granted)]
      exact opening
  · rw [download_absent fs luck request desk (Bool.eq_false_iff.mpr hit)]
    exact .still upload fun _ => rfl

end Contents

/-! Runs of one session. -/
section Uploads

variable (fs : FileSystem)

def uploadOf (frame : Frame) : Option Request :=
  match order frame with
  | some (.upload _ request) => some request
  | _ => none

/-- One frame writes the data of its upload to the file it names, at its offset,
and leaves the content of every other file alone. -/
def Isolated (station : Station) (frame : Frame) : Prop :=
  Confined fs (uploadOf frame) station.desk (sessionStep fs station frame).1
    (sessionStep fs station frame).2.desk

/-- A chunk with data behind offset 0, for a file that is not offered, finds
`m_fp` closed or open on that file, and its offset is not negative. -/
def Fitting (station : Station) (frame : Frame) : Prop :=
  station.up = true → ∀ request, uploadOf frame = some request →
    Fits fs frame.luck request station.desk

theorem confined_concluded {upload : Option Request} {before : Desk}
    {outcome : Outcome Desk Label Crash Unit}
    (confined : Confined fs upload before outcome.trace outcome.state) :
    Confined fs upload before (concluded outcome).1 (concluded outcome).2.desk := by
  rw [concluded]
  split <;> exact ⟨confined.wrote, confined.kept⟩

theorem isolated_of_fitting (station : Station) (frame : Frame)
    (fitting : Fitting fs station frame) : Isolated fs station frame := by
  rw [Isolated, sessionStep]
  split_ifs with up
  · cases sent : order frame with
    | none =>
        obtain ⟨change, later, silent⟩ := serve_none fs station.desk frame sent
        rw [silent]
        exact .still _ fun _ => rfl
    | some asked =>
        rw [serve_order fs station.desk frame asked sent]
        apply confined_concluded
        cases asked with
        | upload seq request =>
            have this' : uploadOf frame = some request := by rw [uploadOf, sent]
            rw [this']
            have confined := upload_confined frame.luck request (setSeq (fun _ => seq) station.desk)
              (fitting up request this')
            exact ⟨confined.wrote, confined.kept⟩
        | download seq request =>
            have confined : Confined fs (uploadOf frame) (setSeq (fun _ => seq) station.desk) _ _ :=
              download_confined frame.luck request _ (uploadOf frame)
            exact ⟨confined.wrote, confined.kept⟩
  · exact .still _ fun _ => rfl

theorem concluded_trace (outcome : Outcome Desk Label Crash Unit) :
    (concluded outcome).1 = outcome.trace := by
  rw [concluded]
  split <;> rfl

theorem fitting_of_isolated (station : Station) (frame : Frame)
    (isolated : Isolated fs station frame) : Fitting fs station frame := by
  intro up request mine absent later filled stream held
  have sent : ∃ seq, order frame = some (.upload seq request) := by
    rw [uploadOf] at mine
    split at mine
    · next seq upload sent => exact ⟨seq, by rw [sent, Option.some.inj mine]⟩
    · cases mine
  obtain ⟨seq, sent⟩ := sent
  have written := writeChunk_wrote frame.luck request (setSeq (fun _ => seq) station.desk) stream
    held filled
  rw [← upload_next fs frame.luck request (setSeq (fun _ => seq) station.desk) absent later]
    at written
  have traced : (sessionStep fs station frame).1 =
      (onUploadFileResponse fs frame.luck request (setSeq (fun _ => seq) station.desk)).trace := by
    rw [sessionStep, if_pos up, serve_order fs station.desk frame _ sent, concluded_trace]
    rfl
  rw [← traced] at written
  obtain ⟨request', same, here, placed, -⟩ := isolated.wrote _ _ _ written
  obtain rfl : request = request' := Option.some.inj (mine.symm.trans same)
  rw [sought, Stream.seek_file] at here
  refine ⟨here, Int32.lt_iff_toInt_lt.mpr ?_⟩
  have apart : request.offset.toInt ≠ 0 := fun zero => later (Int32.toInt_inj.mp zero)
  rw [Int32.toInt_zero]
  omega

def twoNames : List Frame :=
  [requestFrame .upload_req ⟨[97], 0, 10, [1]⟩ { seq := 1, probe := true, kept := 0 },
    requestFrame .upload_req ⟨[98], 1, 10, [2]⟩ { seq := 2, probe := true, kept := 0 }]

end Uploads

section Downloads

variable (fs : FileSystem)

/-- Every download response of a frame carries the size of the file it names
and the bytes of that file at the offset it states. -/
def Truthful (station : Station) (frame : Frame) : Prop :=
  ∀ bytes reply, Label.send bytes reply ∈ (sessionStep fs station frame).1 →
    reply.kind = .download_resp →
    ∃ file content, fs.resolve (cached (reply.filemd5.takeWhile (· ≠ 0))) = some file ∧
      station.desk.host.files.find? file = some content ∧
      reply.filesize.toInt = content.length ∧ 0 ≤ reply.offset.toInt ∧
      reply.filedata = readAt reply.offset.toInt.toNat reply.filedata.length content

/-- A chunk that goes through a stream opened for reading ends the upload, or
does nothing. -/
def LeavesReader (luck : Luck) (request : Request) (desk : Desk) : Prop :=
  offered fs luck request.name desk.host = false → request.offset ≠ 0 →
    ∀ stream, desk.me.m_fp = some stream → stream.readable = true →
      (request.filedata ≠ [] ∧ Completes request) ∨
        (request.filedata = [] ∧ request.offset < 0)

/-- A download starts a file that is not too large at offset 0, or goes on with
the stream on its own file. -/
def Resumes (luck : Luck) (request : Request) (desk : Desk) : Prop :=
  offered fs luck request.name desk.host = true →
    match desk.me.m_fp with
    | none => desk.me.m_offset = 0 ∧ ∀ file content, target fs request = some file →
        desk.host.files.find? file = some content → content.length ≤ 2 ^ 31 - 2 ^ 19
    | some stream => stream.readable = true ∧ target fs request = some stream.file

def Orderly (station : Station) (frame : Frame) : Prop :=
  station.up = true →
    match order frame with
    | some (.upload _ request) => LeavesReader fs frame.luck request station.desk
    | some (.download _ request) => Resumes fs frame.luck request station.desk
    | none => True

/-- What the session remembers fits the file that its stream reads. -/
def Aligned (desk : Desk) : Prop :=
  ∀ stream, desk.me.m_fp = some stream → stream.readable = true →
    ∃ content, desk.host.files.find? stream.file = some content ∧
      content.length ≤ 2 ^ 31 - 2 ^ 19 ∧ stream.pending = [] ∧
      (stream.base < content.length ∨ (content = [] ∧ stream.base = 0)) ∧
      desk.me.m_offset = int32OfNat stream.base ∧
      desk.me.m_filesize = int32OfNat content.length

variable {fs}

theorem aligned_closed (desk : Desk)
    (closed : ∀ stream, desk.me.m_fp = some stream → stream.readable = false) : Aligned desk := by
  intro stream held readable
  rw [closed stream held] at readable
  cases readable

theorem writeChunk_aligned (luck : Luck) (request : Request) (desk : Desk) (aligned : Aligned desk)
    (leaves : ∀ stream, desk.me.m_fp = some stream → stream.readable = true →
      (request.filedata ≠ [] ∧ Completes request) ∨
        (request.filedata = [] ∧ request.offset < 0)) :
    Aligned (writeChunk luck request desk).state := by
  cases held : desk.me.m_fp with
  | none =>
      rw [writeChunk_null luck request desk held]
      exact aligned
  | some stream =>
      by_cases empty : request.filedata = []
      · rw [writeChunk_empty luck request desk stream held empty]
        intro later kept readable
        obtain rfl := Option.some.inj kept
        rw [sought, Stream.seek_readable] at readable
        obtain ⟨content, stored, small, idle, inside, offset, size⟩ := aligned stream held readable
        rcases leaves stream held readable with ⟨filled, -⟩ | ⟨-, negative⟩
        · exact absurd empty filled
        · have refused := Stream.seek_refused request.offset.toInt stream desk.host.files
            (Int32.lt_iff_toInt_lt.mp negative) idle
          rw [sought, refused]
          exact ⟨content, stored, small, idle, inside, offset, size⟩
      · by_cases last : Completes request
        · rw [writeChunk_last luck request desk stream held empty last]
          exact aligned_closed _ fun _ none' => absurd none' (by simp)
        · rw [writeChunk_part luck request desk stream held empty last]
          refine aligned_closed _ fun later kept => ?_
          obtain rfl := Option.some.inj kept
          rw [written, Stream.put_readable, sought, Stream.seek_readable]
          refine Bool.eq_false_iff.mpr fun readable => ?_
          rcases leaves stream held readable with ⟨-, complete⟩ | ⟨none', -⟩
          · exact last complete
          · exact empty none'

theorem upload_aligned (luck : Luck) (request : Request) (desk : Desk) (aligned : Aligned desk)
    (leaves : LeavesReader fs luck request desk) :
    Aligned (onUploadFileResponse fs luck request desk).state := by
  by_cases hit : offered fs luck request.name desk.host = true
  · rw [upload_offered fs luck request desk hit]
    obtain ⟨listed, host, -⟩ := isFileExsit_host fs luck request.name desk.host
    rw [host]
    exact aligned
  · have absent := Bool.eq_false_iff.mpr hit
    by_cases first : request.offset = 0
    · -- no stream for reading is left in `m_fp`
      cases granted : (openUpload fs luck request.name desk).1 with
      | false =>
          rw [upload_unopened fs luck request desk absent first granted,
            openUpload_failed fs luck request desk granted]
          exact aligned_closed _ fun _ none' => absurd none' (by simp)
      | true =>
          obtain ⟨file, -, opened⟩ := openUpload_granted fs luck request desk granted
          rw [upload_first fs luck request desk absent first granted, opened]
          have writes : ∀ stream : File,
              some { file := file, readable := false, opened := desk.host.opened } = some stream →
                stream.readable = false := by
            rintro stream ⟨⟩
            rfl
          refine writeChunk_aligned luck request _ (aligned_closed _ writes) ?_
          intro stream held readable
          rw [writes stream held] at readable
          cases readable
    · rw [upload_next fs luck request desk absent first]
      exact writeChunk_aligned luck request desk aligned (leaves absent first)

/-- One response, about the file that the stream reads. -/
def Tells (request : Request) (content : Bytes) (trace : List Label) : Prop :=
  ∃ offset seq filedata, replies trace = [⟨.download_resp, seq, request.filemd5,
    int32OfNat offset, int32OfNat content.length, filedata⟩] ∧ offset < 2 ^ 31 ∧
    filedata = readAt offset filedata.length content

theorem sendBlock_tells (request : Request) (desk : Desk) (aligned : Aligned desk) (stream : File)
    (listed : request.name ∈ desk.host.m_listFiles) (held : desk.me.m_fp = some stream)
    (readable : stream.readable = true) (content : Bytes)
    (stored : desk.host.files.find? stream.file = some content) :
    content.length ≤ 2 ^ 31 - 2 ^ 19 ∧
      Tells request content (sendBlock request desk).trace ∧
      Aligned (sendBlock request desk).state := by
  obtain ⟨content', stored', small, idle, inside, offset, size⟩ := aligned stream held readable
  obtain rfl : content' = content := Option.some.inj (stored'.symm.trans stored)
  refine ⟨small, ?_⟩
  rcases inside with inside | ⟨rfl, start⟩
  · have downloading : Downloading request.name stream.file content' stream.base desk :=
      ⟨⟨listed, stored⟩, ⟨stream, held, rfl, rfl, idle, readable⟩, offset, size⟩
    have bytes := blockBytes_eq
    obtain ⟨-, answered, next⟩ := block_sent request stream.base desk downloading inside (by omega)
      (by omega)
    refine ⟨⟨stream.base, desk.me.m_seq, _, answered, by omega, ?_⟩, ?_⟩
    · rw [readAt, readAt, List.length_take, ← List.take_eq_take_min]
    · split_ifs at next with last
      · exact aligned_closed _ fun _ open' => absurd (next.idle.symm.trans open') (by simp)
      · obtain ⟨later, kept, here, base, quiet, -⟩ := next.stream
        intro other open' _
        obtain rfl := Option.some.inj (kept.symm.trans open')
        rw [here]
        exact ⟨content', next.stored, small, quiet, Or.inl (by omega), base ▸ next.offset, next.size⟩
  · -- the stream of an empty file: nothing is read, and the stream is closed
    rw [start] at offset
    have nothing : currentSendSize desk.me = 0 := by
      rw [currentSendSize, offset, size]
      rfl
    have unread : readBlock 0 desk = ([], desk) := by
      rw [readBlock, held]
      rfl
    rw [sendBlock_sized, nothing, sendSized_block request desk 0 (by decide), unread]
    refine ⟨⟨0, desk.me.m_seq, [], ?_, by decide, rfl⟩, ?_⟩
    · rw [← offset, ← size]
      rfl
    · have ends : desk.me.m_offset + 0 = desk.me.m_filesize := by
        rw [offset, size]
        rfl
      dsimp only
      rw [advance_last desk 0 stream held ends]
      exact aligned_closed _ fun _ none' => absurd none' (by simp)

theorem download_tells (luck : Luck) (request : Request) (desk : Desk) (aligned : Aligned desk)
    (resumes : Resumes fs luck request desk) :
    Aligned (onDownloadFileResponse fs luck request desk).state ∧
      ((onDownloadFileResponse fs luck request desk).trace = [] ∨
        ∃ file content, target fs request = some file ∧
          desk.host.files.find? file = some content ∧ content.length ≤ 2 ^ 31 - 2 ^ 19 ∧
          Tells request content (onDownloadFileResponse fs luck request desk).trace) := by
  by_cases hit : offered fs luck request.name desk.host = true
  · have listed := offered_listed fs luck request.name desk.host hit
    obtain ⟨names, host, -⟩ := isFileExsit_host fs luck request.name desk.host
    have looked : checked fs luck request desk =
        { desk with host := { desk.host with m_listFiles := names } } := by
      rw [checked, host]
    rw [host] at listed
    have met := resumes hit
    rcases openDownload_cases fs (checked fs luck request desk) luck request.name with
      ⟨stream, held, opening⟩ | ⟨closed, opening⟩ | ⟨closed, file, content, here, stored, opening⟩
    · -- the session goes on with the stream it has
      rw [looked] at held opening
      rw [show desk.me.m_fp = some stream from held] at met
      have granted : (afterOpen fs luck request desk).1 = true := by
        rw [afterOpen, looked, opening]
      rw [download_opened fs luck request desk hit granted, afterOpen, looked, opening]
      obtain ⟨content, stored, -⟩ := aligned stream held met.1
      obtain ⟨small, tells, later⟩ := sendBlock_tells request
        { desk with host := { desk.host with m_listFiles := names } } aligned stream listed held
        met.1 content stored
      exact ⟨later, Or.inr ⟨stream.file, content, met.2, stored, small, tells⟩⟩
    · have refused : (afterOpen fs luck request desk).1 = false := by rw [afterOpen, opening]
      rw [download_unopened fs luck request desk hit refused, afterOpen, opening, looked]
      exact ⟨aligned, Or.inl rfl⟩
    · rw [looked] at closed stored opening
      rw [show desk.me.m_fp = none from closed] at met
      have small := met.2 file content here stored
      have size := int32OfNat_toInt content.length (by omega)
      have started : Aligned (reading { desk with host := { desk.host with m_listFiles := names } }
          file content 0) := by
        have front : 0 < content.length ∨ content = [] ∧ (0 : Nat) = 0 := by
          rcases content.eq_nil_or_concat with rfl | ⟨front, last, rfl⟩
          · exact Or.inr ⟨rfl, rfl⟩
          · exact Or.inl (by simp)
        intro stream held _
        obtain rfl := Option.some.inj held
        exact ⟨content, stored, small, rfl, front, met.1, rfl⟩
      by_cases empty : int32OfNat content.length ≤ 0
      · rw [if_pos empty] at opening
        have refused : (afterOpen fs luck request desk).1 = false := by
          rw [afterOpen, looked, opening]
        have none' : content = [] := by
          rw [Int32.le_iff_toInt_le, size, Int32.toInt_zero] at empty
          exact List.length_eq_zero_iff.mp (by omega)
        rw [download_unopened fs luck request desk hit refused, afterOpen, looked, opening]
        subst none'
        exact ⟨started, Or.inl rfl⟩
      · rw [if_neg empty] at opening
        have granted : (afterOpen fs luck request desk).1 = true := by
          rw [afterOpen, looked, opening]
        rw [download_opened fs luck request desk hit granted, afterOpen, looked, opening]
        obtain ⟨-, tells, later⟩ := sendBlock_tells request _ started _ listed rfl rfl content stored
        exact ⟨later, Or.inr ⟨file, content, here, stored, small, tells⟩⟩
  · rw [download_absent fs luck request desk (Bool.eq_false_iff.mpr hit)]
    exact ⟨aligned, Or.inl rfl⟩

theorem aligned_concluded (outcome : Outcome Desk Label Crash Unit)
    (aligned : Aligned outcome.state) : Aligned (concluded outcome).2.desk := by
  rw [concluded]
  split <;> exact aligned

theorem orderly_keeps (station : Station) (frame : Frame) (aligned : Aligned station.desk)
    (orderly : Orderly fs station frame) : Aligned (sessionStep fs station frame).2.desk := by
  rw [sessionStep]
  split_ifs with up
  · have met := orderly up
    cases sent : order frame with
    | none =>
        obtain ⟨change, later, silent⟩ := serve_none fs station.desk frame sent
        rw [silent]
        exact aligned
    | some asked =>
        rw [sent] at met
        rw [serve_order fs station.desk frame asked sent]
        apply aligned_concluded
        cases asked with
        | upload seq request =>
            exact upload_aligned frame.luck request (setSeq (fun _ => seq) station.desk) aligned met
        | download seq request =>
            exact (download_tells frame.luck request (setSeq (fun _ => seq) station.desk) aligned
              met).1
  · exact aligned

theorem writeChunk_kind (luck : Luck) (request : Request) (desk : Desk) (bytes : Bytes)
    (reply : Reply) (sent : Label.send bytes reply ∈ (writeChunk luck request desk).trace) :
    reply.kind = .upload_resp := by
  cases held : desk.me.m_fp with
  | none =>
      rw [writeChunk_null luck request desk held] at sent
      cases sent
  | some stream =>
      by_cases empty : request.filedata = []
      · rw [writeChunk_empty luck request desk stream held empty] at sent
        cases sent
      · by_cases last : Completes request
        · rw [writeChunk_last luck request desk stream held empty last] at sent
          obtain ⟨-, rfl⟩ : _ ∧ reply = uploadReply request desk.me.m_seq (-1) (-1) := by
            simpa using sent
          rfl
        · rw [writeChunk_part luck request desk stream held empty last] at sent
          obtain ⟨-, rfl⟩ : _ ∧ reply =
              uploadReply request desk.me.m_seq request.offset request.filesize := by
            simpa using sent
          rfl

theorem upload_kind (luck : Luck) (request : Request) (desk : Desk) (bytes : Bytes)
    (reply : Reply)
    (sent : Label.send bytes reply ∈ (onUploadFileResponse fs luck request desk).trace) :
    reply.kind = .upload_resp := by
  by_cases hit : offered fs luck request.name desk.host = true
  · rw [upload_offered fs luck request desk hit] at sent
    obtain ⟨-, rfl⟩ : _ ∧ reply = uploadReply request desk.me.m_seq (-1) (-1) := by
      simpa using sent
    rfl
  · have absent := Bool.eq_false_iff.mpr hit
    by_cases first : request.offset = 0
    · cases granted : (openUpload fs luck request.name desk).1 with
      | false =>
          rw [upload_unopened fs luck request desk absent first granted] at sent
          cases sent
      | true =>
          rw [upload_first fs luck request desk absent first granted] at sent
          exact writeChunk_kind luck request _ bytes reply sent
    · rw [upload_next fs luck request desk absent first] at sent
      exact writeChunk_kind luck request desk bytes reply sent

theorem orderly_truthful (station : Station) (frame : Frame) (aligned : Aligned station.desk)
    (orderly : Orderly fs station frame) : Truthful fs station frame := by
  intro bytes reply member kind
  rw [sessionStep] at member
  split_ifs at member with up
  · have met := orderly up
    cases sent : order frame with
    | none =>
        obtain ⟨change, later, silent⟩ := serve_none fs station.desk frame sent
        rw [silent] at member
        cases member
    | some asked =>
        rw [sent] at met
        rw [serve_order fs station.desk frame asked sent, concluded_trace] at member
        cases asked with
        | upload seq request =>
            rw [upload_kind frame.luck request _ bytes reply member] at kind
            cases kind
        | download seq request =>
            obtain ⟨-, quiet | ⟨file, content, here, stored, small, offset, seq', filedata, told,
              low, shown⟩⟩ := download_tells frame.luck request
                (setSeq (fun _ => seq) station.desk) aligned met
            · rw [handled, quiet] at member
              cases member
            · have listed : reply ∈ replies (handled fs frame.luck (.download seq request)
                  station.desk).trace :=
                List.mem_filterMap.mpr ⟨_, member, rfl⟩
              rw [handled, told] at listed
              obtain rfl := List.mem_singleton.mp listed
              have place := int32OfNat_toInt offset low
              refine ⟨file, content, here, stored, int32OfNat_toInt _ (by omega), ?_, ?_⟩
              · rw [place]
                omega
              · rw [place]
                exact shown
  · cases member

/-- In a run of requests on one session that never mixes its stream up, every
download response is about the file that it names. -/
theorem downloads_truthful (fs : FileSystem) (host : Host) (frames : List Frame)
    (orderly : Along (sessionStep fs) (Orderly fs) ⟨⟨{}, host⟩, true⟩ frames) :
    Along (sessionStep fs) (Truthful fs) ⟨⟨{}, host⟩, true⟩ frames :=
  along_of_invariant (sessionStep fs) (fun _ _ => orderly_truthful _ _)
    (fun _ _ => orderly_keeps _ _) _ frames
    (aligned_closed _ fun _ none' => absurd none' (by simp)) orderly

theorem resumes_closed (luck : Luck) (request : Request) (desk : Desk)
    (closed : desk.me.m_fp = none) (start : desk.me.m_offset = 0)
    (small : ∀ file content, target fs request = some file →
      desk.host.files.find? file = some content → content.length ≤ 2 ^ 31 - 2 ^ 19) :
    Resumes fs luck request desk := by
  intro hit
  rw [closed]
  exact ⟨start, small⟩

def oneFile : List Frame :=
  [requestFrame .upload_req ⟨[98], 0, 1, [1]⟩ { seq := 1, probe := true, kept := 0 },
    requestFrame .download_req ⟨[98], 0, 0, []⟩ { seq := 2, probe := true, kept := 0 }]

theorem downloads_truthful_one_file :
    Along (sessionStep plainFiles) (Truthful plainFiles) ⟨⟨{}, { files := .empty }⟩, true⟩
      oneFile := by
  refine downloads_truthful plainFiles { files := .empty } oneFile ⟨?_, ?_, trivial⟩
  · intro _
    rw [show order _ = some (.upload 1 ⟨[98], 0, 1, [1]⟩) by decide +kernel]
    exact fun _ later => absurd rfl later
  · intro _
    rw [show order _ = some (.download 2 ⟨[98], 0, 0, []⟩) by decide +kernel]
    let between := run (sessionStep plainFiles) ⟨⟨{}, { files := .empty }⟩, true⟩ (oneFile.take 1)
    have closed : between.2.desk.me.m_fp = none := by decide +kernel
    have start : between.2.desk.me.m_offset = 0 := by decide +kernel
    have stored : between.2.desk.host.files.find? (cached [98]) = some [1] := by decide +kernel
    refine resumes_closed _ _ between.2.desk closed start fun file content here found => ?_
    obtain ⟨-, rfl⟩ : _ ∧ cached [98] = file := by
      simpa [target, plainFiles, Request.name] using here
    rw [show content = [1] from Option.some.inj (found.symm.trans stored)]
    decide

def behindUpload : List Frame :=
  [requestFrame .upload_req ⟨[98], 0, 1, [1]⟩ { seq := 1, probe := true, kept := 0 },
    requestFrame .upload_req ⟨[97], 0, 10, [1]⟩ { seq := 2, probe := true, kept := 0 },
    requestFrame .download_req ⟨[98], 0, 0, []⟩ { seq := 3, probe := true, kept := 0 }]

/-- A download asked for while another file is uploaded gets an answer about
neither: the stream it finds was not opened for it. -/
theorem download_behind_upload :
    ¬ Along (sessionStep plainFiles) (Truthful plainFiles) ⟨⟨{}, { files := .empty }⟩, true⟩
      behindUpload := by
  rintro ⟨-, -, third, -⟩
  obtain ⟨file, content, here, found, size, -⟩ :=
    third (Reply.bytes ⟨.download_resp, 3, [98], 0, 0, []⟩) ⟨.download_resp, 3, [98], 0, 0, []⟩
      (by decide +kernel) rfl
  obtain ⟨-, rfl⟩ : _ ∧ cached [98] = file := by simpa [plainFiles] using here
  have stored : (run (sessionStep plainFiles) ⟨⟨{}, { files := .empty }⟩, true⟩
      (behindUpload.take 2)).2.desk.host.files.find? (cached [98]) = some [1] := by decide +kernel
  rw [show content = [1] from Option.some.inj (found.symm.trans stored)] at size
  cases size

end Downloads

end EdoyumIM.FileIsolation
