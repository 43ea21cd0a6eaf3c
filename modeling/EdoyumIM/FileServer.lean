import EdoyumIM.ByteFiles
import EdoyumIM.Effects
import EdoyumIM.JsonValue
import EdoyumIM.SessionFraming

/-!
The file server: FileManager, FileSession and FileServer. A path names a file
through `resolve`, and files are known by what it returns; the server makes no
directory and removes no file, so this naming stays. A `FILE *` is a stream of
`ByteFiles`; one whose pointer is overwritten or whose session is destroyed
stays open until the process ends. `fopen` may fail for reasons that the server
does not see; reads and writes of an open stream succeed. A connection stands
for its address text, the key of its session in `m_sessions`. Logging, console
output and the debug dumps are left out.
-/

namespace EdoyumIM.FileServer

open MachineWords FieldCodec OrderedStore ByteFiles Effects
open JsonValue (text)
open SessionFraming (sendFile)

inductive MsgType where
  | unknown
  | upload_req
  | upload_resp
  | download_req
  | download_resp
  deriving DecidableEq, Repr

def MsgType.code : MsgType → Int32
  | .unknown => 0
  | .upload_req => 1
  | .upload_resp => 2
  | .download_req => 3
  | .download_resp => 4

def cached (name : Bytes) : Bytes := text "filecache/" ++ name

/-- The paths the server can use. `entry` is the name of a file that stands
directly in `filecache`; a path and the same path under `filecache` are never
one file. -/
structure FileSystem where
  resolve : Bytes → Option Bytes
  directory : Bytes → Bool
  entry : Bytes → Option Bytes
  directory_unresolved : ∀ path, directory path = true → resolve path = none
  entry_resolves : ∀ file name, entry file = some name → resolve (cached name) = some file
  apart : ∀ name file, resolve (cached name) = some file → resolve name ≠ some file

/-- What one frame meets: whether the `fopen` of the existence check and that of
the transfer are granted, and how many bytes the stream keeps back on a write. -/
structure Luck where
  probe : Bool
  opens : Bool
  kept : Nat
  deriving DecidableEq, Repr

abbrev File := ByteFiles.Stream Bytes UInt8

structure FileSession where
  m_seq : Int32 := 0
  m_fp : Option File := none
  m_offset : Int32 := 0
  m_filesize : Int32 := 0
  deriving DecidableEq, Repr

/-- The disk, the singleton FileManager and the streams that no session reaches. -/
structure Host where
  files : Disk Bytes UInt8
  m_listFiles : List Bytes := []
  opened : Nat := 0
  leaked : List File := []

/-! FileManager. -/
section FileManager

/-- Init lists every file in `filecache`, finished or not. -/
def init (fs : FileSystem) (files : Disk Bytes UInt8) : Host :=
  { files := files, m_listFiles := files.entries.filterMap fun file => fs.entry file.1 }

/-- `fopen(filename, "r") != NULL`, which a directory allows as well. -/
def readableAt (fs : FileSystem) (filename : Bytes) (files : Disk Bytes UInt8) : Bool :=
  fs.directory filename || ((fs.resolve filename).bind fun file => files.find? file).isSome

/-- IsFileExsit looks in the working directory, not in `filecache`. -/
def isFileExsit (fs : FileSystem) (luck : Luck) (filename : Bytes) (host : Host) : Bool × Host :=
  if filename ∈ host.m_listFiles then (true, host)
  else if luck.probe && readableAt fs filename host.files then
    (true, { host with m_listFiles := host.m_listFiles ++ [filename] })
  else (false, host)

def addFile (filename : Bytes) (host : Host) : Host :=
  { host with m_listFiles := host.m_listFiles ++ [filename] }

end FileManager

/-! The two modes in which a session opens a file. -/
section Opening

/-- `fopen(path, "w")`. -/
def openNew (fs : FileSystem) (luck : Luck) (path : Bytes) (host : Host) : Option File × Host :=
  match fs.resolve path with
  | none => (none, host)
  | some file =>
      if luck.opens then
        (some { file := file, readable := false, opened := host.opened },
          { host with files := host.files.set file [], opened := host.opened + 1 })
      else (none, host)

/-- `fopen(path, "r+")`. -/
def openOld (fs : FileSystem) (luck : Luck) (path : Bytes) (host : Host) : Option File × Host :=
  match fs.resolve path with
  | none => (none, host)
  | some file =>
      if luck.opens && (host.files.find? file).isSome then
        (some { file := file, readable := true, opened := host.opened },
          { host with opened := host.opened + 1 })
      else (none, host)

end Opening

/-! FileSession. -/
section Session

structure Reply where
  kind : MsgType
  seq : Int32
  filemd5 : Bytes
  offset : Int32
  filesize : Int32
  filedata : Bytes
  deriving DecidableEq, Repr

/-- The bytes that `Send(writer)` gives to the connection. -/
def Reply.bytes (reply : Reply) : Bytes :=
  (sendFile (writeFields .fresh
    [.int reply.kind.code, .int reply.seq, .string reply.filemd5, .int reply.offset,
      .int reply.filesize, .string reply.filedata])).1

inductive Label where
  | send (bytes : Bytes) (reply : Reply)
  | wrote (file : Bytes) (position : Nat) (data : Bytes)
  deriving DecidableEq, Repr

/-- Ways to end the process: an exception, or a null stream given to `fseek`. -/
inductive Crash where
  | thrown (fault : Fault)
  | nullStream
  deriving DecidableEq, Repr

/-- A session in the hands of its handlers, with the rest of the process. -/
structure Desk where
  me : FileSession
  host : Host

abbrev Handler := Act Desk Label Crash

structure Request where
  filemd5 : Bytes
  offset : Int32
  filesize : Int32
  filedata : Bytes
  deriving DecidableEq, Repr

/-- `filemd5.c_str()`. -/
def Request.name (request : Request) : Bytes := request.filemd5.takeWhile (· ≠ 0)

def onHost {α : Type} (operation : Host → α × Host) : Handler α :=
  Act.call fun desk => ((operation desk.host).1, { desk with host := (operation desk.host).2 })

def answer (reply : Reply) : Handler Unit := Act.emit (.send reply.bytes reply)

/-- Put a stream back into `m_fp` after an operation on it. -/
def keep (stream : File) (files : Disk Bytes UInt8) (desk : Desk) : Desk :=
  { me := { desk.me with m_fp := some stream }, host := { desk.host with files := files } }

def resetFile (desk : Desk) : Desk :=
  match desk.me.m_fp with
  | none => desk
  | some stream =>
      { me := { desk.me with m_fp := none, m_offset := 0, m_filesize := 0 }
        host := { desk.host with files := (stream.flush desk.host.files).2 } }

/-- `m_fp = fopen(filename, "w")` does not close what `m_fp` was. -/
def openUpload (fs : FileSystem) (luck : Luck) (name : Bytes) (desk : Desk) : Bool × Desk :=
  let (stream, host) := openNew fs luck (cached name) desk.host
  (stream.isSome,
    { me := { desk.me with m_fp := stream }
      host := { host with leaked := desk.me.m_fp.toList ++ host.leaked } })

/-- The part of OnUploadFileResponse from `fseek` on. -/
def writeChunk (luck : Luck) (request : Request) : Handler Unit := do
  let me ← Act.gets Desk.me
  match me.m_fp with
  | none => Act.lift (.error .nullStream)
  | some stream =>
      let files ← Act.gets fun desk => desk.host.files
      let (stream, files) := stream.seek request.offset.toInt files
      -- `fwrite` of an item of no bytes returns 0
      if request.filedata = [] then Act.modify (keep stream files)
      else
        Act.emit (.wrote stream.file stream.tell request.filedata)
        let (stream, files) := stream.put luck.kept request.filedata files
        Act.modify (keep stream files)
        if request.offset + int32OfNat request.filedata.length = request.filesize then
          onHost fun host => ((), addFile request.name host)
          Act.modify resetFile
          answer ⟨.upload_resp, me.m_seq, request.filemd5, -1, -1, []⟩
        else answer ⟨.upload_resp, me.m_seq, request.filemd5, request.offset, request.filesize, []⟩

def onUploadFileResponse (fs : FileSystem) (luck : Luck) (request : Request) : Handler Unit := do
  let me ← Act.gets Desk.me
  if ← onHost (isFileExsit fs luck request.name) then
    answer ⟨.upload_resp, me.m_seq, request.filemd5, -1, -1, []⟩
  else if request.offset = 0 then
    if ← Act.call (openUpload fs luck request.name) then writeChunk luck request
    else pure ()
  else writeChunk luck request

/-- The opening part of OnDownloadFileResponse; true if the handler goes on. -/
def openDownload (fs : FileSystem) (luck : Luck) (name : Bytes) (desk : Desk) : Bool × Desk :=
  match desk.me.m_fp with
  | some _ => (true, desk)
  | none =>
      match openOld fs luck (cached name) desk.host with
      | (none, host) => (false, { desk with host := host })
      | (some stream, host) =>
          let size := ((host.files.find? stream.file).getD []).length
          let m_filesize := int32OfNat size
          -- an error return leaves the stream open, at the end of the file
          if m_filesize ≤ 0 then
            (false,
              { me := { desk.me with
                  m_fp := some { stream with base := size }, m_filesize := m_filesize }
                host := host })
          else
            (true,
              { me := { desk.me with m_fp := some stream, m_filesize := m_filesize }
                host := host })

def blockSize : Int32 := 524288

def currentSendSize (me : FileSession) : Int32 :=
  if me.m_filesize ≤ me.m_offset + blockSize then me.m_filesize - me.m_offset else blockSize

/-- `fread` into the zeroed buffer; what is missing is sent as zeros. -/
def readBlock (size : Int32) (desk : Desk) : Bytes × Desk :=
  match desk.me.m_fp with
  | none => ([], desk)
  | some stream =>
      if size ≤ 0 then ([], desk)
      else
        let (data, stream, files) := stream.get size.toInt.toNat desk.host.files
        (data ++ List.replicate (size.toInt.toNat - data.length) 0, keep stream files desk)

/-- The part of OnDownloadFileResponse behind the opening, for a computed
`currentSendSize`. A negative one makes `append` throw. -/
def sendSized (request : Request) (size : Int32) : Handler Unit := do
  let me ← Act.gets Desk.me
  let filedata ← Act.call (readBlock size)
  if size < 0 then Act.lift (.error (.thrown .lengthError))
  else
    Act.modify fun desk => { desk with me := { desk.me with m_offset := desk.me.m_offset + size } }
    answer ⟨.download_resp, me.m_seq, request.filemd5, me.m_offset, me.m_filesize, filedata⟩
    Act.modify fun desk => if desk.me.m_offset = desk.me.m_filesize then resetFile desk else desk

def sendBlock (request : Request) : Handler Unit := do
  let me ← Act.gets Desk.me
  sendSized request (currentSendSize me)

def onDownloadFileResponse (fs : FileSystem) (luck : Luck) (request : Request) :
    Handler Unit := do
  if ← onHost (isFileExsit fs luck request.name) then
    if ← Act.call (openDownload fs luck request.name) then sendBlock request else pure ()
  else pure ()

/-- The fields behind the sequence number. An empty `filemd5` ends the reading. -/
def readRequest (mem : Nat → UInt8) (reader : BinaryReader) : Except Fault (Option Request) := do
  let (filemd5, reader) ← reader.readString mem
  if filemd5 = [] then pure none
  else
    match reader.readInt with
    | none => pure none
    | some (offset, reader) =>
        match reader.readInt with
        | none => pure none
        | some (filesize, reader) =>
            let (filedata, _) ← reader.readString mem
            pure (some ⟨filemd5, offset, filesize, filedata⟩)

def switch (fs : FileSystem) (luck : Luck) (cmd : Int32) (request : Request) : Handler Bool := do
  if cmd = MsgType.upload_req.code then
    onUploadFileResponse fs luck request
    pure true
  else if cmd = MsgType.download_req.code then
    if request.filedata ≠ [] then pure false
    else
      onDownloadFileResponse fs luck request
      pure true
  else pure false

def setSeq (change : Int32 → Int32) (desk : Desk) : Desk :=
  { desk with me := { desk.me with m_seq := change desk.me.m_seq } }

def process (fs : FileSystem) (mem : Nat → UInt8) (luck : Luck) (buffer : Bytes) :
    Handler Bool :=
  match (BinaryReader.ofBytes buffer).readInt with
  | none => pure false
  | some (cmd, reader) =>
      match reader.readInt with
      | none => pure false
      | some (m_seq, reader) => do
          Act.modify (setSeq fun _ => m_seq)
          match ← Act.lift ((readRequest mem reader).mapError .thrown) with
          | none => pure false
          | some request =>
              if ← switch fs luck cmd request then
                Act.modify (setSeq (· + 1))
                pure true
              else pure false

end Session

/-! One session and the server as machines that take one event at a time. A
frame comes with the bytes behind the receive string. -/
section Machine

structure Frame where
  buffer : Bytes
  mem : Nat → UInt8 := fun _ => 0
  luck : Luck

structure Station where
  desk : Desk
  up : Bool := true

def finish {α : Type} (outcome : Outcome Desk Label Crash α) : List Label × Station :=
  match outcome.value with
  | .ok _ => (outcome.trace, ⟨outcome.state, true⟩)
  | .error _ => (outcome.trace, ⟨outcome.state, false⟩)

def serve (fs : FileSystem) (desk : Desk) (frame : Frame) : List Label × Station :=
  finish (process fs frame.mem frame.luck frame.buffer desk)

/-- One file session that alone is served. -/
def sessionStep (fs : FileSystem) (station : Station) (frame : Frame) : List Label × Station :=
  if station.up then serve fs station.desk frame else ([], station)

structure World where
  m_sessions : OrderedMap Bytes FileSession := .empty
  host : Host
  up : Bool := true

inductive Event where
  | connect (conn : Bytes)
  | close (conn : Bytes)
  | frame (conn : Bytes) (frame : Frame)
  | restart (saved : Bool)

def openStreams (world : World) : List File :=
  world.m_sessions.values.filterMap FileSession.m_fp ++ world.host.leaked

/-- The end of the process and a new start. A process that is killed loses what
its streams hold. -/
def restart (fs : FileSystem) (saved : Bool) (world : World) : World :=
  { host := init fs (if saved then flushAll (openStreams world) world.host.files
      else world.host.files) }

def step (fs : FileSystem) (world : World) (event : Event) : List (Bytes × Label) × World :=
  match event with
  | .restart saved => ([], restart fs saved world)
  | .connect conn =>
      if world.up then ([], { world with m_sessions := world.m_sessions.insert conn {} })
      else ([], world)
  | .close conn =>
      if world.up then
        ([], { world with
          m_sessions := world.m_sessions.erase conn
          host := { world.host with
            leaked := ((world.m_sessions.find? conn).bind FileSession.m_fp).toList ++
              world.host.leaked } })
      else ([], world)
  | .frame conn frame =>
      match world.up, world.m_sessions.find? conn with
      | true, some me =>
          let (trace, station) := serve fs ⟨me, world.host⟩ frame
          (trace.map (conn, ·),
            { m_sessions := world.m_sessions.modify conn fun _ => station.desk.me
              host := station.desk.host
              up := station.up })
      | _, _ => ([], world)

end Machine

/-! A concrete file system for worked runs: no links, and no directory besides
`filecache`. -/
section Sample

def plainEntry (file : Bytes) : Option Bytes :=
  if file.take (text "filecache/").length = text "filecache/" then
    some (file.drop (text "filecache/").length)
  else none

theorem cached_ne (name path : Bytes) (short : path.length ≤ name.length + 9) :
    cached name ≠ path := by
  intro same
  have lengths := congrArg List.length same
  rw [cached, List.length_append, show (text "filecache/").length = 10 from rfl] at lengths
  omega

def plainFiles : FileSystem where
  resolve path := if path = text "filecache" then none else some path
  directory path := decide (path = text "filecache")
  entry := plainEntry
  directory_unresolved path isDirectory := if_pos (of_decide_eq_true isDirectory)
  entry_resolves file name entry := by
    rw [plainEntry] at entry
    split_ifs at entry with inside
    have whole : cached name = file := by
      rw [cached, ← inside, ← Option.some.inj entry, List.take_append_drop]
    rw [if_neg (cached_ne name (text "filecache") (by simp [text])), whole]
  apart name file resolved other := by
    split_ifs at resolved other
    exact cached_ne name name (by omega)
      ((Option.some.inj resolved).trans (Option.some.inj other).symm)

end Sample

end EdoyumIM.FileServer
