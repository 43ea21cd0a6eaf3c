import EdoyumIM.FileIsolation
import EdoyumIM.WaitingBytes

/-!
Which files are offered. A file is listed once a chunk ends where the file is
said to end, and Init lists whatever it finds. The ledger keeps what clients
have sent for each name, and what was put to each file since it was emptied; the
server keeps neither. The result says along which runs a name that the check
accepts stands for a file with all its bytes.
-/

namespace EdoyumIM.FileOffers

open MachineWords FieldCodec OrderedStore ByteFiles WaitingBytes Effects FileServer FileSteps
open FileTransfer FileIsolation

/-! The ledger. -/
section Ledgers

structure Ledger where
  lastSent : Bytes → Nat → Option UInt8 := fun _ _ => none
  sizes : Bytes → List Int32 := fun _ => []
  written : Bytes → Nat → Option UInt8 := fun _ _ => none

namespace Ledger

def receive (request : Request) (ledger : Ledger) : Ledger :=
  { ledger with
    lastSent := fun name =>
      if name = request.name then
        laid request.offset.toInt request.filedata (ledger.lastSent name)
      else ledger.lastSent name
    sizes := fun name =>
      if name = request.name then request.filesize :: ledger.sizes name else ledger.sizes name }

def empty (file : Bytes) (ledger : Ledger) : Ledger :=
  { ledger with written := WaitingBytes.emptied file ledger.written }

def note (ledger : Ledger) : Label → Ledger
  | .wrote file position data =>
      { ledger with written := placed file position data ledger.written }
  | .send _ _ => ledger

end Ledger

/-- A request on its way to one of the two handlers. -/
structure Call where
  conn : Bytes
  me : FileSession
  luck : Luck
  asked : Order
  deriving DecidableEq

def requestOf : Order → Request
  | .upload _ request => request
  | .download _ request => request

def Call.name (call : Call) : Bytes := (requestOf call.asked).name

def Call.offered (fs : FileSystem) (call : Call) (host : Host) : Bool :=
  FileSteps.offered fs call.luck call.name host

def callOf (world : World) : Event → Option Call
  | .frame conn frame =>
      if world.up then
        (world.m_sessions.find? conn).bind fun me =>
          (order frame).map fun asked => ⟨conn, me, frame.luck, asked⟩
      else none
  | _ => none

/-- The ledger when the check is made. An upload that the check answers may or
may not count as sent: its data is thrown away. -/
def hear (fs : FileSystem) (counts : Bool) (host : Host) (call : Call) (ledger : Ledger) :
    Ledger :=
  match call.asked with
  | .upload _ request =>
      if counts || !call.offered fs host then ledger.receive request else ledger
  | .download _ _ => ledger

/-- The file that the call opens with `fopen(path, "w")`. -/
def emptiedBy (fs : FileSystem) (host : Host) (call : Call) : Option Bytes :=
  match call.asked with
  | .upload _ request =>
      if call.offered fs host = false ∧ request.offset = 0 then
        (openNew fs call.luck (cached request.name) host).1.map ByteFiles.Stream.file
      else none
  | .download _ _ => none

structure Watched where
  world : World
  ledger : Ledger := {}

/-- What is known to stand in the files starts anew with the process. -/
def account (fs : FileSystem) (counts : Bool) (watched : Watched) (event : Event) : Ledger :=
  match event, callOf watched.world event with
  | .restart _, _ => { watched.ledger with written := fun _ _ => none }
  | _, none => watched.ledger
  | _, some call =>
      let heard := hear fs counts watched.world.host call watched.ledger
      let opened := (emptiedBy fs watched.world.host call).elim heard fun file => heard.empty file
      (((step fs watched.world event).1.map Prod.snd).foldl Ledger.note opened)

def watch (fs : FileSystem) (counts : Bool) (watched : Watched) (event : Event) :
    List (Bytes × Label) × Watched :=
  ((step fs watched.world event).1,
    ⟨(step fs watched.world event).2, account fs counts watched event⟩)

/-- Watching changes nothing. -/
theorem watch_run (fs : FileSystem) (counts : Bool) (watched : Watched) (events : List Event) :
    (run (watch fs counts) watched events).1 = (run (step fs) watched.world events).1 ∧
      (run (watch fs counts) watched events).2.world =
        (run (step fs) watched.world events).2 := by
  induction events generalizing watched with
  | nil => exact ⟨rfl, rfl⟩
  | cons event rest ih =>
      obtain ⟨traces, worlds⟩ := ih (watch fs counts watched event).2
      exact ⟨congrArg ((step fs watched.world event).1 ++ ·) traces, worlds⟩

end Ledgers

/-! What is asked for, and what may go wrong. -/
section Conditions

/-- `filecache/name` holds, up to the size that some upload gave, the bytes last
sent for the name. -/
def Complete (fs : FileSystem) (ledger : Ledger) (files : Disk Bytes UInt8) (name : Bytes) :
    Prop :=
  ∃ file content filesize, fs.resolve (cached name) = some file ∧
    files.find? file = some content ∧ filesize ∈ ledger.sizes name ∧
    ∀ position : Nat, (position : Int) < filesize.toInt →
      ∃ byte, ledger.lastSent name position = some byte ∧ content[position]? = some byte

/-- Where the check accepts a name, its file is complete. -/
def Offers (fs : FileSystem) (counts : Bool) (watched : Watched) (event : Event) : Prop :=
  ∀ call ∈ callOf watched.world event, call.offered fs watched.world.host = true →
    Complete fs (hear fs counts watched.world.host call watched.ledger) watched.world.host.files
      call.name

/-- The streams of the other sessions. -/
def others (conn : Bytes) (world : World) : List File :=
  (world.m_sessions.erase conn).values.filterMap FileSession.m_fp

/-- The stream that an upload's data goes to, and those that stay open beside it. -/
def through (fs : FileSystem) (host : Host) (call : Call) (request : Request) : Option File :=
  if request.offset = 0 then (openNew fs call.luck (cached request.name) host).1
  else call.me.m_fp

def beside (world : World) (call : Call) (request : Request) : List File :=
  (if request.offset = 0 then call.me.m_fp.toList else []) ++ world.host.leaked ++
    others call.conn world

/-- No listed name stands for the file. -/
def Unlisted (fs : FileSystem) (host : Host) (file : Bytes) : Prop :=
  ∀ name ∈ host.m_listFiles, fs.resolve (cached name) ≠ some file

/-- No other stream has yet to write another byte where the request writes. -/
def Clear (streams : List File) (file : Bytes) (request : Request) : Prop :=
  ∀ other ∈ streams, other.file = file → ∀ place < request.filedata.length,
    ahead other (request.offset.toInt.toNat + place) = none ∨
      ahead other (request.offset.toInt.toNat + place) = request.filedata[place]?

/-- The position is one of the request's own, or its byte was put to the file
since that was emptied. -/
def Covered (ledger : Ledger) (file : Bytes) (request : Request) (position : Nat) : Prop :=
  (request.offset.toInt ≤ position ∧
      position < request.offset.toInt + request.filedata.length) ∨
    request.offset ≠ 0 ∧ ledger.written file position ≠ none ∧
      ledger.written file position = ledger.lastSent request.name position

/-- The last chunk is the last one to come. -/
def Whole (fs : FileSystem) (ledger : Ledger) (streams : List File) (file : Bytes)
    (request : Request) : Prop :=
  target fs request = some file ∧ ∀ position < request.filesize.toInt.toNat,
    Covered ledger file request position ∧
      ∀ other ∈ streams, other.file = file → ahead other position = none

def Writes (fs : FileSystem) (watched : Watched) (call : Call) (request : Request) : Prop :=
  ∀ stream ∈ through fs watched.world.host call request,
    (request.offset = 0 ∨ request.filedata ≠ [] → Unlisted fs watched.world.host stream.file) ∧
    (request.filedata ≠ [] → 0 ≤ request.offset.toInt ∧
      Clear (beside watched.world call request) stream.file request ∧
      (Completes request →
        Whole fs watched.ledger (beside watched.world call request) stream.file request))

/-- The file holds no other byte where the request has one. -/
def Repeats (fs : FileSystem) (files : Disk Bytes UInt8) (request : Request) : Prop :=
  ∀ file ∈ target fs request, ∀ content ∈ files.find? file,
    ∀ place < request.filedata.length, 0 ≤ request.offset.toInt + place →
      content[(request.offset.toInt + place).toNat]? = none ∨
        content[(request.offset.toInt + place).toNat]? = request.filedata[place]?

/-- What has to be so for a request that reaches the check. -/
def Proper (fs : FileSystem) (counts : Bool) (watched : Watched) (call : Call) : Prop :=
  if call.name ∈ watched.world.host.m_listFiles then
    match call.asked with
    | .upload _ request => counts = true → Repeats fs watched.world.host.files request
    | .download _ _ => True
  else
    (call.luck.probe && readableAt fs call.name watched.world.host.files) = false ∧
      match call.asked with
      | .upload _ request => Writes fs watched call request
      | .download _ _ => True

def Careful (fs : FileSystem) (counts : Bool) (watched : Watched) : Event → Prop
  | .restart _ => ∀ file ∈ watched.world.host.files.entries, ∀ name ∈ fs.entry file.1,
      name ∈ watched.world.host.m_listFiles
  | event => ∀ call ∈ callOf watched.world event, Proper fs counts watched call

section Deciding

variable (fs : FileSystem) (counts : Bool) (ledger : Ledger) (streams : List File)
variable (host : Host) (file : Bytes) (request : Request)

instance : Decidable (Unlisted fs host file) :=
  inferInstanceAs (Decidable (∀ name ∈ host.m_listFiles, _))

instance : Decidable (Clear streams file request) :=
  inferInstanceAs (Decidable (∀ other ∈ streams, _ → ∀ place < request.filedata.length, _ ∨ _))

instance (position : Nat) : Decidable (Covered ledger file request position) :=
  inferInstanceAs (Decidable (_ ∧ _ ∨ _ ∧ _ ∧ _))

instance : Decidable (Whole fs ledger streams file request) :=
  inferInstanceAs (Decidable (_ ∧ ∀ position < _, _ ∧ ∀ other ∈ streams, _))

instance (watched : Watched) (call : Call) : Decidable (Writes fs watched call request) :=
  inferInstanceAs (Decidable (∀ stream ∈ through fs watched.world.host call request, _ ∧ (_ → _)))

instance (files : Disk Bytes UInt8) : Decidable (Repeats fs files request) :=
  inferInstanceAs (Decidable (∀ file ∈ target fs request, ∀ content ∈ files.find? file,
    ∀ place < request.filedata.length, _ → _ ∨ _))

instance (watched : Watched) : ∀ call, Decidable (Proper fs counts watched call)
  | ⟨conn, me, luck, .upload seq request⟩ =>
      inferInstanceAs (Decidable (if request.name ∈ watched.world.host.m_listFiles then
        counts = true → Repeats fs watched.world.host.files request
      else _ ∧ Writes fs watched ⟨conn, me, luck, .upload seq request⟩ request))
  | ⟨_, _, _, .download _ request⟩ =>
      inferInstanceAs (Decidable (if request.name ∈ watched.world.host.m_listFiles then True
        else _ ∧ True))

instance (watched : Watched) : ∀ event, Decidable (Careful fs counts watched event)
  | .restart _ => inferInstanceAs (Decidable (∀ file ∈ watched.world.host.files.entries,
      ∀ name ∈ fs.entry file.1, name ∈ watched.world.host.m_listFiles))
  | .connect _ => inferInstanceAs (Decidable (∀ call ∈ (none : Option Call), Proper fs counts watched call))
  | .close _ => inferInstanceAs (Decidable (∀ call ∈ (none : Option Call), Proper fs counts watched call))
  | .frame conn frame => inferInstanceAs (Decidable
      (∀ call ∈ callOf watched.world (.frame conn frame), Proper fs counts watched call))

end Deciding

end Conditions

/-! The invariant. -/
section Invariant

/-- The name is offered: its file is complete, and no stream will change it. -/
def Settled (fs : FileSystem) (ledger : Ledger) (shelf : Shelf Bytes UInt8) (name : Bytes) :
    Prop :=
  ∃ file filesize, fs.resolve (cached name) = some file ∧ Present shelf file ∧
    filesize ∈ ledger.sizes name ∧ ∀ position : Nat, (position : Int) < filesize.toInt →
      ∃ byte, ledger.lastSent name position = some byte ∧ Rests shelf file position byte

structure Sound (fs : FileSystem) (ledger : Ledger) (listed : List Bytes)
    (shelf : Shelf Bytes UInt8) : Prop where
  agrees : Agrees ledger.written shelf
  grounded : Grounded shelf
  settled : ∀ name ∈ listed, Settled fs ledger shelf name

variable {fs : FileSystem} {ledger : Ledger} {listed : List Bytes} {shelf : Shelf Bytes UInt8}

theorem settled_settles (name : Bytes) {later : Shelf Bytes UInt8} (settles : Settles shelf later)
    (settled : Settled fs ledger shelf name) : Settled fs ledger later name := by
  obtain ⟨file, filesize, here, present, size, whole⟩ := settled
  refine ⟨file, filesize, here, settles.present file present, size, fun position below => ?_⟩
  obtain ⟨byte, sent, rests⟩ := whole position below
  exact ⟨byte, sent, settles.rests file position byte rests⟩

theorem Sound.settles {later : Shelf Bytes UInt8} (sound : Sound fs ledger listed shelf)
    (settles : Settles shelf later) : Sound fs ledger listed later where
  agrees := sound.agrees.settles settles
  grounded := settles.grounded sound.grounded
  settled name member := settled_settles name settles (sound.settled name member)

theorem settled_complete (name : Bytes) (settled : Settled fs ledger shelf name) :
    Complete fs ledger shelf.disk name := by
  obtain ⟨file, filesize, here, present, size, whole⟩ := settled
  obtain ⟨content, stands⟩ := Option.isSome_iff_exists.mp present
  refine ⟨file, content, filesize, here, stands, size, fun position below => ?_⟩
  obtain ⟨byte, sent, ⟨found, same, stored⟩, -⟩ := whole position below
  obtain rfl := Option.some.inj (same.symm.trans stands)
  exact ⟨byte, sent, stored⟩

theorem settled_received (name : Bytes) (request : Request) (other : name ≠ request.name)
    (settled : Settled fs ledger shelf name) :
    Settled fs (ledger.receive request) shelf name := by
  obtain ⟨file, filesize, here, present, size, whole⟩ := settled
  refine ⟨file, filesize, here, present, ?_, ?_⟩
  · simpa [Ledger.receive, other] using size
  · simpa [Ledger.receive, other] using whole

/-- A request for a name that is not listed. -/
theorem Sound.received (sound : Sound fs ledger listed shelf) (request : Request)
    (unlisted : request.name ∉ listed) : Sound fs (ledger.receive request) listed shelf where
  agrees := sound.agrees
  grounded := sound.grounded
  settled name member :=
    settled_received name request (fun same => unlisted (same ▸ member)) (sound.settled name member)

theorem settled_repeated (request : Request) (repeats : Repeats fs shelf.disk request)
    (settled : Settled fs ledger shelf request.name) :
    Settled fs (ledger.receive request) shelf request.name := by
  obtain ⟨file, filesize, here, present, size, whole⟩ := settled
  refine ⟨file, filesize, here, present, ?_, fun position below => ?_⟩
  · simp [Ledger.receive, size]
  · obtain ⟨byte, sent, ⟨content, stands, stored⟩, quiet⟩ := whole position below
    refine ⟨byte, ?_, ⟨content, stands, stored⟩, quiet⟩
    simp only [Ledger.receive, if_true]
    by_cases own : request.offset.toInt ≤ position ∧
        position < request.offset.toInt + request.filedata.length
    · have place : (request.offset.toInt +
          ((position - request.offset.toInt).toNat : Nat)).toNat = position := by omega
      have same := repeats file here content stands (position - request.offset.toInt).toNat
        (by omega) (by omega)
      rw [place, stored] at same
      rw [laid, if_pos own]
      exact (same.resolve_left (by simp)).symm
    · rw [laid_outside _ _ _ _ own, sent]

theorem Sound.repeated (sound : Sound fs ledger listed shelf) (request : Request)
    (repeats : Repeats fs shelf.disk request) : Sound fs (ledger.receive request) listed shelf where
  agrees := sound.agrees
  grounded := sound.grounded
  settled name member := by
    by_cases same : name = request.name
    · subst same
      exact settled_repeated request repeats (sound.settled request.name member)
    · exact settled_received name request same (sound.settled name member)

/-- `fopen(path, "w")` on a file that no listed name stands for. -/
theorem Sound.emptied {streams : List File} {files : Disk Bytes UInt8}
    (sound : Sound fs ledger listed ⟨streams, files⟩) (stream : File)
    (unlisted : ∀ name ∈ listed, fs.resolve (cached name) ≠ some stream.file) :
    Sound fs (ledger.empty stream.file) listed ⟨stream :: streams, files.set stream.file []⟩ where
  agrees := agrees_emptied sound.agrees stream
  grounded := by
    intro other member
    rw [Present, OrderedMap.find?_set]
    split_ifs with same
    · rfl
    · rcases List.mem_cons.mp member with rfl | inside
      · exact absurd rfl same
      · exact sound.grounded other inside
  settled name member := by
    obtain ⟨file, filesize, here, present, size, whole⟩ := sound.settled name member
    have other : file ≠ stream.file := fun same => unlisted name member (here.trans (same ▸ rfl))
    have kept : (files.set stream.file []).find? file = files.find? file :=
      (OrderedMap.find?_set _ _ _ _).trans (if_neg other)
    refine ⟨file, filesize, here, by rwa [Present, kept], size, fun position below => ?_⟩
    obtain ⟨byte, sent, ⟨content, stands, stored⟩, quiet⟩ := whole position below
    refine ⟨byte, sent, ⟨content, kept.trans stands, stored⟩, fun byte' waits => ?_⟩
    rcases (waits_cons _ _ _ _ _ _).mp waits with ⟨same, -⟩ | waits
    · exact other same.symm
    · exact quiet byte' waits

/-- `fwrite` to a positioned stream on a file that no listed name stands for. -/
theorem Sound.put {rest : List File} {files : Disk Bytes UInt8} (stream : File) (data : Bytes)
    (sound : Sound fs ledger listed ⟨stream :: rest, files⟩) (idle : stream.pending = [])
    (unlisted : ∀ name ∈ listed, fs.resolve (cached name) ≠ some stream.file)
    (clear : ∀ other ∈ rest, other.file = stream.file → ∀ place < data.length,
      ahead other (stream.base + place) = none ∨ ahead other (stream.base + place) = data[place]?) :
    Sound fs (ledger.note (.wrote stream.file stream.base data)) listed
      ⟨{ stream with pending := data } :: rest, files⟩ where
  agrees := agrees_put stream data idle sound.agrees (sound.grounded stream List.mem_cons_self) clear
  grounded := by
    intro other member
    rcases List.mem_cons.mp member with rfl | inside
    · exact sound.grounded stream List.mem_cons_self
    · exact sound.grounded other (List.mem_cons_of_mem _ inside)
  settled name member := by
    obtain ⟨file, filesize, here, present, size, whole⟩ := sound.settled name member
    have other : file ≠ stream.file := fun same => unlisted name member (here.trans (same ▸ rfl))
    refine ⟨file, filesize, here, present, size, fun position below => ?_⟩
    obtain ⟨byte, sent, stored, quiet⟩ := whole position below
    refine ⟨byte, sent, stored, fun byte' waits => ?_⟩
    rcases (waits_cons _ _ _ _ _ _).mp waits with ⟨same, -⟩ | waits
    · exact other same.symm
    · exact quiet byte' ((waits_cons _ _ _ _ _ _).mpr (Or.inr waits))

/-- A name whose bytes all stand in its file may be listed. -/
theorem Sound.added (sound : Sound fs ledger listed shelf) (name : Bytes)
    (settled : Settled fs ledger shelf name) : Sound fs ledger (listed ++ [name]) shelf where
  agrees := sound.agrees
  grounded := sound.grounded
  settled other member := by
    rcases List.mem_append.mp member with old | new
    · exact sound.settled other old
    · exact List.mem_singleton.mp new ▸ settled

end Invariant

/-! The handlers, beside the streams of the other sessions. -/
section Handlers

variable {fs : FileSystem} (luck : Luck) (request : Request) (desk : Desk) (rest : List File)

def bench (desk : Desk) (rest : List File) : Shelf Bytes UInt8 :=
  ⟨streams desk ++ rest, desk.host.files⟩

structure Kept (rest : List File) (before after : Desk) : Prop where
  settles : Settles (bench before rest) (bench after rest)
  listed : after.host.m_listFiles = before.host.m_listFiles

theorem Kept.refl : Kept rest desk desk := ⟨Settles.refl _, rfl⟩

variable {rest}

theorem Kept.trans {before between after : Desk} (first : Kept rest before between)
    (second : Kept rest between after) : Kept rest before after :=
  ⟨first.settles.trans second.settles, second.listed.trans first.listed⟩

variable (rest)

theorem bench_held (stream : File) (held : desk.me.m_fp = some stream) :
    bench desk rest = ⟨stream :: (desk.host.leaked ++ rest), desk.host.files⟩ := by
  rw [bench, streams, held]
  rfl

theorem bench_closed (closed : desk.me.m_fp = none) :
    bench desk rest = ⟨desk.host.leaked ++ rest, desk.host.files⟩ := by
  rw [bench, streams, closed]
  rfl

theorem keep_kept (stream later : File) (files : Disk Bytes UInt8)
    (held : desk.me.m_fp = some stream)
    (settles : Settles ⟨stream :: (desk.host.leaked ++ rest), desk.host.files⟩
      ⟨later :: (desk.host.leaked ++ rest), files⟩) :
    Kept rest desk (keep later files desk) := by
  refine ⟨?_, rfl⟩
  rw [bench_held desk rest stream held, bench_held (keep later files desk) rest later rfl]
  exact settles

theorem advance_kept (size : Int32) (stream : File) (held : desk.me.m_fp = some stream) :
    Kept rest desk (advance size desk) := by
  by_cases last : desk.me.m_offset + size = desk.me.m_filesize
  · rw [advance_last desk size stream held last]
    refine ⟨?_, rfl⟩
    rw [bench_held desk rest stream held, bench_closed _ rest rfl]
    exact settles_closed stream _ desk.host.files
  · rw [advance_more desk size last]
    exact ⟨Settles.refl _, rfl⟩

theorem sendSized_kept (size : Int32) (stream : File) (held : desk.me.m_fp = some stream) :
    Kept rest desk (sendSized request size desk).state := by
  by_cases negative : size < 0
  · rw [sendSized_negative request desk size negative]
    exact Kept.refl desk rest
  · rw [sendSized_block request desk size negative]
    dsimp only
    rw [readBlock_held desk size stream held]
    split_ifs
    · exact advance_kept desk rest size stream held
    · have block := keep_kept desk rest stream _ _ held
        (settles_get size.toInt.toNat stream _ desk.host.files)
      exact block.trans (advance_kept _ rest size _ rfl)

theorem openDownload_kept (name : Bytes) : Kept rest desk (openDownload fs luck name desk).2 := by
  rcases openDownload_cases fs desk luck name with
    ⟨stream, -, same⟩ | ⟨-, same⟩ | ⟨closed, file, content, -, stored, opening⟩
  · rw [same]
    exact Kept.refl desk rest
  · rw [same]
    exact Kept.refl desk rest
  · have opens : ∀ base, Kept rest desk (reading desk file content base) := by
      intro base
      refine ⟨?_, rfl⟩
      rw [bench_closed desk rest closed, bench_held (reading desk file content base) rest _ rfl]
      refine settles_idle _ _ _ ?_ fun other member => Or.inl (List.mem_cons_of_mem _ member)
      intro other member
      rcases List.mem_cons.mp member with rfl | old
      · exact Or.inr ⟨rfl, by rw [Present, stored]; rfl⟩
      · exact Or.inl old
    rw [opening]
    split_ifs
    · exact opens _
    · exact opens _

/-- The check without its second look. -/
theorem isFileExsit_listed (name : Bytes) (host : Host)
    (proper : name ∈ host.m_listFiles ∨ (luck.probe && readableAt fs name host.files) = false) :
    isFileExsit fs luck name host = (decide (name ∈ host.m_listFiles), host) := by
  rw [isFileExsit]
  by_cases listed : name ∈ host.m_listFiles
  · simp [listed]
  · simp [listed, proper.resolve_left listed]

theorem download_kept
    (proper : request.name ∈ desk.host.m_listFiles ∨
      (luck.probe && readableAt fs request.name desk.host.files) = false) :
    Kept rest desk (onDownloadFileResponse fs luck request desk).state := by
  have check := isFileExsit_listed luck request.name desk.host proper
  have same : checked fs luck request desk = desk := by rw [checked, check]
  by_cases hit : offered fs luck request.name desk.host = true
  · have opened : Kept rest desk (afterOpen fs luck request desk).2 := by
      rw [afterOpen, same]
      exact openDownload_kept luck desk rest request.name
    by_cases granted : (afterOpen fs luck request desk).1 = true
    · obtain ⟨stream, held⟩ := openDownload_held fs _ luck request.name granted
      rw [download_opened fs luck request desk hit granted, sendBlock_sized]
      exact opened.trans (sendSized_kept request _ rest _ stream held)
    · rw [download_unopened fs luck request desk hit (Bool.eq_false_iff.mpr granted)]
      exact opened
  · rw [download_absent fs luck request desk (Bool.eq_false_iff.mpr hit)]
    exact Kept.refl desk rest

/-- What a chunk that ends its file has to meet, for the ledger that knows it. -/
structure Ending (fs : FileSystem) (ledger : Ledger) (streams : List File) (file : Bytes)
    (request : Request) : Prop where
  here : target fs request = some file
  size : request.filesize ∈ ledger.sizes request.name
  sent : ∀ position : Nat, (position : Int) < request.filesize.toInt →
    ∃ byte, ledger.lastSent request.name position = some byte ∧
      placed file request.offset.toInt.toNat request.filedata ledger.written file position = some byte
  quiet : ∀ position : Nat, (position : Int) < request.filesize.toInt →
    ∀ other ∈ streams, other.file = file → ahead other position = none

variable {request desk rest} {ledger : Ledger} {stream : File}

theorem sought_base (files : Disk Bytes UInt8) (placed : 0 ≤ request.offset.toInt) :
    (sought request stream files).1.base = request.offset.toInt.toNat := by
  have tell : (sought request stream files).1.tell = request.offset.toInt.toNat := by
    rw [sought, Stream.seek_tell, if_pos placed]
  rw [← tell, Stream.tell, sought, Stream.seek_pending]
  rfl

/-- The stream and the disk behind `fwrite`. -/
theorem written_sound (held : desk.me.m_fp = some stream) (placed : 0 ≤ request.offset.toInt)
    (unlisted : Unlisted fs desk.host stream.file)
    (clear : Clear (desk.host.leaked ++ rest) stream.file request)
    (sound : Sound fs ledger desk.host.m_listFiles (bench desk rest)) :
    Sound fs (ledger.note (.wrote stream.file request.offset.toInt.toNat request.filedata))
      desk.host.m_listFiles
      ⟨(written luck request stream desk.host.files).1 :: (desk.host.leaked ++ rest),
        (written luck request stream desk.host.files).2⟩ := by
  have file : (sought request stream desk.host.files).1.file = stream.file :=
    stream.seek_file _ _
  have idle : (sought request stream desk.host.files).1.pending = [] := stream.seek_pending _ _
  have base : (sought request stream desk.host.files).1.base = request.offset.toInt.toNat :=
    sought_base desk.host.files placed
  rw [bench_held desk rest stream held] at sound
  have positioned := sound.settles (settles_seek request.offset.toInt stream _ desk.host.files)
  have laid := Sound.put (sought request stream desk.host.files).1 request.filedata positioned idle
    (by rwa [file]) (by rwa [file, base])
  have putting : written luck request stream desk.host.files =
      ByteFiles.Stream.settle luck.kept
        { (sought request stream desk.host.files).1 with pending := request.filedata }
        (sought request stream desk.host.files).2 := by
    rw [written, Stream.put, idle, List.nil_append]
  rw [putting, ← file, ← base]
  exact laid.settles (settles_settle luck.kept _ _ _)

theorem writeChunk_sound (held : desk.me.m_fp = some stream) (filled : request.filedata ≠ [])
    (placed : 0 ≤ request.offset.toInt) (unlisted : Unlisted fs desk.host stream.file)
    (clear : Clear (desk.host.leaked ++ rest) stream.file request)
    (ends : Completes request →
      Ending fs ledger (desk.host.leaked ++ rest) stream.file request)
    (sound : Sound fs ledger desk.host.m_listFiles (bench desk rest)) :
    Sound fs ((writeChunk luck request desk).trace.foldl Ledger.note ledger)
      (writeChunk luck request desk).state.host.m_listFiles
      (bench (writeChunk luck request desk).state rest) := by
  have wrote := written_sound luck held placed unlisted clear sound
  have label : Label.wrote (sought request stream desk.host.files).1.file
      (sought request stream desk.host.files).1.tell request.filedata =
        .wrote stream.file request.offset.toInt.toNat request.filedata := by
    rw [sought, Stream.seek_file, Stream.seek_tell, if_pos placed]
  by_cases last : Completes request
  · rw [writeChunk_last luck request desk stream held filled last, label]
    obtain ⟨here, size, sent, quiet⟩ := ends last
    have closed := wrote.settles (settles_closed _ _ _)
    rw [bench_closed _ rest rfl]
    refine closed.added request.name ⟨stream.file, request.filesize, here, ?_, size, ?_⟩
    · have present := wrote.grounded _ List.mem_cons_self
      rw [show (written luck request stream desk.host.files).1.file = stream.file by
        rw [written, Stream.put_file, sought, Stream.seek_file]] at present
      exact (settles_closed _ _ _).present _ present
    · intro position below
      obtain ⟨byte, known, put⟩ := sent position below
      have still := not_waits _ ((written luck request stream desk.host.files).1.flush
        (written luck request stream desk.host.files).2).2 stream.file position
        (quiet position below)
      refine ⟨byte, known, ?_, still⟩
      exact (closed.agrees.held stream.file position byte put).resolve_left (still byte)
  · rw [writeChunk_part luck request desk stream held filled last, label,
      bench_held (keep _ _ desk) rest _ rfl]
    exact wrote

theorem covered_known (known : Bytes → Nat → Option UInt8) (file : Bytes) (position : Nat)
    (same : request.offset ≠ 0 → known = ledger.written) (put : 0 ≤ request.offset.toInt)
    (covered : Covered ledger file request position) :
    ∃ byte, (ledger.receive request).lastSent request.name position = some byte ∧
      placed file request.offset.toInt.toNat request.filedata known file position = some byte := by
  have place : ((request.offset.toInt.toNat : Nat) : Int) = request.offset.toInt :=
    Int.toNat_of_nonneg put
  simp only [Ledger.receive, placed, if_true, place]
  by_cases own : request.offset.toInt ≤ position ∧
      position < request.offset.toInt + request.filedata.length
  · have inside : (position - request.offset.toInt).toNat < request.filedata.length := by omega
    refine ⟨request.filedata[(position - request.offset.toInt).toNat], ?_, ?_⟩
    · rw [laid, if_pos own, List.getElem?_eq_getElem inside]
    · rw [laid, if_pos own, List.getElem?_eq_getElem inside]
  · rw [laid_outside _ _ _ _ own, laid_outside _ _ _ _ own]
    obtain ⟨later, stands, equal⟩ := covered.resolve_left own
    obtain ⟨byte, found⟩ := Option.ne_none_iff_exists'.mp stands
    exact ⟨byte, equal.symm.trans found, by rw [same later, found]⟩

/-- The condition on the ledger before the request is the one on the ledger that
knows it. -/
theorem ending_of_whole (known : Bytes → Nat → Option UInt8) (streams : List File) (file : Bytes)
    (same : request.offset ≠ 0 → known = ledger.written) (put : 0 ≤ request.offset.toInt)
    (whole : Whole fs ledger streams file request) :
    Ending fs { ledger.receive request with written := known } streams file request where
  here := whole.1
  size := by simp [Ledger.receive]
  sent position below :=
    covered_known known file position same put (whole.2 position (by omega)).1
  quiet position below := (whole.2 position (by omega)).2

theorem writeChunk_empty_kept (empty : request.filedata = []) :
    (writeChunk luck request desk).trace = [] ∧
      Kept rest desk (writeChunk luck request desk).state := by
  cases held : desk.me.m_fp with
  | none =>
      rw [writeChunk_null luck request desk held]
      exact ⟨rfl, Kept.refl desk rest⟩
  | some stream =>
      rw [writeChunk_empty luck request desk stream held empty]
      exact ⟨rfl, keep_kept desk rest stream _ _ held (settles_seek _ stream _ desk.host.files)⟩

/-- A chunk through the stream in `m_fp`, with data or without. -/
theorem chunk_sound (known : Bytes → Nat → Option UInt8)
    (same : request.offset ≠ 0 → known = ledger.written)
    (sound : Sound fs { ledger.receive request with written := known } desk.host.m_listFiles
      (bench desk rest))
    (writes : request.filedata ≠ [] → ∀ stream ∈ desk.me.m_fp,
      Unlisted fs desk.host stream.file ∧ 0 ≤ request.offset.toInt ∧
        Clear (desk.host.leaked ++ rest) stream.file request ∧
        (Completes request → Whole fs ledger (desk.host.leaked ++ rest) stream.file request)) :
    Sound fs ((writeChunk luck request desk).trace.foldl Ledger.note
        { ledger.receive request with written := known })
      (writeChunk luck request desk).state.host.m_listFiles
      (bench (writeChunk luck request desk).state rest) := by
  by_cases empty : request.filedata = []
  · obtain ⟨silent, kept⟩ : (writeChunk luck request desk).trace = [] ∧
        Kept rest desk (writeChunk luck request desk).state := writeChunk_empty_kept luck empty
    rw [silent, kept.listed]
    exact sound.settles kept.settles
  · cases held : desk.me.m_fp with
    | none =>
        rw [writeChunk_null luck request desk held]
        exact sound
    | some stream =>
        obtain ⟨unlisted, put, clear, whole⟩ := writes empty stream held
        exact writeChunk_sound luck held empty put unlisted clear
          (fun last => ending_of_whole known _ _ same put (whole last)) sound

variable (fs request desk rest) in
/-- The ledger behind an upload that the check lets through. -/
def opening (ledger : Ledger) : Ledger :=
  if request.offset = 0 then
    (((openNew fs luck (cached request.name) desk.host).1.map ByteFiles.Stream.file).elim
      (ledger.receive request) fun file => (ledger.receive request).empty file)
  else ledger.receive request

variable (desk rest) in
/-- What `Writes` asks for, seen from the desk. -/
def Chunk (fs : FileSystem) (luck : Luck) (ledger : Ledger) (request : Request) : Prop :=
  ∀ stream ∈ (if request.offset = 0 then (openNew fs luck (cached request.name) desk.host).1
      else desk.me.m_fp),
    (request.offset = 0 ∨ request.filedata ≠ [] → Unlisted fs desk.host stream.file) ∧
    (request.filedata ≠ [] → 0 ≤ request.offset.toInt ∧
      Clear ((if request.offset = 0 then desk.me.m_fp.toList else []) ++ desk.host.leaked ++ rest)
        stream.file request ∧
      (Completes request → Whole fs ledger
        ((if request.offset = 0 then desk.me.m_fp.toList else []) ++ desk.host.leaked ++ rest)
        stream.file request))

theorem openNew_none (refused : (openUpload fs luck request.name desk).1 = false) :
    (openNew fs luck (cached request.name) desk.host).1 = none := by
  simpa [openUpload] using refused

theorem openNew_stream :
    (openNew fs luck (cached request.name) desk.host).1 =
      (openUpload fs luck request.name desk).2.me.m_fp := rfl

/-- An upload that the check lets through: its file is opened, or the stream is there. -/
theorem upload_sound (absent : offered fs luck request.name desk.host = false)
    (unlisted : request.name ∉ desk.host.m_listFiles) (chunk : Chunk desk rest fs luck ledger request)
    (sound : Sound fs ledger desk.host.m_listFiles (bench desk rest)) :
    Sound fs ((onUploadFileResponse fs luck request desk).trace.foldl Ledger.note
        (opening fs luck request desk ledger))
      (onUploadFileResponse fs luck request desk).state.host.m_listFiles
      (bench (onUploadFileResponse fs luck request desk).state rest) := by
  have heard := sound.received request unlisted
  by_cases first : request.offset = 0
  · rw [Chunk, if_pos first, if_pos first] at chunk
    rw [opening, if_pos first]
    cases granted : (openUpload fs luck request.name desk).1 with
    | false =>
        rw [upload_unopened fs luck request desk absent first granted,
          openNew_none luck granted, openUpload_failed fs luck request desk granted]
        -- the stream that was there stays open, among those that no session reaches
        exact heard
    | true =>
        rw [upload_first fs luck request desk absent first granted, openNew_stream luck]
        rw [openNew_stream luck] at chunk
        obtain ⟨file, resolved, opened⟩ := openUpload_granted fs luck request desk granted
        rw [opened] at chunk ⊢
        obtain ⟨free, writes⟩ := chunk _ rfl
        have fresh := heard.emptied { file := file, readable := false, opened := desk.host.opened }
          (free (Or.inl first))
        refine chunk_sound luck (emptied file ledger.written) (fun later => absurd first later)
          fresh ?_
        rintro filled stream ⟨⟩
        obtain ⟨put, clear, whole⟩ := writes filled
        exact ⟨free (Or.inl first), put, clear, whole⟩
  · rw [Chunk, if_neg first, if_neg first] at chunk
    rw [opening, if_neg first, upload_next fs luck request desk absent first]
    refine chunk_sound luck ledger.written (fun _ => rfl) heard fun filled stream held => ?_
    obtain ⟨free, writes⟩ := chunk stream held
    obtain ⟨put, clear, whole⟩ := writes filled
    exact ⟨free (Or.inr filled), put, clear, whole⟩

end Handlers

/-! The server. -/
section Servers

variable {fs : FileSystem} {counts : Bool}

def shelfOf (world : World) : Shelf Bytes UInt8 := ⟨openStreams world, world.host.files⟩

theorem mem_open (world : World) (conn : Bytes) (me : FileSession)
    (found : world.m_sessions.find? conn = some me) (stream : File) :
    stream ∈ openStreams world ↔ stream ∈ (bench ⟨me, world.host⟩ (others conn world)).streams := by
  have own : ∀ entry ∈ world.m_sessions.entries, entry.1 = conn → entry.2 = me := by
    rintro ⟨key, session⟩ member rfl
    exact Option.some.inj (((OrderedMap.find?_iff _ _ _).mpr member).symm.trans found)
  simp only [openStreams, bench, streams, others, List.mem_append, List.mem_filterMap,
    OrderedMap.values, OrderedMap.erase, List.mem_map, List.mem_filter, Option.mem_toList]
  constructor
  · rintro (⟨session, ⟨entry, member, rfl⟩, open'⟩ | lost)
    · by_cases here : entry.1 = conn
      · exact Or.inl (Or.inl (own entry member here ▸ open'))
      · exact Or.inr ⟨entry.2, ⟨entry, ⟨member, by simpa using here⟩, rfl⟩, open'⟩
    · exact Or.inl (Or.inr lost)
  · rintro ((open' | lost) | ⟨session, ⟨entry, ⟨member, -⟩, rfl⟩, open'⟩)
    · exact Or.inl ⟨me, ⟨(conn, me), (OrderedMap.find?_iff _ _ _).mp found, rfl⟩, open'⟩
    · exact Or.inr lost
    · exact Or.inl ⟨entry.2, ⟨entry, member, rfl⟩, open'⟩

theorem step_frame (world : World) (conn : Bytes) (me : FileSession) (frame : Frame)
    (up : world.up = true) (found : world.m_sessions.find? conn = some me) :
    step fs world (.frame conn frame) =
      ((serve fs ⟨me, world.host⟩ frame).1.map (conn, ·),
        { m_sessions := world.m_sessions.modify conn fun _ =>
            (serve fs ⟨me, world.host⟩ frame).2.desk.me
          host := (serve fs ⟨me, world.host⟩ frame).2.desk.host
          up := (serve fs ⟨me, world.host⟩ frame).2.up }) := by
  rw [step]
  simp only [up, found]

/-- What holds beside the other sessions' streams holds of the server. -/
theorem frame_shelf (world : World) (conn : Bytes) (me later : FileSession) (host : Host)
    (up : Bool) (found : world.m_sessions.find? conn = some me) :
    Settles (bench ⟨later, host⟩ (others conn world))
      (shelfOf { m_sessions := world.m_sessions.modify conn fun _ => later, host := host, up := up }) := by
  let after : World :=
    { m_sessions := world.m_sessions.modify conn fun _ => later, host := host, up := up }
  have same : others conn after = others conn world := by
    rw [others, OrderedMap.erase_modify, others]
  have held : after.m_sessions.find? conn = some later := by
    rw [OrderedMap.find?_modify, found, Option.map_some, if_pos rfl]
  rw [← same]
  exact settles_members _ _ _ fun stream => (mem_open after conn later held stream).symm

theorem bench_concluded (outcome : Outcome Desk Label Crash Unit) (rest : List File) :
    bench (concluded outcome).2.desk rest = bench outcome.state rest ∧
      (concluded outcome).2.desk.host = outcome.state.host := by
  rw [concluded]
  split <;> exact ⟨rfl, rfl⟩

theorem not_offered (luck : Luck) (name : Bytes) (host : Host) (unlisted : name ∉ host.m_listFiles)
    (unread : (luck.probe && readableAt fs name host.files) = false) :
    offered fs luck name host = false := by
  rw [offered, isFileExsit_listed luck name host (Or.inr unread)]
  exact decide_eq_false unlisted

variable (fs) in
/-- An upload that the check answers leaves everything as it is. -/
theorem answered (luck : Luck) (request : Request) (desk : Desk)
    (listed : request.name ∈ desk.host.m_listFiles) :
    (onUploadFileResponse fs luck request desk).state = desk ∧
      ∀ ledger : Ledger, (onUploadFileResponse fs luck request desk).trace.foldl Ledger.note ledger =
        ledger := by
  have check : isFileExsit fs luck request.name desk.host =
      (decide (request.name ∈ desk.host.m_listFiles), desk.host) :=
    isFileExsit_listed luck request.name desk.host (Or.inl listed)
  have hit : offered fs luck request.name desk.host = true := by
    rw [offered, check]
    exact decide_eq_true listed
  rw [upload_offered fs luck request desk hit, check]
  exact ⟨rfl, fun _ => rfl⟩

theorem sends_only (luck : Luck) (request : Request) (desk : Desk) (ledger : Ledger) :
    (onDownloadFileResponse fs luck request desk).trace.foldl Ledger.note ledger = ledger := by
  by_cases hit : offered fs luck request.name desk.host = true
  · by_cases granted : (afterOpen fs luck request desk).1 = true
    · rw [download_opened fs luck request desk hit granted, sendBlock_sized]
      by_cases negative : currentSendSize (afterOpen fs luck request desk).2.me < 0
      · rw [sendSized_negative request _ _ negative]
        rfl
      · rw [sendSized_block request _ _ negative]
        rfl
    · rw [download_unopened fs luck request desk hit (Bool.eq_false_iff.mpr granted)]
      rfl
  · rw [download_absent fs luck request desk (Bool.eq_false_iff.mpr hit)]
    rfl

/-- The handlers keep the invariant, and with it what they tell the ledger. -/
theorem handled_sound (watched : Watched) (call : Call) (proper : Proper fs counts watched call)
    (sound : Sound fs watched.ledger watched.world.host.m_listFiles
      (bench ⟨call.me, watched.world.host⟩ (others call.conn watched.world))) :
    Sound fs ((handled fs call.luck call.asked ⟨call.me, watched.world.host⟩).trace.foldl Ledger.note
        ((emptiedBy fs watched.world.host call).elim
          (hear fs counts watched.world.host call watched.ledger)
          fun file => (hear fs counts watched.world.host call watched.ledger).empty file))
      (handled fs call.luck call.asked ⟨call.me, watched.world.host⟩).state.host.m_listFiles
      (bench (handled fs call.luck call.asked ⟨call.me, watched.world.host⟩).state
        (others call.conn watched.world)) := by
  obtain ⟨conn, me, luck, asked⟩ := call
  obtain ⟨world, ledger⟩ := watched
  rw [Proper] at proper
  cases asked with
  | download seq request =>
      have met : request.name ∈ world.host.m_listFiles ∨
          (luck.probe && readableAt fs request.name world.host.files) = false := by
        split_ifs at proper with listed
        · exact Or.inl listed
        · exact Or.inr proper.1
      have kept := download_kept luck request (setSeq (fun _ => seq) ⟨me, world.host⟩)
        (others conn world) met
      rw [handled, sends_only, kept.listed]
      exact sound.settles kept.settles
  | upload seq request =>
      rw [handled]
      split_ifs at proper with listed
      · obtain ⟨still, silent⟩ := answered fs luck request (setSeq (fun _ => seq) ⟨me, world.host⟩)
          listed
        have hit : offered fs luck request.name world.host = true :=
          (offered_iff fs luck request.name world.host).mpr (Or.inl listed)
        have unopened : emptiedBy fs world.host ⟨conn, me, luck, .upload seq request⟩ = none := by
          simp [emptiedBy, Call.offered, Call.name, requestOf, hit]
        rw [still, silent, unopened]
        cases counts with
        | false =>
            have same : hear fs false world.host ⟨conn, me, luck, .upload seq request⟩ ledger =
                ledger := by
              simp [hear, Call.offered, Call.name, requestOf, hit]
            rw [same]
            exact sound
        | true => exact sound.repeated request (proper rfl)
      · have absent := not_offered luck request.name world.host listed proper.1
        have heard : hear fs counts world.host ⟨conn, me, luck, .upload seq request⟩ ledger =
            ledger.receive request := by
          simp [hear, Call.offered, Call.name, requestOf, absent]
        have opens : (emptiedBy fs world.host ⟨conn, me, luck, .upload seq request⟩).elim
            (ledger.receive request) (fun file => (ledger.receive request).empty file) =
              opening fs luck request (setSeq (fun _ => seq) ⟨me, world.host⟩) ledger := by
          simp only [emptiedBy, Call.offered, Call.name, requestOf, absent, true_and, opening]
          split_ifs <;> rfl
        rw [heard, opens]
        exact upload_sound luck absent listed proper.2 sound

theorem frame_sound (watched : Watched) (conn : Bytes) (frame : Frame)
    (careful : Careful fs counts watched (.frame conn frame))
    (sound : Sound fs watched.ledger watched.world.host.m_listFiles (shelfOf watched.world)) :
    Sound fs (watch fs counts watched (.frame conn frame)).2.ledger
      (watch fs counts watched (.frame conn frame)).2.world.host.m_listFiles
      (shelfOf (watch fs counts watched (.frame conn frame)).2.world) := by
  obtain ⟨world, ledger⟩ := watched
  simp only [watch, account]
  cases up : world.up with
  | false =>
      simp only [step, callOf, up]
      exact sound
  | true =>
      cases found : world.m_sessions.find? conn with
      | none =>
          simp only [step, callOf, up, found]
          exact sound
      | some me =>
          have beside := sound.settles
            (settles_members _ (bench ⟨me, world.host⟩ (others conn world)).streams _
              (mem_open world conn me found))
          rw [step_frame world conn me frame up found]
          cases sent : order frame with
          | none =>
              obtain ⟨change, later, silent⟩ := serve_none fs ⟨me, world.host⟩ frame sent
              rw [silent]
              simp only [callOf, up, found, sent]
              have moved := frame_shelf world conn me (setSeq change ⟨me, world.host⟩).me world.host
                later found
              exact beside.settles moved
          | some asked =>
              have call : callOf world (.frame conn frame) = some ⟨conn, me, frame.luck, asked⟩ := by
                simp [callOf, up, found, sent]
              have handles := handled_sound ⟨world, ledger⟩ ⟨conn, me, frame.luck, asked⟩
                (careful _ call) beside
              obtain ⟨same, host⟩ := bench_concluded (handled fs frame.luck asked ⟨me, world.host⟩)
                (others conn world)
              rw [serve_order fs ⟨me, world.host⟩ frame asked sent, call, concluded_trace]
              rw [← same, ← host] at handles
              have traced : ∀ trace : List Label, (trace.map (conn, ·)).map Prod.snd = trace := by
                intro trace
                simp [Function.comp_def]
              simp only [traced]
              exact handles.settles (frame_shelf world conn me _ _ _ found)

theorem connect_sound (world : World) (conn : Bytes) :
    Settles (shelfOf world)
      (shelfOf { world with m_sessions := world.m_sessions.insert conn {} }) := by
  refine settles_members _ _ _ fun stream => ?_
  simp only [openStreams, List.mem_append, List.mem_filterMap, OrderedMap.values, List.mem_map,
    OrderedMap.insert]
  constructor
  · rintro (⟨session, ⟨entry, member, rfl⟩, held⟩ | lost)
    · exact Or.inl ⟨entry.2, ⟨entry, mem_insertBy_of_mem _ _ entry _ member, rfl⟩, held⟩
    · exact Or.inr lost
  · rintro (⟨session, ⟨entry, member, rfl⟩, held⟩ | lost)
    · rcases mem_insertBy _ _ entry _ member with rfl | old
      -- a new session has no stream
      · cases held
      · exact Or.inl ⟨entry.2, ⟨entry, old, rfl⟩, held⟩
    · exact Or.inr lost

theorem close_sound (world : World) (conn : Bytes) :
    Settles (shelfOf world)
      (shelfOf { world with
        m_sessions := world.m_sessions.erase conn
        host := { world.host with
          leaked := ((world.m_sessions.find? conn).bind FileSession.m_fp).toList ++
            world.host.leaked } }) := by
  refine settles_members _ _ _ fun stream => ?_
  cases found : world.m_sessions.find? conn with
  | none =>
      have absent := (OrderedMap.find?_none_iff conn world.m_sessions).mp found
      have same : world.m_sessions.erase conn = world.m_sessions := by
        apply OrderedMap.ext
        exact List.filter_eq_self.mpr fun entry member => by simpa using absent entry member
      rw [same]
      exact Iff.rfl
  | some me =>
      rw [mem_open world conn me found]
      simp only [bench, streams, others, openStreams, Option.bind_some, List.mem_append]
      tauto

/-- A restart of either kind: what no stream is about to change is still there. -/
theorem restart_settled (saved : Bool) (watched : Watched)
    (sound : Sound fs watched.ledger watched.world.host.m_listFiles (shelfOf watched.world))
    (name : Bytes) (listed : name ∈ watched.world.host.m_listFiles) :
    Settled fs { watched.ledger with written := fun _ _ => none }
      (shelfOf (restart fs saved watched.world)) name := by
  cases saved with
  | true =>
      have written := settles_flushAll (openStreams watched.world) watched.world.host.files
      exact settled_settles name written (sound.settled name listed)
  | false =>
      obtain ⟨file, filesize, here, present, size, whole⟩ := sound.settled name listed
      refine ⟨file, filesize, here, present, size, fun position below => ?_⟩
      obtain ⟨byte, sent, stored, -⟩ := whole position below
      exact ⟨byte, sent, stored, by rintro other ⟨stream, member, -⟩; cases member⟩

theorem restart_listed (saved : Bool) (world : World) (name : Bytes)
    (listed : name ∈ (restart fs saved world).host.m_listFiles) :
    ∃ file ∈ world.host.files.entries, fs.entry file.1 = some name := by
  obtain ⟨⟨file, content⟩, member, entry⟩ := List.mem_filterMap.mp listed
  have stands := (OrderedMap.find?_iff _ _ _).mpr member
  have before : (world.host.files.find? file).isSome = true := by
    cases saved with
    | true =>
        rw [if_pos rfl] at stands
        rw [← flushAll_present (openStreams world), stands, Option.isSome_some]
    | false => exact Option.isSome_iff_exists.mpr ⟨content, stands⟩
  obtain ⟨old, found⟩ := Option.isSome_iff_exists.mp before
  exact ⟨(file, old), (OrderedMap.find?_iff _ _ _).mp found, entry⟩

theorem watch_sound (watched : Watched) (event : Event) (careful : Careful fs counts watched event)
    (sound : Sound fs watched.ledger watched.world.host.m_listFiles (shelfOf watched.world)) :
    Sound fs (watch fs counts watched event).2.ledger
      (watch fs counts watched event).2.world.host.m_listFiles
      (shelfOf (watch fs counts watched event).2.world) := by
  cases event with
  | frame conn frame => exact frame_sound watched conn frame careful sound
  | connect conn =>
      cases up : watched.world.up with
      | false => simpa [watch, account, callOf, step, up] using sound
      | true =>
          simpa [watch, account, callOf, step, up] using
            sound.settles (connect_sound watched.world conn)
  | close conn =>
      cases up : watched.world.up with
      | false => simpa [watch, account, callOf, step, up] using sound
      | true =>
          simpa [watch, account, callOf, step, up] using
            sound.settles (close_sound watched.world conn)
  | restart saved =>
      constructor
      case agrees => exact agrees_unwritten _
      case grounded => exact grounded_closed _
      case settled =>
        intro name listed
        obtain ⟨file, member, entry⟩ := restart_listed saved watched.world name listed
        exact restart_settled saved watched sound name (careful file member name entry)

/-- What the check accepts is listed, and complete. -/
theorem sound_offers (watched : Watched) (event : Event) (careful : Careful fs counts watched event)
    (sound : Sound fs watched.ledger watched.world.host.m_listFiles (shelfOf watched.world)) :
    Offers fs counts watched event := by
  intro call called hit
  have proper : Proper fs counts watched call := by
    cases event with
    | frame conn frame => exact careful call called
    | connect conn => cases called
    | close conn => cases called
    | restart saved => cases called
  obtain ⟨conn, me, luck, asked⟩ := call
  rw [Proper] at proper
  split_ifs at proper with listed
  · cases asked with
    | download seq request => exact settled_complete request.name (sound.settled request.name listed)
    | upload seq request =>
        rw [hear]
        cases counts with
        | false =>
            simp only [hit, Bool.not_true, Bool.or_self, Bool.false_eq_true, if_false]
            exact settled_complete request.name (sound.settled request.name listed)
        | true =>
            have heard := sound.repeated request (proper rfl)
            exact settled_complete request.name (heard.settled request.name listed)
  · rw [Call.offered, not_offered luck _ _ listed proper.1] at hit
    cases hit

def sampleRequest (kind : MsgType) (offset filesize : Int32) (filedata : Bytes) : Event :=
  .frame [1] (requestFrame kind ⟨[97], offset, filesize, filedata⟩ plainExtra)

/-- Two chunks, the first one once more, a new start and a download. -/
def wholeUpload : List Event :=
  [.connect [1], sampleRequest .upload_req 0 3 [1, 2], sampleRequest .upload_req 2 3 [3],
    sampleRequest .upload_req 0 3 [1, 2], .restart true, .connect [1],
    sampleRequest .download_req 0 0 []]

/-- The first and the last byte of a file of ten. -/
def bothEnds : List Event :=
  [.connect [1], sampleRequest .upload_req 0 10 [1], sampleRequest .upload_req 9 10 [2]]

def behindBoth (counts : Bool) : Watched :=
  (run (watch plainFiles counts) ⟨{ host := init plainFiles .empty }, {}⟩ bothEnds).2

/-- What is not sent is not there, however the file came to be listed. -/
theorem unsent_incomplete (fs : FileSystem) (ledger : Ledger) (files : Disk Bytes UInt8)
    (name : Bytes) (position : Nat) (sizes : ∀ size ∈ ledger.sizes name, (position : Int) < size.toInt)
    (unsent : ledger.lastSent name position = none) : ¬ Complete fs ledger files name := by
  rintro ⟨file, content, filesize, -, -, size, whole⟩
  obtain ⟨byte, sent, -⟩ := whole position (sizes filesize size)
  rw [unsent] at sent
  cases sent

/-- A chunk that ends where the file ends lists it, whatever came before. -/
theorem hole_offered (counts : Bool) :
    ¬ Offers plainFiles counts (behindBoth counts) (sampleRequest .download_req 0 0 []) := by
  intro offers
  have called : callOf (behindBoth counts).world (sampleRequest .download_req 0 0 []) =
      some ⟨[1], { m_seq := 8 }, ⟨true, true, 4096⟩, .download 7 ⟨[97], 0, 0, []⟩⟩ := by
    cases counts <;> decide +kernel
  have hit : Call.offered plainFiles ⟨[1], { m_seq := 8 }, ⟨true, true, 4096⟩,
      .download 7 ⟨[97], 0, 0, []⟩⟩ (behindBoth counts).world.host = true := by
    cases counts <;> decide +kernel
  have sizes : (behindBoth counts).ledger.sizes [97] = [10, 10] := by
    cases counts <;> decide +kernel
  have unsent : (behindBoth counts).ledger.lastSent [97] 1 = none := by
    cases counts <;> decide +kernel
  generalize behindBoth counts = watched at offers called hit sizes unsent
  have inside : ∀ size ∈ watched.ledger.sizes [97], ((1 : Nat) : Int) < size.toInt := by
    simp [sizes]
  exact unsent_incomplete _ _ _ _ 1 inside unsent (offers _ called hit)

end Servers

end EdoyumIM.FileOffers
