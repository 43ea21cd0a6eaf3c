import EdoyumIM.FileTransfer

/-!
The numbers of OnDownloadFileResponse over successive requests for one file:
`m_offset + currentSendSize` as it is compared with `m_filesize`, what `fread` is
asked for, and what the session remembers between the requests. The offsets are
multiples of the block size, so it is the 4096th block that reaches 2 GiB.
-/

namespace EdoyumIM.DownloadRange

open MachineWords OrderedStore ByteFiles Effects FileServer FileSteps FileTransfer
open JsonValue (text)

/-! What is asked of one request. -/
section Range

variable (fs : FileSystem)

/-- The desk with which the handler comes to the sum; `none` if it returns before. -/
def sending (luck : Luck) (request : Request) (desk : Desk) : Option Desk :=
  if offered fs luck request.name desk.host = true ∧
      (afterOpen fs luck request desk).1 = true then
    some (afterOpen fs luck request desk).2
  else none

structure SizeInRange (me : FileSession) : Prop where
  sum : me.m_offset.toInt + blockSize.toInt < 2 ^ 31
  least : 1 ≤ (currentSendSize me).toInt
  most : (currentSendSize me).toInt ≤ min 524288 (me.m_filesize.toInt - me.m_offset.toInt)

structure OffsetInRange (me : FileSession) : Prop where
  low : 0 ≤ me.m_offset.toInt
  high : me.m_offset.toInt ≤ me.m_filesize.toInt

def InRange (station : Station) (frame : Frame) : Prop :=
  station.up = true →
    (∀ seq request held, order frame = some (.download seq request) →
      sending fs frame.luck request (setSeq (fun _ => seq) station.desk) = some held →
        SizeInRange held.me) ∧
    OffsetInRange (sessionStep fs station frame).2.desk.me

/-- The frame is a request to download the file of the given name. -/
def Asks (name : Bytes) (frame : Frame) : Prop :=
  ∃ seq request, order frame = some (.download seq request) ∧ request.name = name

theorem asked_step (frame : Frame) (seq : Int32) (request : Request) (desk : Desk)
    (asked : order frame = some (.download seq request)) :
    sessionStep fs ⟨desk, true⟩ frame =
      concluded (onDownloadFileResponse fs frame.luck request (setSeq (fun _ => seq) desk)) := by
  rw [sessionStep, if_pos rfl, serve_order fs desk frame _ asked]
  rfl

end Range

/-! One request, for a file that is there. -/
section Requests

variable (fs : FileSystem) (name file content : Bytes)

structure Idle (desk : Desk) : Prop where
  closed : desk.me.m_fp = none
  start : desk.me.m_offset = 0
  size : desk.me.m_filesize = 0
  stored : desk.host.files.find? file = some content

variable {name file content}

theorem idle_offset (desk : Desk) (idle : Idle file content desk) : OffsetInRange desk.me := by
  constructor
  · rw [idle.start]
    decide
  · rw [idle.start, idle.size]

theorem idle_checked (luck : Luck) (request : Request) (desk : Desk)
    (idle : Idle file content desk) : Idle file content (checked fs luck request desk) := by
  obtain ⟨listed, host, -⟩ := isFileExsit_host fs luck request.name desk.host
  refine ⟨idle.closed, idle.start, idle.size, ?_⟩
  rw [checked, host]
  exact idle.stored

/-- A request that does not come to the sum leaves the session idle. -/
theorem idle_refused (luck : Luck) (request : Request) (desk : Desk) (idle : Idle file content desk)
    (refused : ¬ (offered fs luck request.name desk.host = true ∧ luck.opens = true)) :
    sending fs luck request desk = none ∧
      onDownloadFileResponse fs luck request desk = ⟨[], checked fs luck request desk, .ok ()⟩ := by
  cases hit : offered fs luck request.name desk.host with
  | false =>
      constructor
      · simp [sending, hit]
      · rw [download_absent fs luck request desk hit, checked,
          isFileExsit_absent fs luck request.name desk.host hit]
  | true =>
      have closed : luck.opens = false := by simpa [hit] using refused
      have unopened : afterOpen fs luck request desk = (false, checked fs luck request desk) := by
        rw [afterOpen, openDownload, (idle_checked fs luck request desk idle).closed]
        cases resolved : fs.resolve (cached request.name) with
        | none => simp [openOld, resolved]
        | some file => simp [openOld, resolved, closed]
      constructor
      · simp [sending, unopened]
      · rw [download_unopened fs luck request desk hit (congrArg Prod.fst unopened), unopened]

theorem idle_sending (resolved : fs.resolve (cached name) = some file) (luck : Luck)
    (request : Request) (named : request.name = name) (desk : Desk) (filled : 0 < content.length)
    (fits : content.length < 2 ^ 31) (idle : Idle file content desk)
    (hit : offered fs luck request.name desk.host = true) (granted : luck.opens = true) :
    ∃ held, sending fs luck request desk = some held ∧ Downloading name file content 0 held := by
  have listed := offered_listed fs luck request.name desk.host hit
  have later := idle_checked fs luck request desk idle
  have waiting : Waiting name file content 0 (checked fs luck request desk) :=
    Or.inl ⟨rfl, later.closed, later.start, named ▸ listed, later.stored⟩
  obtain ⟨-, held, opening, -, downloading⟩ := waiting_opens fs resolved luck request named _ 0
    (fun _ => granted) filled fits waiting
  have again : checked fs luck request (checked fs luck request desk) =
      checked fs luck request desk := by
    rw [checked, isFileExsit, if_pos (by exact listed)]
  have same : afterOpen fs luck request desk = (true, held) := by
    rwa [afterOpen, again] at opening
  exact ⟨held, by simp [sending, hit, same], downloading⟩

theorem held_sending (resolved : fs.resolve (cached name) = some file) (luck : Luck)
    (request : Request) (named : request.name = name) (desk : Desk) (position : Nat)
    (started : 0 < position) (inside : position < content.length) (fits : content.length < 2 ^ 31)
    (downloading : Downloading name file content position desk) :
    ∃ held, sending fs luck request desk = some held ∧
      Downloading name file content position held := by
  obtain ⟨hit, held, opening, -, still⟩ := waiting_opens fs resolved luck request named desk position
    (fun zero => absurd zero started.ne') inside fits (Or.inr ⟨started, downloading⟩)
  exact ⟨held, by simp [sending, hit, opening], still⟩

theorem sending_result (luck : Luck) (request : Request) (desk held : Desk)
    (sends : sending fs luck request desk = some held) :
    onDownloadFileResponse fs luck request desk = sendBlock request held := by
  rw [sending] at sends
  split_ifs at sends with both
  obtain rfl := Option.some.inj sends
  exact download_opened fs luck request desk both.1 both.2

theorem size_in_range (position : Nat) (desk : Desk)
    (downloading : Downloading name file content position desk) (inside : position < content.length)
    (fits : content.length < 2 ^ 31) :
    SizeInRange desk.me ↔ position + blockBytes < 2 ^ 31 := by
  have bytes := blockBytes_eq
  have block : blockSize.toInt = 524288 := by decide
  have offset : desk.me.m_offset.toInt = position := by
    rw [downloading.offset, int32OfNat_toInt position (by omega)]
  have size : desk.me.m_filesize.toInt = content.length := by
    rw [downloading.size, int32OfNat_toInt _ fits]
  constructor
  · rintro ⟨sum, -, -⟩
    rw [offset, block] at sum
    omega
  · intro room
    have sized : (currentSendSize desk.me).toInt =
        (min (content.length - position) blockBytes : Nat) := by
      rw [block_size position desk downloading inside fits room, int32OfNat_toInt _ (by omega)]
    refine ⟨by rw [offset, block]; omega, by rw [sized]; omega, ?_⟩
    rw [sized, size, offset]
    omega

theorem downloading_offset (position : Nat) (desk : Desk)
    (downloading : Downloading name file content position desk) (inside : position < content.length)
    (fits : content.length < 2 ^ 31) : OffsetInRange desk.me := by
  constructor
  · rw [downloading.offset, int32OfNat_toInt position (by omega)]
    omega
  · rw [downloading.offset, downloading.size, int32OfNat_toInt position (by omega),
      int32OfNat_toInt _ fits]
    omega

theorem downloaded_idle (desk : Desk) (downloaded : Downloaded name file content desk) :
    Idle file content desk :=
  ⟨downloaded.idle, downloaded.start, downloaded.size, downloaded.stored⟩

/-- The request for the block at the given position. -/
theorem block_step (frame : Frame) (seq : Int32) (request : Request) (desk held : Desk)
    (asked : order frame = some (.download seq request)) (position : Nat)
    (sends : sending fs frame.luck request (setSeq (fun _ => seq) desk) = some held)
    (downloading : Downloading name file content position held)
    (inside : position < content.length) (fits : content.length < 2 ^ 31)
    (room : position + blockBytes < 2 ^ 31) :
    InRange fs ⟨desk, true⟩ frame ∧
      ∃ later, (sessionStep fs ⟨desk, true⟩ frame).2 = ⟨later, true⟩ ∧
        if content.length ≤ position + blockBytes then Downloaded name file content later
        else Downloading name file content (position + blockBytes) later := by
  obtain ⟨returned, -, next⟩ := block_sent request position held downloading inside fits room
  have result : (sessionStep fs ⟨desk, true⟩ frame).2 =
      ⟨setSeq (· + 1) (sendBlock request held).state, true⟩ := by
    rw [asked_step fs frame seq request desk asked, sending_result fs _ _ _ held sends,
      concluded_ok _ returned]
  have reached : if content.length ≤ position + blockBytes then
      Downloaded name file content (setSeq (· + 1) (sendBlock request held).state)
      else Downloading name file content (position + blockBytes)
        (setSeq (· + 1) (sendBlock request held).state) := by
    split_ifs at next ⊢ with last
    · exact downloaded_setSeq (· + 1) _ next
    · exact downloading_setSeq (· + 1) _ _ next
  refine ⟨fun _ => ⟨?_, ?_⟩, _, result, reached⟩
  · intro seq' request' held' asked' sends'
    obtain ⟨rfl, rfl⟩ := Order.download.inj (Option.some.inj (asked.symm.trans asked'))
    obtain rfl := Option.some.inj (sends.symm.trans sends')
    exact (size_in_range position held downloading inside fits).mpr room
  · rw [result]
    split_ifs at reached with last
    · exact idle_offset _ (downloaded_idle _ reached)
    · exact downloading_offset _ _ reached (by omega) fits

/-- The sum of the block that would end at 2 GiB or behind it. -/
theorem overflow_step (frame : Frame) (seq : Int32) (request : Request) (desk held : Desk)
    (asked : order frame = some (.download seq request)) (position : Nat)
    (sends : sending fs frame.luck request (setSeq (fun _ => seq) desk) = some held)
    (downloading : Downloading name file content position held)
    (inside : position < content.length) (fits : content.length < 2 ^ 31)
    (full : 2 ^ 31 ≤ position + blockBytes) : ¬ InRange fs ⟨desk, true⟩ frame := by
  intro inRange
  have sized := (inRange rfl).1 seq request held asked sends
  exact absurd ((size_in_range position held downloading inside fits).mp sized) (by omega)

theorem idle_step (frame : Frame) (seq : Int32) (request : Request) (desk : Desk)
    (asked : order frame = some (.download seq request)) (idle : Idle file content desk)
    (refused : ¬ (offered fs frame.luck request.name desk.host = true ∧ frame.luck.opens = true)) :
    InRange fs ⟨desk, true⟩ frame ∧
      ∃ later, (sessionStep fs ⟨desk, true⟩ frame).2 = ⟨later, true⟩ ∧ Idle file content later ∧
        later.host = (isFileExsit fs frame.luck request.name desk.host).2 := by
  have resting : Idle file content (setSeq (fun _ => seq) desk) :=
    ⟨idle.closed, idle.start, idle.size, idle.stored⟩
  obtain ⟨silent, result⟩ := idle_refused fs frame.luck request _ resting refused
  have after : (sessionStep fs ⟨desk, true⟩ frame).2 =
      ⟨setSeq (· + 1) (checked fs frame.luck request (setSeq (fun _ => seq) desk)), true⟩ := by
    rw [asked_step fs frame seq request desk asked, result]
    rfl
  have still := idle_checked fs frame.luck request _ resting
  have later : Idle file content
      (setSeq (· + 1) (checked fs frame.luck request (setSeq (fun _ => seq) desk))) :=
    ⟨still.closed, still.start, still.size, still.stored⟩
  refine ⟨fun _ => ⟨?_, ?_⟩, _, after, later, rfl⟩
  · intro seq' request' held asked' sends
    obtain ⟨rfl, rfl⟩ := Order.download.inj (Option.some.inj (asked.symm.trans asked'))
    rw [silent] at sends
    cases sends
  · rw [after]
    exact idle_offset _ later

end Requests

/-! Successive requests. -/
section Runs

variable (fs : FileSystem) {name file content : Bytes}

/-- The requests from the one on that finds the file and opens it. -/
def fromOpening (name : Bytes) : Host → List Frame → List Frame
  | _, [] => []
  | host, frame :: rest =>
      if offered fs frame.luck name host = true ∧ frame.luck.opens = true then frame :: rest
      else fromOpening name (isFileExsit fs frame.luck name host).2 rest

/-- Between two requests: nothing is open, or some blocks have been sent. -/
def Between (name file content : Bytes) (station : Station) : Prop :=
  station.up = true ∧
    (Idle file content station.desk ∨ ∃ position, 0 < position ∧ position < content.length ∧
      Downloading name file content position station.desk)

/-- A file whose last block ends below 2 GiB. -/
theorem between_step (resolved : fs.resolve (cached name) = some file)
    (filled : 0 < content.length) (small : content.length ≤ 2 ^ 31 - 2 ^ 19)
    (station : Station) (frame : Frame) (between : Between name file content station)
    (asks : Asks name frame) :
    InRange fs station frame ∧ Between name file content (sessionStep fs station frame).2 := by
  have bytes := blockBytes_eq
  have fits : content.length < 2 ^ 31 := by omega
  obtain ⟨seq, request, asked, named⟩ := asks
  obtain ⟨desk, up⟩ := station
  obtain ⟨rfl, at'⟩ := between
  -- the block at a position, whether the file has just been opened or not
  have block : ∀ position held, position < content.length →
      sending fs frame.luck request (setSeq (fun _ => seq) desk) = some held →
      Downloading name file content position held →
      InRange fs ⟨desk, true⟩ frame ∧
        Between name file content (sessionStep fs ⟨desk, true⟩ frame).2 := by
    intro position held inside sends downloading
    obtain ⟨inRange, later, result, next⟩ := block_step fs frame seq request desk held asked position
      sends downloading inside fits (by omega)
    rw [result]
    refine ⟨inRange, rfl, ?_⟩
    split_ifs at next with last
    · exact Or.inl (downloaded_idle later next)
    · exact Or.inr ⟨position + blockBytes, by omega, by omega, next⟩
  rcases at' with idle | ⟨position, started, inside, downloading⟩
  · by_cases granted : offered fs frame.luck request.name desk.host = true ∧
        frame.luck.opens = true
    · obtain ⟨held, sends, downloading⟩ := idle_sending fs resolved frame.luck request named
        (setSeq (fun _ => seq) desk) filled fits ⟨idle.closed, idle.start, idle.size, idle.stored⟩
        granted.1 granted.2
      exact block 0 held filled sends downloading
    · obtain ⟨inRange, later, result, still, -⟩ := idle_step fs frame seq request desk asked idle
        granted
      rw [result]
      exact ⟨inRange, rfl, Or.inl still⟩
  · obtain ⟨held, sends, still⟩ := held_sending fs resolved frame.luck request named
      (setSeq (fun _ => seq) desk) position started inside fits
      (downloading_setSeq _ position desk downloading)
    exact block position held inside sends still

/-- A file that reaches into the last block below 2 GiB: in the middle of it. -/
theorem large_run (resolved : fs.resolve (cached name) = some file)
    (large : 2 ^ 31 - 2 ^ 19 < content.length) (fits : content.length < 2 ^ 31)
    (frames : List Frame) (asks : ∀ frame ∈ frames, Asks name frame) (sent position : Nat)
    (here : position = sent * 524288) (started : 0 < sent) (room : sent ≤ 4095) (desk : Desk)
    (downloading : Downloading name file content position desk) :
    Along (sessionStep fs) (InRange fs) ⟨desk, true⟩ frames ↔ sent + frames.length < 4096 := by
  have bytes := blockBytes_eq
  induction frames generalizing sent position desk with
  | nil => exact iff_of_true trivial (by simpa using Nat.lt_succ_of_le room)
  | cons frame rest ih =>
      obtain ⟨seq, request, asked, named⟩ := asks frame List.mem_cons_self
      obtain ⟨held, sends, still⟩ := held_sending fs resolved frame.luck request named
        (setSeq (fun _ => seq) desk) position (by omega) (by omega) fits
        (downloading_setSeq _ position desk downloading)
      by_cases last : sent = 4095
      · apply iff_of_false
        · rintro ⟨inRange, -⟩
          exact overflow_step fs frame seq request desk held asked position sends still (by omega)
            fits (by omega) inRange
        · rw [List.length_cons]
          omega
      · obtain ⟨inRange, later, result, next⟩ := block_step fs frame seq request desk held asked
          position sends still (by omega) fits (by omega)
        rw [if_neg (by omega)] at next
        have behind : Along (sessionStep fs) (InRange fs) ⟨later, true⟩ rest ↔
            sent + 1 + rest.length < 4096 :=
          ih (fun other member => asks other (List.mem_cons_of_mem frame member))
            (sent + 1) (position + blockBytes) (by omega) (Nat.succ_pos sent) (by omega) later next
        rw [Along, result, behind, List.length_cons]
        constructor
        · rintro ⟨-, more⟩
          omega
        · intro more
          exact ⟨inRange, by omega⟩

/-- From the first request on. -/
theorem large_run_idle (resolved : fs.resolve (cached name) = some file)
    (large : 2 ^ 31 - 2 ^ 19 < content.length) (fits : content.length < 2 ^ 31)
    (frames : List Frame) (asks : ∀ frame ∈ frames, Asks name frame) (desk : Desk)
    (idle : Idle file content desk) :
    Along (sessionStep fs) (InRange fs) ⟨desk, true⟩ frames ↔
      (fromOpening fs name desk.host frames).length < 4096 := by
  have bytes := blockBytes_eq
  induction frames generalizing desk with
  | nil => exact iff_of_true trivial (by simp [fromOpening])
  | cons frame rest ih =>
      obtain ⟨seq, request, asked, rfl⟩ := asks frame List.mem_cons_self
      have later := fun other member => asks other (List.mem_cons_of_mem frame member)
      rw [fromOpening, Along]
      by_cases granted : offered fs frame.luck request.name desk.host = true ∧
          frame.luck.opens = true
      · obtain ⟨held, sends, downloading⟩ := idle_sending fs resolved frame.luck request rfl
          (setSeq (fun _ => seq) desk) (by omega) fits
          ⟨idle.closed, idle.start, idle.size, idle.stored⟩ granted.1 granted.2
        obtain ⟨inRange, after, result, next⟩ := block_step fs frame seq request desk held asked 0
          sends downloading (by omega) fits (by omega)
        rw [if_neg (by omega)] at next
        have behind := large_run fs resolved large fits rest later 1 (0 + blockBytes) (by omega)
          Nat.one_pos (by omega) after next
        rw [if_pos granted, result, behind, List.length_cons]
        constructor
        · rintro ⟨-, more⟩
          omega
        · intro more
          exact ⟨inRange, by omega⟩
      · obtain ⟨inRange, after, result, still, host⟩ := idle_step fs frame seq request desk asked idle
          granted
        have behind : Along (sessionStep fs) (InRange fs) ⟨after, true⟩ rest ↔
            (fromOpening fs request.name after.host rest).length < 4096 := ih later after still
        rw [if_neg granted, result, behind, host]
        exact and_iff_right inRange

/-- All numbers stay in range exactly if the file leaves the last block below
2 GiB free, or fewer than 4096 requests are made once it has been opened. -/
theorem downloads_in_range_iff (resolved : fs.resolve (cached name) = some file) (desk : Desk)
    (idle : Idle file content desk) (filled : 1 ≤ content.length)
    (fits : content.length ≤ 2 ^ 31 - 1) (frames : List Frame)
    (asks : ∀ frame ∈ frames, Asks name frame) :
    Along (sessionStep fs) (InRange fs) ⟨desk, true⟩ frames ↔
      content.length ≤ 2 ^ 31 - 2 ^ 19 ∨ (fromOpening fs name desk.host frames).length < 4096 := by
  by_cases small : content.length ≤ 2 ^ 31 - 2 ^ 19
  · apply iff_of_true _ (Or.inl small)
    have along : Along (sessionStep fs) (fun _ frame => Asks name frame) ⟨desk, true⟩ frames :=
      along_of_mem (sessionStep fs) ⟨desk, true⟩ frames asks
    exact along_of_invariant (sessionStep fs)
      (fun station frame between asks =>
        (between_step fs resolved filled small station frame between asks).1)
      (fun station frame between asks =>
        (between_step fs resolved filled small station frame between asks).2)
      ⟨desk, true⟩ frames ⟨rfl, Or.inl idle⟩ along
  · rw [large_run_idle fs resolved (by omega) (by omega) frames asks desk idle]
    exact (or_iff_right small).symm

end Runs

/-! A file of the greatest size that `m_filesize` can hold, and a small one. -/
section Sample

def holding (content : Bytes) : Desk where
  me := {}
  host := { files := OrderedMap.empty.set (cached [97]) content, m_listFiles := [[97]] }

def ask : Frame := requestFrame .download_req ⟨[97], 0, 0, []⟩ { seq := 1, probe := true, kept := 0 }

theorem holding_idle (content : Bytes) : Idle (cached [97]) content (holding content) := by
  refine ⟨rfl, rfl, rfl, ?_⟩
  rw [holding, OrderedMap.find?_set, if_pos rfl]

theorem ask_asks : Asks [97] ask := ⟨1, ⟨[97], 0, 0, []⟩, by decide +kernel, rfl⟩

theorem plain_resolves : plainFiles.resolve (cached [97]) = some (cached [97]) := by
  have other : cached [97] ≠ text "filecache" := cached_ne [97] _ (by decide +kernel)
  simp only [plainFiles, if_neg other]

theorem downloads_in_range_iff_small :
    Along (sessionStep plainFiles) (InRange plainFiles) ⟨holding [1, 2, 3], true⟩ [ask, ask] :=
  (downloads_in_range_iff plainFiles plain_resolves (holding [1, 2, 3]) (holding_idle [1, 2, 3])
    (by simp) (by simp) [ask, ask] (by simp [ask_asks])).mpr (Or.inl (by simp))

@[irreducible] def largestFile : Bytes := List.replicate (2 ^ 31 - 1) 0

theorem largestFile_length : largestFile.length = 2 ^ 31 - 1 := by
  rw [largestFile, List.length_replicate]

theorem last_block_overflows :
    Idle (cached [97]) largestFile (holding largestFile) ∧ largestFile.length = 2 ^ 31 - 1 ∧
    (∀ frame ∈ List.replicate 4096 ask, Asks [97] frame) ∧
    ¬ Along (sessionStep plainFiles) (InRange plainFiles) ⟨holding largestFile, true⟩
      (List.replicate 4096 ask) := by
  have asks : ∀ frame ∈ List.replicate 4096 ask, Asks [97] frame := by
    intro frame member
    rw [(List.mem_replicate.mp member).2]
    exact ask_asks
  have size := largestFile_length
  refine ⟨holding_idle largestFile, size, asks, ?_⟩
  rw [large_run_idle plainFiles plain_resolves (by omega) (by omega) _ asks _
    (holding_idle largestFile)]
  have first : offered plainFiles ask.luck [97] (holding largestFile).host = true := by
    rw [offered, isFileExsit, if_pos (by exact List.mem_cons_self)]
  rw [List.replicate_succ, fromOpening, if_pos ⟨first, rfl⟩, List.length_cons,
    List.length_replicate]
  omega

end Sample

end EdoyumIM.DownloadRange
