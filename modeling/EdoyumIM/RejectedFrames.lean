import EdoyumIM.ChatServer

/-!
What follows a frame that `Process` refuses. `OnRead` then calls `forceClose`
and goes on with the loop, so the frames that are already in the buffer are
still handed over; only a later callback no longer comes. Both servers run the
same loop, and the handler is left open here.
-/

namespace EdoyumIM.RejectedFrames

open MachineWords FieldCodec StreamFraming SessionFraming OrderedStore Effects ChatWorld ChatServer

abbrev chatFramer : Framer UInt8 Bytes Fault := sizeFramer 4 chatHeader_pos chatHeader_le

abbrev fileFramer : Framer UInt8 Bytes Fault := sizeFramer 8 fileHeader_pos fileHeader_le

/-- A refused frame is the last one handed over exactly if no whole frame stands
behind it among the bytes that have arrived when it is handed over. -/
theorem refused_frame_last {S : Type} (process : S → Bytes → Except Fault (Bool × S))
    (state : S) (segments : List Bytes) :
    (Final process state (ClientSession.receive process state segments).handed ↔
      Cleared chatFramer process state [] segments) ∧
    (Final process state (FileSession.receive process state segments).handed ↔
      Cleared fileFramer process state [] segments) :=
  ⟨feed_final chatFramer process segments state [] chatFramer.empty_waits,
    feed_final fileFramer process segments state [] fileFramer.empty_waits⟩

/-- `ClientSession::Process` for the frames of one connection. -/
def processOn (env : JsonValue.Env) (conn : Bytes) (mem : Nat → UInt8) (garbage : Int32)
    (world : World) (msgbuff : Bytes) : Except Fault (Bool × World) :=
  match world.m_mapclient.find? conn with
  | none => .ok (true, world)
  | some me =>
      let outcome := process env me conn mem garbage msgbuff world
      outcome.value.map fun accepted => (accepted, outcome.state)

def heartbeat : Bytes := ((header .headerbeart 1).writeString []).toBytes

/-- One read brings a frame without payload and a heartbeat: the first is
refused, the second is processed all the same. -/
theorem heartbeat_behind_refused :
    let world := (run (step sampleEnv) (boot sampleEnv {} (fun _ => true) 0) [.connect [1] 0]).2
    let process := processOn sampleEnv [1] (fun _ => 0) 0
    let segments := [(send BinaryWriter.fresh).1 ++ (send ⟨heartbeat, heartbeat.length⟩).1]
    (ClientSession.receive process world segments).handed = [[], heartbeat] ∧
    Rejects process world [] [] ∧
    ¬ Final process world (ClientSession.receive process world segments).handed := by
  intro world process segments
  have handed : (ClientSession.receive process world segments).handed = [[], heartbeat] := by
    decide +kernel
  have rejects : Rejects process world [] [] := ⟨world, world, rfl, rfl⟩
  refine ⟨handed, rejects, fun final => ?_⟩
  have last := final [] [] [heartbeat] handed rejects
  cases last

end EdoyumIM.RejectedFrames
